import LocalSocket.Address.Basic

/-!
# Comparing addresses

Addresses are compared as paths, component by component: repeated and trailing
slashes do not count, nor does a component "." that is not the first of a
relative path.  NUL bytes have no special meaning here.
-/

namespace LocalSocket

/-- A part of a path.  The constructors are in ascending order. -/
inductive Component where
  | root
  | current
  | parent
  | name (bytes : Bytes)
  deriving DecidableEq, Repr

namespace Component

def rank : Component → Nat
  | root => 0
  | current => 1
  | parent => 2
  | name _ => 3

def bytes : Component → Bytes
  | name bytes => bytes
  | _ => []

instance : Ord Component where
  compare a b := (compare a.rank b.rank).then (compare a.bytes b.bytes)

end Component

namespace Path

def slash : UInt8 := 0x2f

def dot : Bytes := [0x2e]

def dotDot : Bytes := [0x2e, 0x2e]

def parts (path : Bytes) : List Bytes :=
  path.splitOn slash

def component? (part : Bytes) : Option Component :=
  if part = [] ∨ part = dot then none
  else if part = dotDot then some .parent
  else some (.name part)

def components (path : Bytes) : List Component :=
  match parts path with
  | [] => []
  | first :: rest =>
      let start : List Component :=
        if path.head? = some slash then [.root]
        else if first = dot then [.current]
        else (component? first).toList
      start ++ rest.filterMap component?

end Path

namespace Address

def components (address : Address) : List Component :=
  Path.components address.path

def same (a b : Address) : Bool :=
  a.components == b.components

def order (a b : Address) : Ordering :=
  compare a.components b.components

/-- Ascending; addresses that are the same path keep their order. -/
def sort (addresses : List Address) : List Address :=
  addresses.mergeSort fun a b => order a b != .gt

def distinct : List Address → List Address
  | [] => []
  | address :: rest =>
      address :: (distinct rest).filter fun other => !same address other

theorem same_refl (address : Address) : same address address = true := by
  simp [same]

theorem same_symm (a b : Address) : same a b = same b a := by
  simp only [same]
  exact BEq.comm

end Address

end LocalSocket
