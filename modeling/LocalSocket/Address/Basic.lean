import LocalSocket.Bytes

/-!
# Addresses of local sockets

An address is a path.  The empty path stands for no address; a path whose first
byte is NUL is a name in the abstract namespace, and every other path is a file.
-/

namespace LocalSocket

structure Address where
  path : Bytes
  deriving DecidableEq, Repr

namespace Address

def unnamed : Address := ⟨[]⟩

def ofAbstractName (name : Bytes) : Address := ⟨0 :: name⟩

def isUnnamed (address : Address) : Bool :=
  address.path.isEmpty

def abstractName? (address : Address) : Option Bytes :=
  match address.path with
  | 0 :: name => some name
  | _ => none

def isFile (address : Address) : Bool :=
  !address.isUnnamed && address.abstractName?.isNone

@[simp] theorem abstractName?_ofAbstractName (name : Bytes) :
    (ofAbstractName name).abstractName? = some name := rfl

@[simp] theorem isUnnamed_unnamed : unnamed.isUnnamed = true := rfl

end Address

end LocalSocket
