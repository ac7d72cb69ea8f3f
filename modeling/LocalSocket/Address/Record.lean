import LocalSocket.Address.Text

/-!
# Address records

The record in which system calls take and report addresses: the address family,
then a path field of fixed size.  The length counts the bytes in use, of which
the first two are the family.

A file's path is stored with a NUL byte behind it and passed with the full size
of the record; an abstract name is exactly as long as the record says; a record
of just the family has no address.
-/

namespace LocalSocket

namespace Record

def pathSize : Nat := 108

def pathOffset : Nat := 2

def fullLength : Nat := pathOffset + pathSize

end Record

inductive PathFault where
  | abstractNameTooLong | containsNul | pathTooLong
  deriving DecidableEq, Repr

def PathFault.reason : PathFault → String
  | .abstractNameTooLong => "abstract name is too long"
  | .containsNul => "path contains a NUL byte"
  | .pathTooLong => "path is too long"

structure Record where
  path : Bytes
  length : Nat
  length_path : path.length = Record.pathSize
  deriving DecidableEq

namespace Record

def holding (bytes : Bytes) (length : Nat) : Record where
  path := Bytes.padTo pathSize (bytes.take pathSize)
  length := length
  length_path := Bytes.length_padTo (List.length_take_le _ _)

def unnamed : Record := holding [] pathOffset

/-- The record of an address; nothing is ever cut off. -/
def ofAddress (address : Address) : Except PathFault Record :=
  let path := address.path
  match path with
  | [] => .ok unnamed
  | 0 :: _ =>
      if path.length > pathSize then .error .abstractNameTooLong
      else .ok (holding path (pathOffset + path.length))
  | _ =>
      if path.contains 0 then .error .containsNul
      else if path.length ≥ pathSize then .error .pathTooLong
      else .ok (holding path fullLength)

def used (record : Record) : Bytes :=
  record.path.take (record.length - pathOffset)

/-- The address in a record, however it was filled in: an abstract name with all
its bytes, or a path up to its NUL byte. -/
def toAddress (record : Record) : Address :=
  match record.used with
  | 0 :: name => ⟨0 :: name⟩
  | bytes => ⟨bytes.takeWhile (· ≠ 0)⟩

def raw (record : Record) : Bytes :=
  [1, 0] ++ record.path

def inspect (record : Record) : String :=
  "SockAddrUn \x7b addr: " ++ record.toAddress.inspect ++ ", len: " ++
    toString record.length
    ++ " \x7d"

end Record

end LocalSocket
