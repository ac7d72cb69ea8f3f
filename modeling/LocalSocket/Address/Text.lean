import LocalSocket.Address.Basic
import LocalSocket.Text.Quoted

/-!
# The text of an address

An abstract name is written after an "@", a path as it is, and the address of no
socket as "(unnamed)".  Reading takes every text but the empty one; what is not
an abstract name is a path.
-/

namespace LocalSocket

inductive AddressError where
  | empty
  deriving DecidableEq, Repr

def AddressError.message : AddressError → String
  | .empty => "invalid Unix-domain socket address: must not be empty"

namespace Address

def text (address : Address) : String :=
  match address.path with
  | [] => "(unnamed)"
  | 0 :: name => "@" ++ Text.lossy name
  | path => Text.lossy path

def parseChars : List Char → Except AddressError Address
  | [] => .error .empty
  | '@' :: name => .ok (ofAbstractName (name.flatMap String.utf8EncodeChar))
  | path => .ok ⟨path.flatMap String.utf8EncodeChar⟩

def parse (text : String) : Except AddressError Address :=
  parseChars text.toList

def inspect (address : Address) : String :=
  "UnixSocketAddr \x7b path: " ++ Text.quoted address.path ++ " \x7d"

end Address

end LocalSocket
