import LocalSocket.Address.Components

/-!
# The folder that a path is in
-/

namespace LocalSocket.Path

def ofComponent : Component → Bytes
  | .root => []
  | .current => dot
  | .parent => dotDot
  | .name bytes => bytes

def ofComponents : List Component → Bytes
  | [.root] => [slash]
  | components => [slash].intercalate (components.map ofComponent)

/-- The path without its last component; the root folder and the empty path are
in no folder. -/
def parent? (path : Bytes) : Option Bytes :=
  match components path with
  | [] | [.root] => none
  | components => some (ofComponents components.dropLast)

end LocalSocket.Path
