/-!
# Credentials

The identity of the process at the other end of a connection.
-/

namespace LocalSocket

structure Credentials where
  processId : Int
  userId : Nat
  groupId : Nat
  deriving DecidableEq, Repr

def Credentials.text (credentials : Credentials) : String :=
  "[uid=" ++ toString credentials.userId ++ " gid=" ++
    toString credentials.groupId ++
    " pid=" ++ toString credentials.processId ++ "]"

end LocalSocket
