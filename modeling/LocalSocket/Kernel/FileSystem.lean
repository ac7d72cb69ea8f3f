import LocalSocket.Address.Parent
import LocalSocket.Errno

/-!
# Files

A tree of folders, with plain files, devices, symbolic links and sockets in it.

A path is followed name by name, from the root folder if it starts with a slash
and from the current folder otherwise.  Links on the way are followed; one at
the end is only followed where a function says so.
-/

namespace LocalSocket.Kernel

abbrev SocketId := Nat

inductive Node where
  | folder
  | file
  | device
  | link (target : Bytes)
  | socket (id : SocketId)
  deriving DecidableEq, Repr

abbrev Location := List Bytes

structure FileSystem where
  nodes : List (Location × Node)
  current : Location
  deriving DecidableEq, Repr

namespace FileSystem

def nameMax : Nat := 255

def pathMax : Nat := 4096

def linkMax : Nat := 40

def initial : FileSystem :=
  let dev := Bytes.ofString "dev"
  let tmp := Bytes.ofString "tmp"
  let current := [tmp, Bytes.ofString "session"]
  { nodes :=
      [([], .folder), ([dev], .folder), ([dev, Bytes.ofString "null"], .device),
        ([tmp], .folder), (current, .folder)]
    current }

def node? (files : FileSystem) (location : Location) : Option Node :=
  files.nodes.lookup location

def isFolder (files : FileSystem) (location : Location) : Bool :=
  files.node? location == some .folder

def insert (files : FileSystem) (location : Location) (node : Node) :
    FileSystem :=
  { files with nodes := (location, node) :: files.nodes }

def erase (files : FileSystem) (location : Location) : FileSystem :=
  { files with nodes := files.nodes.filter fun (other, _) => other != location }

/-! ## Following paths -/

def start (folder : Location) (path : Bytes) : Location :=
  if path.head? = some Path.slash then [] else folder

/-- Follows names from `here`, to the place of a file that need not exist.
Empty names and "." stay where they are, but only in a folder. -/
def walk (files : FileSystem) (followLast : Bool) (links : Nat)
    (here : Location) :
    List Bytes → Except Errno Location
  | [] => .ok here
  | name :: rest =>
      if !files.isFolder here then .error Errno.notDirectory
      else if name = [] ∨ name = Path.dot then
        files.walk followLast links here rest
      else if name = Path.dotDot then
        files.walk followLast links here.dropLast rest
      else if name.length > nameMax then .error Errno.nameTooLong
      else
        let there := here ++ [name]
        match files.node? there with
        | none => if rest.isEmpty then .ok there else .error Errno.noEntry
        | some (.link target) =>
            if rest.isEmpty && !followLast then .ok there
            else
              match links with
              | 0 => .error Errno.tooManySymlinks
              | links + 1 =>
                  files.walk followLast links (start here target)
                    (Path.parts target ++ rest)
        | some _ => files.walk followLast links there rest
  termination_by names => (links, names.length)

def place (files : FileSystem) (followLast : Bool) (path : Bytes) :
    Except Errno Location :=
  if path.isEmpty then .error Errno.noEntry
  else if path.length ≥ pathMax then .error Errno.nameTooLong
  else files.walk followLast linkMax (start files.current path)
    (Path.parts path)

def find (files : FileSystem) (followLast : Bool) (path : Bytes) :
    Except Errno (Location × Node) := do
  let location ← files.place followLast path
  match files.node? location with
  | some node => .ok (location, node)
  | none => .error Errno.noEntry

def target (files : FileSystem) (path : Bytes) : Except Errno Node :=
  (files.find true path).map (·.2)

def entry (files : FileSystem) (path : Bytes) : Except Errno Node :=
  (files.find false path).map (·.2)

def isFolderAt (files : FileSystem) (path : Bytes) : Bool :=
  match files.target path with
  | .ok .folder => true
  | _ => false

def isSocketFile (files : FileSystem) (path : Bytes) : Except Errno Bool := do
  match ← files.entry path with
  | .socket _ => .ok true
  | _ => .ok false

/-! ## Creating and removing files -/

def trimSlashes (path : Bytes) : Bytes :=
  (path.reverse.dropWhile (· = Path.slash)).reverse

/-- Creates a file, where there is none yet.  Only the path of a folder may end
in a slash. -/
def create (files : FileSystem) (path : Bytes) (node : Node) :
    Except Errno FileSystem := do
  let trimmed := trimSlashes path
  let location ← files.place false (if trimmed.isEmpty then path else trimmed)
  if (files.node? location).isSome then throw Errno.fileExists
  if trimmed ≠ path ∧ node ≠ .folder then throw Errno.noEntry
  pure (files.insert location node)

def unlink (files : FileSystem) (path : Bytes) : Except Errno FileSystem := do
  match ← files.find false path with
  | (_, .folder) => .error Errno.isDirectory
  | (location, _) => .ok (files.erase location)

/-- Creates a plain file, unless there is one already. -/
def makeFile (files : FileSystem) (path : Bytes) : Except Errno FileSystem := do
  let location ← files.place true path
  match files.node? location with
  | none => .ok (files.insert location .file)
  | some .folder => .error Errno.isDirectory
  | some (.socket _) => .error Errno.noDevice
  | some _ => .ok files

def makeFolder (files : FileSystem) (path : Bytes) : Except Errno FileSystem :=
  match files.create path .folder with
  | .ok files => .ok files
  | .error errno => if files.isFolderAt path then .ok files else .error errno

/-- Creates a folder and those it is in, as far as they are missing.  Each is in
a path of fewer components, so that `depth` counts down to the first. -/
def makeFoldersWithin (files : FileSystem) :
    (depth : Nat) → Bytes → Except Errno FileSystem
  | 0, _ => .error Errno.noEntry
  | depth + 1, path =>
      if path.isEmpty then .ok files
      else
        match files.makeFolder path with
        | .ok files => .ok files
        | .error errno =>
            if errno = Errno.noEntry then
              match Path.parent? path with
              | none => .error Errno.noEntry
              | some parent => do
                  let files ← files.makeFoldersWithin depth parent
                  files.makeFolder path
            else .error errno

def makeFolders (files : FileSystem) (path : Bytes) : Except Errno FileSystem :=
  files.makeFoldersWithin (path.length + 1) path

end FileSystem

end LocalSocket.Kernel
