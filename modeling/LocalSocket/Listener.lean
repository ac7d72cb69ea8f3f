import LocalSocket.Address.Parent
import LocalSocket.Settings.Basic
import LocalSocket.Socket

/-!
# Listening sockets

Before a socket listens at a file's path, a stale socket file there is removed,
unless the settings keep it, and missing folders are created.  Nothing but a
socket is ever removed.
-/

namespace LocalSocket.Listener

def nulInName : OsError :=
  .custom .invalidInput "file name contained an unexpected NUL byte"

def onFile {α : Type} (path : Bytes) (program : Program (Except OsError α)) :
    Program (Except OsError α) :=
  if path.contains 0 then pure (.error nulInName) else program

def isSocketFile (path : Bytes) : Program (Except OsError Bool) :=
  onFile path (Program.call (.isSocketFile path))

def makeFolders (path : Bytes) : Program (Except OsError Unit) :=
  onFile path (Program.call (.makeFolders path))

/-! ## Stale sockets -/

def cleanupFile (path : Bytes) : ExceptT CleanupError Program Unit := do
  let isSocket ← ExceptT.mk do
    match ← isSocketFile path with
    | .ok isSocket => pure (.ok isSocket)
    | .error error =>
        pure (if error.kind = .notFound then .ok false
              else .error (.stat error))
  if isSocket then
    match ← ExceptT.lift (Program.call (.unlink path)) with
    | .ok () => pure ()
    | .error error =>
        if error.kind = .notFound then pure () else throw (.unlink error)

def cleanup (address : Address) : ExceptT CleanupError Program Unit :=
  if address.isFile then cleanupFile address.path else pure ()

/-! ## Listening -/

/-- How the record to listen at is made of a path.  This is the business of a
library for sockets, which refuses a path for reasons of its own. -/
abbrev Encoding := Bytes → Except OsError Record

def prepare (address : Address) (settings : Settings) :
    ExceptT ListenError Program Unit := do
  if address.isFile then
    unless settings.keepStale do
      ExceptT.adapt .cleanup (cleanup address)
    match Path.parent? address.path with
    | none => pure ()
    | some folder =>
        ExceptT.adapt .makeParents (ExceptT.mk (makeFolders folder))

def start (fd : Fd) (record : Record) (address : Address)
    (settings : Settings) : ExceptT ListenError Program Unit := do
  prepare address settings
  ExceptT.adapt .bind (ExceptT.mk (Program.call (.bind fd record)))
  let backlog := settings.backlog.getD Settings.defaultBacklog
  ExceptT.adapt .listen (ExceptT.mk (Program.call (.listen fd backlog)))

/-- Opens a listening socket; it is released if anything fails. -/
def listen (encode : Encoding) (address : Address) (settings : Settings) :
    ExceptT ListenError Program Fd := do
  match encode address.path with
  | .error error => throw (.invalidPath error)
  | .ok record =>
      let fd ← ExceptT.adapt .createSocket
          (ExceptT.mk (Program.call (.socket .stream)))
      tryCatch (start fd record address settings) fun error => do
        let _ ← ExceptT.lift (Program.call (.close fd))
        throw error
      pure fd

end LocalSocket.Listener
