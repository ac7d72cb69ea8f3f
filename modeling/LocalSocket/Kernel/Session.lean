import LocalSocket.Kernel.World

/-!
# Sessions over the kernel

A session starts with an empty folder and takes steps, one after the other.
Steps make objects, which are channels and plain sockets, name them, and use
them.  A new object under a name that is taken replaces the old one, which is
dropped.

A step can also be left to a worker.  The steps inside it are taken while the
worker waits, and the step is over when the worker has ended.
-/

namespace LocalSocket.Kernel

/-! ## Steps -/

inductive Activity where
  | operate (operation : Channel.Operation)
  | contract (operation : Socket.Operation)
  /-- Writes until nothing more is taken. -/
  | fill

inductive Step where
  | listen (name : String) (address : Address) (settings : Settings)
  | openConnected (name : String) (address : Address) (settings : Settings)
  | accept (name listener : String) (settings : Settings)
  | openChannel (name : String) (type : SocketType)
  | openSocket (name : String) (type : SocketType) (path : Option Bytes)
  | openPair (name other : String) (type : SocketType) (nonBlocking : Bool)
  | wrap (name : String)
  | drop (name : String)
  | makeNonBlocking (name : String)
  | makeFile (path : Bytes)
  | makeFolder (path : Bytes)
  | makeLink (target path : Bytes)
  | fileExists (path : Bytes)
  | isSocketFile (path : Bytes)
  | cleanup (address : Address)
  | onDescriptor (fd : Fd) (operation : Socket.Operation)
  | wakeDescriptor (fd : Fd)
  | setPayload (fd : Fd) (level number : Int) (payload : Payload)
  | act (name : String) (activity : Activity)
  | register (name : String) (number : Int)
  | deregister (name : String) (number : Int)
  | dropRegistration (name : String) (number : Int)
  | inBackground (name : String) (activity : Activity) (inside : List Step)

inductive Result where
  | finished
  | noSuchObject
  | noSuchRegistration
  | replied (reply : Reply)
  | failed (error : ChannelError)
  | notListening (error : ListenError)
  | notClean (error : CleanupError)
  | refused (error : OsError)
  | holds (value : Bool)
  | pair (first second : Except ChannelError Channel.Status)
  /-- The step waits for ever; no step of a session that ends does. -/
  | unfinished

structure Entry where
  result : Result
  status : Option Channel.Status := none
  inside : Option (List Entry) := none

/-! ## Programs of steps -/

def fillUnit : Nat := 1024

def fill (fd : Fd) : Program (Except ChannelError IoStatus) :=
  .loop
    (do
      let (outcome, _) ← Channel.write fd ⟨Bytes.zeros fillUnit, 0⟩
      match outcome with
      | .ok (.transferred _) => pure none
      | outcome => pure (some outcome))
    .done

def Activity.program (fd : Fd) : Activity → Program Reply
  | .operate operation => return .channel (← operation.program fd)
  | .contract operation => return .socket (← operation.program fd)
  | .fill => return .filled (← Kernel.fill fd)

def tooLong : OsError :=
  .custom .invalidInput "path must be shorter than SUN_LEN"

/-- How sessions make a record of a path.  Only its length is looked at, and the
record is as long as the path, with the NUL byte behind that of a file. -/
def encodePath : Listener.Encoding
  | [] => .ok .unnamed
  | 0 :: name =>
      if name.length ≥ Record.pathSize then .error tooLong
      else .ok (.holding (0 :: name) (Record.pathOffset + name.length + 1))
  | path =>
      if path.length ≥ Record.pathSize then .error tooLong
      else .ok (.holding path (Record.pathOffset + path.length + 1))

def bindPath (fd : Fd) (path : Bytes) : ExceptT OsError Program Unit :=
  match encodePath path with
  | .error error => throw error
  | .ok record => ExceptT.mk (Program.call (.bind fd record))

def openSocket (type : SocketType) (path : Option Bytes) :
    ExceptT OsError Program Fd := do
  let fd ← ExceptT.mk (Program.call (.socket type))
  match path with
  | none => pure fd
  | some path =>
      tryCatch (bindPath fd path) fun error => do
        let _ ← ExceptT.lift (Program.call (.close fd))
        throw error
      pure fd

namespace World

/-! ## Objects -/

def object? (world : World) (name : String) : Option Object :=
  world.objects.lookup name

def setObject (world : World) (name : String) (object : Object) : World :=
  { world with
    objects :=
      (name, object) ::
        world.objects.filter fun (other, _) => other != name }

def eraseObject (world : World) (name : String) : World :=
  { world with objects := world.objects.filter fun (other, _) => other != name }

def finish {α : Type} (world : World) (id : ChannelId) (program : Program α) :
    World :=
  let (world, _) := world.run id program
  world

def dispose (world : World) : Object → World
  | .socket fd =>
      let (world, _, _) := world.runNew (Program.call (.close fd))
      world
  | .channel id fd registrations =>
      let world := registrations.foldl
        (fun world _ => world.finish id
          (Channel.Operation.program fd .dropRegistration)) world
      world.finish id (Channel.Operation.program fd .close)

/-- Keeps a new object under a name; one that is there already is dropped. -/
def keep (world : World) (name : String) (object : Object) : World :=
  match world.object? name with
  | none => world.setObject name object
  | some old => (world.setObject name object).dispose old

def status (world : World) (id : ChannelId) : Channel.Status :=
  (world.channel id).status

/-! ## Single steps -/

def keepOpened (world : World) (name : String)
    (program : Program (Except ChannelError Fd)) :
    World × Entry :=
  match world.runNew program with
  | (world, id, some (.ok fd)) =>
      let status := world.status id
      (world.keep name (.channel id fd []),
        { result := .finished, status := some status })
  | (world, _, some (.error error)) => (world, { result := .failed error })
  | (world, _, none) => (world, { result := .unfinished })

def keepSocket {ε : Type} (world : World) (name : String) (failed : ε → Result)
    (program : Program (Except ε Fd)) : World × Entry :=
  match world.runNew program with
  | (world, _, some (.ok fd)) =>
      (world.keep name (.socket fd), { result := .finished })
  | (world, _, some (.error error)) => (world, { result := failed error })
  | (world, _, none) => (world, { result := .unfinished })

def report {ε α : Type} (world : World) (failed : ε → Result)
    (succeeded : α → Result) (program : Program (Except ε α)) : World × Entry :=
  match world.runNew program with
  | (world, _, some (.ok value)) => (world, { result := succeeded value })
  | (world, _, some (.error error)) => (world, { result := failed error })
  | (world, _, none) => (world, { result := .unfinished })

def adopt (world : World) (name : String) (fd : Fd) :
    World × Except ChannelError Channel.Status :=
  match world.runNew (Channel.wrap fd).run with
  | (world, id, some (.ok ())) =>
      let status := world.status id
      (world.keep name (.channel id fd []), .ok status)
  | (world, _, some (.error error)) => (world, .error error)
  | (world, _, none) => (world, .error .closed)

def openPair (world : World) (name other : String) (type : SocketType)
    (nonBlocking : Bool) :
    World × Entry :=
  let (kernel, fd, otherFd) := world.kernel.pair type
  let world := { world with kernel }
  let (world, _, _) :=
    world.runNew (Program.call (.setNonBlocking fd nonBlocking))
  let (world, first) := world.adopt name fd
  let (world, second) := world.adopt other otherFd
  (world, { result := .pair first second })

def wrap (world : World) (name : String) : World × Entry :=
  match world.object? name with
  | some (.socket fd) =>
      match (world.eraseObject name).adopt name fd with
      | (world, .ok status) =>
          (world, { result := .finished, status := some status })
      | (world, .error error) => (world, { result := .failed error })
  | _ => (world, { result := .noSuchObject })

def withSocket (world : World) (name : String) (use : Fd → World × Entry) :
    World × Entry :=
  match world.object? name with
  | some (.socket fd) => use fd
  | _ => (world, { result := .noSuchObject })

def withChannel (world : World) (name : String)
    (use : ChannelId → Fd → List Int → World × Entry) : World × Entry :=
  match world.object? name with
  | some (.channel id fd registrations) => use id fd registrations
  | _ => (world, { result := .noSuchObject })

def onFiles (world : World) (change : FileSystem → Except Errno FileSystem) :
    World × Entry :=
  match change world.kernel.files with
  | .ok files =>
      ({ world with kernel := { world.kernel with files } },
        { result := .finished })
  | .error errno => (world, { result := .refused (.code errno) })

def act (world : World) (id : ChannelId) (program : Program Reply) :
    World × Entry :=
  let (world, reply) := world.run id program
  let result :=
    match reply with
    | some reply => .replied reply
    | none => .unfinished
  (world, { result, status := some (world.status id) })

def register (world : World) (name : String) (number : Int) : World × Entry :=
  world.withChannel name fun id fd registrations =>
    match world.run id (Channel.Operation.program fd .register) with
    | (world, some .finished) =>
        let world :=
          if number ∈ registrations then
            world.finish id (Channel.Operation.program fd .dropRegistration)
          else world.setObject name (.channel id fd (number :: registrations))
        (world, { result := .finished, status := some (world.status id) })
    | (world, some reply) =>
        (world,
          { result := .replied (.channel reply),
            status := some (world.status id) })
    | (world, none) =>
        (world, { result := .unfinished, status := some (world.status id) })

def giveUp (world : World) (name : String) (number : Int)
    (operation : Channel.Operation) :
    World × Entry :=
  world.withChannel name fun id fd registrations =>
    if number ∈ registrations then
      let world := world.setObject name
          (.channel id fd (registrations.erase number))
      world.act id (Activity.program fd (.operate operation))
    else (world,
      { result := .noSuchRegistration, status := some (world.status id) })

def ended (world : World) (id : ChannelId) (reply : Option Reply)
    (inside : List Entry) :
    Entry where
  result :=
    match reply with
    | some reply => .replied reply
    | none => .unfinished
  status := some (world.status id)
  inside := some inside

mutual

def step (world : World) : Step → World × Entry
  | .listen name address settings =>
      world.keepSocket name .notListening
        (Listener.listen encodePath address settings).run
  | .openConnected name address settings =>
      world.keepOpened name (Channel.openConnected address settings).run
  | .accept name listener settings =>
      world.withSocket listener
        fun fd => world.keepOpened name (Channel.accept fd settings).run
  | .openChannel name type => world.keepOpened name (Channel.create type).run
  | .openSocket name type path =>
      world.keepSocket name .refused (Kernel.openSocket type path).run
  | .openPair name other type nonBlocking =>
      world.openPair name other type nonBlocking
  | .wrap name => world.wrap name
  | .drop name =>
      match world.object? name with
      | none => (world, { result := .noSuchObject })
      | some object =>
          ((world.eraseObject name).dispose object, { result := .finished })
  | .makeNonBlocking name =>
      world.withSocket name fun fd =>
        world.report .refused (fun _ => .finished)
          (Program.call (.setNonBlocking fd true))
  | .makeFile path => world.onFiles fun files => files.makeFile path
  | .makeFolder path => world.onFiles fun files => files.create path .folder
  | .makeLink target path =>
      world.onFiles fun files => files.create path (.link target)
  | .fileExists path =>
      (world, { result := .holds (world.kernel.files.entry path).isOk })
  | .isSocketFile path =>
      world.report .refused .holds (Listener.isSocketFile path)
  | .cleanup address =>
      world.report .notClean (fun _ => .finished) (Listener.cleanup address).run
  | .onDescriptor fd operation =>
      match world.runNew (Activity.program fd (.contract operation)) with
      | (world, _, some reply) => (world, { result := .replied reply })
      | (world, _, none) => (world, { result := .unfinished })
  | .wakeDescriptor fd =>
      world.report .refused (fun _ => .finished) (Program.call (.wake fd))
  | .setPayload fd level number payload =>
      world.report .refused (fun _ => .finished)
        (Program.call (.setOption fd level number payload))
  | .act name activity =>
      world.withChannel name fun id fd _ => world.act id (activity.program fd)
  | .register name number => world.register name number
  | .deregister name number => world.giveUp name number .deregister
  | .dropRegistration name number => world.giveUp name number .dropRegistration
  | .inBackground name activity inside =>
      match world.object? name with
      | some (.channel id fd _) =>
          let (world, thread) := world.spawn id (activity.program fd)
          let (world, entries) := world.steps inside
          let (world, reply) := world.join thread turns
          (world, world.ended id reply entries)
      | _ => (world, { result := .noSuchObject })

/-- Takes steps in order; after each of them, the workers go on as far as they
can. -/
def steps (world : World) : List Step → World × List Entry
  | [] => (world, [])
  | next :: rest =>
      let (world, entry) := world.step next
      let (world, _) := world.settle turns
      let (world, entries) := world.steps rest
      (world, entry :: entries)

end

end World

def session (steps : List Step) : List Entry :=
  let world : World := {}
  let (_, entries) := world.steps steps
  entries

end LocalSocket.Kernel
