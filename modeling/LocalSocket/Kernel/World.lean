import LocalSocket.Channel.Operation
import LocalSocket.Channel.Open
import LocalSocket.Kernel.Task
import LocalSocket.Listener
import LocalSocket.Socket.Operation

/-!
# Channels and threads over the kernel

A world has one kernel, any number of channels, and threads that use them: the
main thread, and threads in the background.  Whenever the main thread has to
wait, or has taken a step, the others go on as far as they can.  If nobody can
go on, time passes until a wait that is limited is over.
-/

namespace LocalSocket.Kernel

abbrev ChannelId := Nat

inductive Reply where
  | channel (reply : Channel.Reply)
  | socket (reply : Socket.Reply)
  | filled (outcome : Except ChannelError IoStatus)

structure Worker : Type 1 where
  thread : Thread
  channel : ChannelId
  task : Task Reply

inductive Object where
  | channel (id : ChannelId) (fd : Fd) (registrations : List Int)
  | socket (fd : Fd)

structure World : Type 1 where
  kernel : Kernel := {}
  channels : List Channel := []
  workers : List Worker := []
  objects : List (String × Object) := []

namespace World

def addChannel (world : World) : World × ChannelId :=
  ({ world with channels := world.channels ++ [.uninitialized] },
    world.channels.length)

def channel (world : World) (id : ChannelId) : Channel :=
  world.channels.getD id .uninitialized

def proceed {α : Type} (world : World) (thread : Thread) (id : ChannelId)
    (task : Task α) :
    World × Task α × Bool :=
  let progress := task.run thread Task.patience world.kernel
      (world.channel id) false
  ({ world with
      kernel := progress.kernel
      channels := world.channels.set id progress.channel },
    progress.task, progress.advanced)

def setWorkers (world : World) (workers : List Worker) : World :=
  { world with workers }

def turn (world : World) : List Worker → World × List Worker × Bool
  | [] => (world, [], false)
  | worker :: rest =>
      let (world, task, advanced) :=
        world.proceed worker.thread worker.channel worker.task
      let (world, rest, others) := world.turn rest
      (world, { worker with task } :: rest, advanced || others)

/-- Lets the workers take turns until none of them can go on. -/
def settle (world : World) : (turns : Nat) → World × Bool
  | 0 => (world, false)
  | turns + 1 =>
      let (world, workers, advanced) := world.turn world.workers
      let world := world.setWorkers workers
      if advanced then
        let (world, _) := world.settle turns
        (world, true)
      else (world, false)

def turns : Nat := 100

/-! ## The passing of time -/

def leastLimit? (world : World) : Option Nat :=
  (world.workers.filterMap fun worker => worker.task.limit? world.kernel).min?

def expireWorkers (world : World) (limit : Nat) : World :=
  world.setWorkers <| world.workers.map fun worker =>
    match worker.task.limit? world.kernel with
    | some own => if own ≤ limit then { worker with task := worker.task.expire }
                  else worker
    | none => worker

/-- Lets time pass until a wait is over, be it that of `task` or of a worker.
The result tells whether one was. -/
def pass {α : Type} (world : World) (task : Task α) : World × Task α × Bool :=
  match task.limit? world.kernel, world.leastLimit? with
  | some own, some other =>
      if other < own then (world.expireWorkers other, task, true)
      else (world, task.expire, true)
  | some _, none => (world, task.expire, true)
  | none, some other => (world.expireWorkers other, task, true)
  | none, none => (world, task, false)

/-! ## Running programs -/

/-- Runs a task of the main thread to its end, while the workers take their
turns.  There is no value if it waits for ever. -/
def await {α : Type} (world : World) (id : ChannelId) (task : Task α) :
    (turns : Nat) → World × Option α
  | 0 => (world, none)
  | turns + 1 =>
      match world.proceed 0 id task with
      | (world, .done value, _) => (world, some value)
      | (world, task, advanced) =>
          let (world, others) := world.settle World.turns
          if advanced || others then world.await id task turns
          else
            let (world, task, hasPassed) := world.pass task
            if hasPassed then world.await id task turns else (world, none)

def run {α : Type} (world : World) (id : ChannelId) (program : Program α) :
    World × Option α :=
  world.await id (.ready program) turns

def runNew {α : Type} (world : World) (program : Program α) :
    World × ChannelId × Option α :=
  let (world, id) := world.addChannel
  let (world, value) := world.run id program
  (world, id, value)

/-! ## Workers -/

def freeThread (world : World) : Thread :=
  (world.workers.map Worker.thread).foldl max 0 + 1

def headStart : Nat := 20

def spawn (world : World) (id : ChannelId) (program : Program Reply) :
    World × Thread :=
  let thread := world.freeThread
  let world := world.setWorkers
      (world.workers ++ [⟨thread, id, .ready program⟩])
  let (world, _) := world.settle turns
  let (world, _) := (world.expireWorkers headStart).settle turns
  (world, thread)

def reply? (world : World) (thread : Thread) : Option Reply :=
  match world.workers.find? (·.thread = thread) with
  | some ⟨_, _, .done reply⟩ => some reply
  | _ => none

def join (world : World) (thread : Thread) :
    (turns : Nat) → World × Option Reply
  | 0 => (world, none)
  | turns + 1 =>
      let (world, _) := world.settle World.turns
      match world.reply? thread with
      | some reply =>
          (world.setWorkers (world.workers.filter (·.thread ≠ thread)),
            some reply)
      | none =>
          match world.leastLimit? with
          | some limit => (world.expireWorkers limit).join thread turns
          | none => (world, none)

end World

end LocalSocket.Kernel
