import LocalSocket.Channel.Open
import LocalSocket.Script.System

/-!
# Sessions over a scripted system

A session runs steps on one channel, one after the other, and records what each
of them replied and which calls it made.

The steps that an item holds are run inside the call it answers, as if by
another thread.  A step that needs a lock held by the threads it runs inside is
skipped.  A close that has to wait for those threads goes on in the background:
it has done its work up to the first signals, nothing more of its thread is
seen, and the calls it interrupted resume.
-/

namespace LocalSocket.Script

inductive Result where
  | created (fd : Fd)
  | failed (error : ChannelError)
  | finished
  | replied (reply : Channel.Reply)
  | lockHeld
  | noSuchRegistration
  | written (bytes : Bytes)
  | dropped
  /-- The step made more calls than there are items for; no step does. -/
  | unfinished

structure Entry where
  result : Result
  calls : List Call := []
  during : List (List Entry) := []
  status : Option Channel.Status := none

structure Session where
  fd : Fd
  channel : Channel
  system : System
  registrations : List Int := []
  patience : Nat

structure Trace where
  calls : List Call := []
  during : List (List Entry) := []

inductive Ending (α : Type) where
  | returned (value : α)
  | waits (value : α)
  | unfinished

abbrev Inside := List Step → Session → Session × List Entry

namespace Session

def settle {α : Type} (thread : Thread) (program : Program α)
    (channel : Channel) : Ending α :=
  let fields := { channel.fields with reader := none, writer := none }
  match program.advance thread { channel with fields } with
  | .done _ value => .waits value
  | .before .. => .unfinished

def run {α : Type} (inside : Inside) (thread : Thread) :
    (patience : Nat) → Program α → Session → Trace → Session × Trace × Ending α
  | 0, _, session, trace => (session, trace, .unfinished)
  | patience + 1, program, session, trace =>
      match program.advance thread session.channel with
      | .done channel value =>
        ({ session with channel }, trace, .returned value)
      | .before channel (.call call) next =>
          let (item, system) := session.system.take call
          let session := { session with channel, system }
          let trace := { trace with calls := trace.calls ++ [call] }
          let (session, trace) :=
            match item.during with
            | none => (session, trace)
            | some steps =>
                let (session, entries) := inside steps session
                (session, { trace with during := trace.during ++ [entries] })
          let (system, answer) := session.system.answer item.outcome call
          run inside thread patience (next answer) { session with system } trace
      | .before channel .pause next =>
          ({ session with channel }, trace, settle thread (next ()) channel)
      | .before channel _ _ => ({ session with channel }, trace, .unfinished)

def isLocked (session : Session) (operation : Channel.Operation) : Bool :=
  operation.locks.any fun lock => (session.channel.locks.holder lock).isSome

/-- Runs an operation.  The flag tells whether it goes on in the background. -/
def operate (inside : Inside) (thread : Thread) (operation : Channel.Operation)
    (session : Session) : Session × Trace × Result × Bool :=
  if session.isLocked operation then (session, {}, .lockHeld, false)
  else
    match run inside thread session.patience
      (operation.program session.fd) session {} with
    | (session, trace, .returned reply) =>
        (session, trace, .replied reply, false)
    | (session, trace, .waits reply) => (session, trace, .replied reply, true)
    | (session, trace, .unfinished) => (session, trace, .unfinished, false)

def giveUp (inside : Inside) (thread : Thread) (id : Int)
    (operation : Channel.Operation) (session : Session) :
    Session × Trace × Result × Bool :=
  if id ∈ session.registrations then
    operate inside thread operation
      { session with registrations := session.registrations.erase id }
  else (session, {}, .noSuchRegistration, false)

/-- Registers under `id`; a registration that is there already is dropped
afterwards. -/
def register (inside : Inside) (thread : Thread) (id : Int)
    (session : Session) :
    Session × Trace × Result × Bool :=
  match operate inside thread .register session with
  | (session, trace, .replied .finished, _) =>
      let (session, trace) :=
        if id ∈ session.registrations then
          let (session, dropped, _) :=
            operate inside thread .dropRegistration session
          (session, { trace with calls := trace.calls ++ dropped.calls })
        else ({ session with registrations := id :: session.registrations },
          trace)
      (session, trace, .replied .finished, false)
  | ended => ended

def step (inside : Inside) (thread : Thread) (step : Step) (session : Session) :
    Session × Entry × Bool :=
  let (session, trace, result, waits) :=
    match step with
    | .operate operation => operate inside thread operation session
    | .register id => register inside thread id session
    | .deregister id => giveUp inside thread id .deregister session
    | .dropRegistration id => giveUp inside thread id .dropRegistration session
    | .push queue item =>
        ({ session with system := session.system.push queue item }, {},
          .finished, false)
    | .written => (session, {}, .written session.system.written, false)
  (session, { result, calls := trace.calls, during := trace.during }, waits)

def steps (inside : Inside) (thread : Thread) :
    List Step → Session → Session × List Entry
  | [], session => (session, [])
  | next :: rest, session =>
      match step inside thread next session with
      | (session, entry, true) => (session, [entry])
      | (session, entry, false) =>
          let (session, entries) := steps inside thread rest session
          (session, entry :: entries)

/-- Runs steps inside calls that are `level` deep in each other.  A call with
steps inside holds the read or the write lock, so that calls are at most two
deep. -/
def inside (thread : Thread) : (levels : Nat) → Inside
  | 0, _, session => (session, [])
  | levels + 1, list, session =>
      steps (inside (thread + 1) levels) thread list session

def innermost : Nat := 3

def outer : List Step → Session → Session × List Entry
  | [], session => (session, [])
  | next :: rest, session =>
      let (session, entry, _) := step (inside 1 innermost) 0 next session
      let entry := { entry with status := some session.channel.status }
      let (session, entries) := outer rest session
      (session, entry :: entries)

def drop (session : Session) : Entry :=
  let (session, calls) :=
    (session.registrations.mergeSort (· ≤ ·)).foldl
      (fun (session, calls) _ =>
        let (session, trace, _) :=
          operate (inside 1 innermost) 0 .dropRegistration session
        (session, calls ++ trace.calls))
      (session, [])
  let (_, trace, _) := operate (inside 1 innermost) 0 .close session
  { result := .dropped, calls := calls ++ trace.calls }

end Session

/-- How many calls a program may make: those that are not repeated, and one for
each item, since a call is only repeated after an item has said so. -/
def patience (script : Items) (steps : List Step) : Nat :=
  total (script.map fun (_, item) => item.count) + countPushed steps + 64

def session (type : SocketType) (script : Items) (steps : List Step) :
    List Entry :=
  let start : Session :=
    { fd := 0, channel := .uninitialized, system := { script },
      patience := patience script steps }
  match
    Session.run (Session.inside 1 Session.innermost) 0 start.patience
      (Channel.create type).run
      start {}
  with
  | (session, trace, .returned (.ok fd)) =>
      let (session, entries) := { session with fd }.outer steps
      [{ result := .created fd, calls := trace.calls }] ++ entries ++
      [session.drop]
  | (_, trace, .returned (.error error)) =>
      [{ result := .failed error, calls := trace.calls }]
  | (_, trace, _) => [{ result := .unfinished, calls := trace.calls }]

end LocalSocket.Script
