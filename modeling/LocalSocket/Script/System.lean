import LocalSocket.Channel.Operation
import LocalSocket.Socket.Operation

/-!
# A scripted system

A system that answers calls from queues of prepared items, one queue for each
kind of call.  A call without an item succeeds; what it then reports follows
from the calls before it, so that an option reads as it was set and a bound
address is the local one.

An item of a call that may block can hold steps for other threads to take while
the call is in progress.
-/

namespace LocalSocket.Script

/-- The queues of items.  Vectored transfers take from the queues of the plain
ones. -/
inductive Queue where
  | socket | read | write | close | wake | signal | setNonBlocking | connect
  | bind | localRecord | peerRecord | poll | shutdown | getOption | setOption
  deriving DecidableEq, Repr

def Queue.ofCall? : Call → Option Queue
  | .socket _ => some .socket
  | .read .. | .readMany .. => some .read
  | .write .. | .writeMany .. => some .write
  | .close _ => some .close
  | .wake _ => some .wake
  | .signal _ => some .signal
  | .setNonBlocking .. => some .setNonBlocking
  | .connect .. => some .connect
  | .bind .. => some .bind
  | .localRecord _ => some .localRecord
  | .peerRecord _ => some .peerRecord
  | .poll .. => some .poll
  | .shutdown .. => some .shutdown
  | .getOption .. => some .getOption
  | .setOption .. => some .setOption
  | _ => none

structure Outcome where
  failure : Option OsError := none
  fd : Option Fd := none
  data : Option Bytes := none
  count : Option Nat := none
  record : Option Record := none
  events : Option Events := none
  payload : Option Payload := none

mutual

inductive Item where
  | mk (outcome : Outcome) (during : Option (List Step))

/-- A step of a session on a channel.  Registrations are kept by number. -/
inductive Step where
  | operate (operation : Channel.Operation)
  | register (id : Int)
  | deregister (id : Int)
  | dropRegistration (id : Int)
  | push (queue : Queue) (item : Item)
  | written

end

namespace Item

def outcome : Item → Outcome
  | mk outcome _ => outcome

def during : Item → Option (List Step)
  | mk _ during => during

instance : Inhabited Item := ⟨mk {} none⟩

end Item

mutual

def Item.count : Item → Nat
  | .mk _ none => 1
  | .mk _ (some steps) => 1 + countPushed steps

def countPushed : List Step → Nat
  | [] => 0
  | .push _ item :: rest => item.count + countPushed rest
  | _ :: rest => countPushed rest

end

/-- Prepared items, each with its queue; the items of a queue are taken in
order. -/
abbrev Items := List (Queue × Item)

def takeItem (queue : Queue) : Items → Item × Items
  | [] => (default, [])
  | (other, item) :: rest =>
      if other = queue then (item, rest)
      else
        let (taken, rest) := takeItem queue rest
        (taken, (other, item) :: rest)

structure System where
  script : Items
  bound : Option Record := none
  peer : Option Record := none
  options : List ((Int × Int) × Payload) := []
  written : Bytes := []

namespace System

def firstFd : Fd := 101

/-- What an option that was never set reads as. -/
def zeroPayload : PayloadForm → Payload
  | .int => .int 0
  | .byte => .byte 0
  | .linger => .linger none
  | .timeval => .timeval .zero
  | .credentials => .credentials ⟨4242, 1000, 100⟩

def delivered (outcome : Outcome) (length : Nat) : Except OsError Bytes :=
  match outcome.data with
  | some data => .ok (data.take length)
  | none => .error (.code Errno.again)

def accepted (system : System) (outcome : Outcome) (offered : Bytes) :
    System × Nat :=
  let count := min (outcome.count.getD offered.length) offered.length
  ({ system with written := system.written ++ offered.take count }, count)

def succeed (system : System) (outcome : Outcome) :
    (call : Call) → System × call.Answer
  | .socket _ => (system, .ok (outcome.fd.getD firstFd))
  | .read _ length => (system, delivered outcome length)
  | .readMany _ lengths => (system, delivered outcome (total lengths))
  | .write _ bytes =>
      let (system, count) := system.accepted outcome bytes
      (system, .ok count)
  | .writeMany _ parts =>
      let (system, count) := system.accepted outcome parts.flatten
      (system, .ok count)
  | .bind _ record => ({ system with bound := some record }, .ok ())
  | .localRecord _ =>
      (system, .ok ((outcome.record <|> system.bound).getD .unnamed))
  | .peerRecord _ =>
      match outcome.record <|> system.peer with
      | some record => (system, .ok record)
      | none => (system, .error (.code Errno.notConnected))
  | .poll _ events _ => (system, .ok (outcome.events.getD events))
  | .getOption _ level number form =>
      let payload := outcome.payload <|> system.options.lookup (level, number)
      (system, .ok (payload.getD (zeroPayload form)))
  | .setOption _ level number payload =>
      ({ system with options := ((level, number), payload) :: system.options },
        .ok ())
  | .close _ | .wake _ | .signal _ | .setNonBlocking .. | .connect ..
  | .shutdown .. => (system, .ok ())
  | .isLocal .. | .isNonBlocking _ | .listen .. | .accept _ | .isSocketFile _
  | .unlink _ | .makeFolders _ => (system, .error (.code Errno.notImplemented))

/-- The answer to a call whose item says `outcome`.  A peer that was called is
remembered even if the call fails. -/
def answer (system : System) (outcome : Outcome) (call : Call) :
    System × call.Answer :=
  let system :=
    match call with
    | .connect _ record => { system with peer := some record }
    | _ => system
  match outcome.failure with
  | some failure => (system, .error failure)
  | none => system.succeed outcome call

def take (system : System) (call : Call) : Item × System :=
  match Queue.ofCall? call with
  | none => (default, system)
  | some queue =>
      let (item, script) := takeItem queue system.script
      (item, { system with script })

def push (system : System) (queue : Queue) (item : Item) : System :=
  { system with script := system.script ++ [(queue, item)] }

end System

end LocalSocket.Script
