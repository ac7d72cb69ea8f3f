import LocalSocket.Script.System

/-!
# Operations on a socket over a scripted system
-/

namespace LocalSocket.Script

inductive SocketStep where
  | operate (fd : Fd) (operation : Socket.Operation)
  | push (queue : Queue) (item : Item)

structure SocketEntry where
  reply : Option Socket.Reply
  calls : List Call

def runCalls {α : Type} :
    (patience : Nat) → Program α → System → List Call →
    System × List Call × Option α
  | 0, _, system, calls => (system, calls, none)
  | patience + 1, program, system, calls =>
      match program.advance 0 .uninitialized with
      | .done _ value => (system, calls, some value)
      | .before _ (.call call) next =>
          let (item, system) := system.take call
          let (system, answer) := system.answer item.outcome call
          runCalls patience (next answer) system (calls ++ [call])
      | .before .. => (system, calls, none)

def socketStep (patience : Nat) (system : System) :
    SocketStep → System × SocketEntry
  | .push queue item => (system.push queue item, ⟨none, []⟩)
  | .operate fd operation =>
      let (system, calls, reply) :=
        runCalls patience (operation.program fd) system []
      (system, ⟨reply, calls⟩)

def socketSession (script : Items) (steps : List SocketStep) :
    List SocketEntry × Bytes :=
  let patience := script.length + steps.length + 64
  let (system, entries) :=
    steps.foldl
      (fun (system, entries) step =>
        let (system, entry) := socketStep patience system step
        (system, entries ++ [entry]))
      (({ script } : System), [])
  (entries, system.written)

end LocalSocket.Script
