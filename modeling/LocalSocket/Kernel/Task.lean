import LocalSocket.Kernel.Calls
import LocalSocket.Program

/-!
# Threads over the kernel

A task is a thread in the middle of a program.  It runs until it has to wait:
for a call that cannot be completed yet, for a lock, or for other threads to
have their turn.

A signal makes the call that a thread waits in fail as interrupted.  A signal
that comes when its thread is not inside a call is lost.
-/

namespace LocalSocket.Kernel

inductive Task (α : Type) : Type 1 where
  | done (value : α)
  | ready (program : Program α)
  | inside (call : Call) (moved : Nat) (next : call.Answer → Program α)

namespace Task

structure Progress (α : Type) : Type 1 where
  kernel : Kernel
  channel : Channel
  task : Task α
  advanced : Bool

def answer {α : Type} (call : Call) (next : call.Answer → Program α) :
    Attempt call.Value → Task α
  | .gives value => .ready (next (.ok value))
  | .fails errno => .ready (next (.error (.code errno)))
  | .waits moved => .inside call moved next

def isInside {α : Type} : Task α → Bool
  | .inside .. => true
  | _ => false

def resume {α : Type} (thread : Thread) (kernel : Kernel) (call : Call)
    (moved : Nat) (next : call.Answer → Program α) : Kernel × Task α :=
  match kernel.attempt (some moved) call with
  | (kernel, .waits moved) =>
      if thread ∈ kernel.signalled then
          (kernel, .ready (next (cutShort Errno.interrupted moved call)))
      else (kernel, .inside call moved next)
  | (kernel, attempt) => (kernel, answer call next attempt)

/-- Runs a thread until it has ended or has to wait, with at most `patience`
calls. -/
def run {α : Type} (thread : Thread) :
    (patience : Nat) → Kernel → Channel → Task α → (advanced : Bool) →
    Progress α
  | 0, kernel, channel, task, advanced => ⟨kernel, channel, task, advanced⟩
  | _, kernel, channel, .done value, advanced =>
      ⟨kernel, channel, .done value, advanced⟩
  | patience + 1, kernel, channel, .inside call moved next, advanced =>
      let (kernel, task) := resume thread kernel call moved next
      if task.isInside then ⟨kernel, channel, task, advanced⟩
      else run thread patience kernel channel task true
  | patience + 1, kernel, channel, .ready program, advanced =>
      match program.advance thread channel with
      | .done channel value => ⟨kernel, channel, .done value, true⟩
      | .before channel (.call call) next =>
          let kernel :=
            { kernel with signalled := kernel.signalled.filter (· != thread) }
          let (kernel, attempt) := kernel.attempt none call
          let task := answer call next attempt
          if task.isInside then ⟨kernel, channel, task, true⟩
          else run thread patience kernel channel task true
      | .before channel .pause next => ⟨kernel, channel, .ready (next ()), true⟩
      | .before channel action next =>
          ⟨kernel, channel, .ready (.act action next), advanced⟩

def patience : Nat := 100000

def limit? {α : Type} (kernel : Kernel) : Task α → Option Nat
  | .inside call _ _ => kernel.limit? call
  | _ => none

def expire {α : Type} : Task α → Task α
  | .inside call moved next => .ready (next (expired moved call))
  | task => task

end Task

end LocalSocket.Kernel
