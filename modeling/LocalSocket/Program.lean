import LocalSocket.Channel.State

/-!
# Programs over a channel

An operation on a channel is a program: a sequence of actions, each of which
gives back a result.  An action takes or gives up a lock, touches what the
threads share, or makes a system call.  Programs are data, so what an operation
does under every answer of the system and every interleaving with other threads
can be stated about the program itself.

A program does not run by itself: `Program.advance` takes it to the next action
that the surroundings have to answer.
-/

namespace LocalSocket

inductive Action where
  | acquire (lock : Lock)
  | release (lock : Lock)
  /-- The fields; the state lock is held. -/
  | fields
  | put (fields : Fields)
  | isOpen
  /-- Clears the open flag, and tells whether it was set. -/
  | closeOnce
  | isBlocking
  | setBlocking (blocking : Bool)
  | thread
  | own (fd : Fd) (state : Lifecycle) (blocking : Bool)
  | pause
  | call (request : Call)

abbrev Action.Result : Action → Type
  | fields => Fields
  | isOpen | closeOnce | isBlocking => Bool
  | thread => Thread
  | call request => request.Answer
  | _ => Unit

inductive Program : Type → Type 1 where
  | done {α : Type} (value : α) : Program α
  | act {α : Type} (action : Action) (next : action.Result → Program α) :
      Program α
  /-- Runs the body until it gives a value, and goes on with that. -/
  | loop {α β : Type} (body : Program (Option β)) (next : β → Program α) :
      Program α

namespace Program

protected def bind {α γ : Type} : Program α → (α → Program γ) → Program γ
  | .done value, f => f value
  | .act action next, f => .act action fun result => (next result).bind f
  | .loop body next, f => .loop body fun value => (next value).bind f

instance : Monad Program where
  pure := .done
  bind := Program.bind

def perform (action : Action) : Program action.Result :=
  .act action .done

def call (request : Call) : Program request.Answer :=
  perform (.call request)

/-- Repeats a call until it is not interrupted. -/
def retry (request : Call) : Program request.Answer :=
  .loop
    (.act (.call request) fun answer =>
      match answer with
      | .error error =>
          .done (if error.isInterrupted then none else some (.error error))
      | .ok value => .done (some (.ok value)))
    .done

def holding {α : Type} (lock : Lock) (body : Program α) : Program α := do
  perform (.acquire lock)
  let value ← body
  perform (.release lock)
  pure value

theorem done_bind {α γ : Type} (value : α) (f : α → Program γ) :
    (Program.done value).bind f = f value := rfl

theorem bind_done {α : Type} (program : Program α) :
    program.bind .done = program := by
  induction program with
  | done => rfl
  | act action next ih =>
      simp only [Program.bind]; congr; funext result; exact ih result
  | loop body next _ ih =>
      simp only [Program.bind]; congr; funext value; exact ih value

theorem bind_assoc {α γ δ : Type} (program : Program α) (f : α → Program γ)
    (g : γ → Program δ) :
    (program.bind f).bind g = program.bind fun value => (f value).bind g := by
  induction program with
  | done => rfl
  | act action next ih =>
      simp only [Program.bind]; congr; funext result; exact ih result f
  | loop body next _ ih =>
      simp only [Program.bind]; congr; funext value; exact ih value f

end Program

/-! ## Running a program -/

inductive Performed (action : Action) where
  | answered (channel : Channel) (result : action.Result)
  | waits
  | outside

namespace Channel

def answer (channel : Channel) (thread : Thread) :
    (action : Action) → Performed action
  | .acquire lock =>
      match channel.locks.holder lock with
      | none =>
          .answered
            { channel with locks := channel.locks.setHolder lock (some thread) }
            ()
      | some _ => .waits
  | .release lock =>
      .answered { channel with locks := channel.locks.setHolder lock none } ()
  | .fields => .answered channel channel.fields
  | .put fields => .answered { channel with fields := fields } ()
  | .isOpen => .answered channel channel.isOpen
  | .closeOnce => .answered { channel with isOpen := false } channel.isOpen
  | .isBlocking => .answered channel channel.isBlocking
  | .setBlocking blocking =>
      .answered { channel with isBlocking := blocking } ()
  | .thread => .answered channel thread
  | .own fd state blocking => .answered (owning fd state blocking) ()
  | .pause => .outside
  | .call _ => .outside

theorem answer_acquire {channel channel' : Channel} {thread : Thread}
    {lock : Lock} {result : Unit} (answered :
      channel.answer thread (.acquire lock) = .answered channel' result) :
    channel.locks.holder lock = none ∧ channel' = { channel with
      locks := channel.locks.setHolder lock (some thread) } := by
  simp only [answer] at answered
  split at answered <;> cases answered
  exact ⟨‹_›, rfl⟩

end Channel

/-- Where a program comes to a halt: at its end, or at an action that waits for
a lock or for an answer from outside. -/
inductive Halt (α : Type) : Type 1 where
  | done (channel : Channel) (value : α)
  | before (channel : Channel) (action : Action)
      (next : action.Result → Program α)

namespace Program

/-- Runs a program to its next halt.  A loop that comes round without a halt
gives way to other threads. -/
def advance {α : Type} (thread : Thread) : Program α → Channel → Halt α
  | .done value, channel => .done channel value
  | .act action next, channel =>
      match channel.answer thread action with
      | .answered channel result => (next result).advance thread channel
      | .waits | .outside => .before channel action next
  | .loop body next, channel =>
      match body.advance thread channel with
      | .done channel (some value) => (next value).advance thread channel
      | .done channel none => .before channel .pause fun _ => .loop body next
      | .before channel action rest =>
          .before channel action fun result =>
            (rest result).bind fun
              | some value => next value
              | none => .loop body next

end Program

end LocalSocket
