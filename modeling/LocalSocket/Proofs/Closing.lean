import LocalSocket.Proofs.Aloof
import LocalSocket.Proofs.Maintaining

/-!
# How a channel is closed

The first thread that clears the open flag closes the channel: it takes the
state lock, wakes the users of the descriptor if there are any, gives the lock
up, and then signals users until there are none.  Whoever clears the flag later
has nothing left to do but to give up the locks that it holds.

The conduct of a thread tells how far its own attempt has got, whatever the
system and the other threads do.
-/

namespace LocalSocket

inductive Stage where
  | untried
  /-- The channel had been closed before. -/
  | late
  /-- The thread has closed the channel. -/
  | opened
  /-- It has the state lock, -/
  | shutting
  /-- and has woken the users of the descriptor. -/
  | woken
  /-- It has given up the state lock, and signals the users that are left. -/
  | waking
  /-- Nobody is left to be signalled, or nobody can be. -/
  | past
  deriving DecidableEq

namespace Stage

/-- The thread has closed the channel, and is not done with it. -/
def isBusy : Stage → Bool
  | opened | shutting | woken | waking => true
  | untried | late | past => false

def isFirst : Stage → Bool
  | untried | late => false
  | opened | shutting | woken | waking | past => true

/-- The locked part of closing is still to be done, or under way. -/
def isShutting : Stage → Bool
  | opened | shutting | woken => true
  | untried | late | waking | past => false

end Stage

structure Conduct where
  operation : Option Channel.Operation := none
  stage : Stage := .untried
  /-- The fields, as they were last looked at or written under the state
  lock. -/
  known : Option Fields := none
  /-- How the last attempt to release the descriptor has failed. -/
  failure : Option (Fd × OsError) := none

namespace Conduct

/-- The thread has the state lock, to close the channel. -/
def IsShuttingDown (s : Conduct) : Prop :=
  s.stage = .shutting ∨ s.stage = .woken

def after (s : Conduct) : (action : Action) → action.Result → Conduct
  | .acquire .state, _ =>
      { s with stage := if s.stage = .opened then .shutting else s.stage }
  | .release .state, _ =>
      { s with
        known := none
        stage := if s.stage = .shutting ∨ s.stage = .woken then .waking
          else s.stage }
  | .fields, fields =>
      { s with
        known := some fields
        stage := if s.stage = .waking ∧ fields.threads = [] then .past
          else s.stage }
  | .put fields, _ => { s with known := some fields }
  | .closeOnce, first =>
      { s with stage := if first = true then .opened else .late }
  | .call (.wake _), _ => { s with stage := .woken }
  | .call (.signal _), .error _ => { s with stage := .past }
  | .call (.close fd), .error error =>
      if error.isInterrupted = true then s
      else { s with failure := some (fd, error) }
  | _, _ => s

/-- The fields are written before the thread has tried to close the channel, or
when it shuts the channel down. -/
def MayWrite (s : Conduct) : Prop :=
  s.stage = .untried ∨ s.IsShuttingDown

/-- A thread may record itself as a user before it has tried to close the
channel, in an operation in which it may be blocked. -/
def MayEnter (s : Conduct) : Prop :=
  s.stage = .untried ∧
    ∃ operation, s.operation = some operation ∧ operation.isAloof = false

/-- Nobody is recorded anew, unless the thread may record itself. -/
def MayPut (s : Conduct) (fields : Fields) : Prop :=
  ∃ known, s.known = some known ∧ (s.MayEnter ∨
    ∀ direction user, fields.slot direction = some user →
      known.slot direction = some user)

def Allows (s : Conduct) : Action → Prop
  | .closeOnce => s.stage = .untried
  | .release .state => s.stage ≠ .late ∧ s.stage ≠ .opened
  | .release _ =>
      s.stage.isBusy = false ∧ (s.stage = .late → s.operation ≠ some .close)
  | .put fields => s.MayWrite ∧ s.MayPut fields
  | .call (.signal _) => s.stage = .waking
  | .call (.wake _) =>
      s.stage = .shutting ∧
        ∃ fields, s.known = some fields ∧ fields.threads ≠ []
  | _ => s.stage ≠ .late

end Conduct

def Channel.Reply.error? : Reply → Option ChannelError
  | .failed error | .moved (.error error) _ | .movedMany (.error error) _ =>
      some error
  | _ => none

/-- How threads close a channel, and find it closed. -/
def conduct : Protocol Conduct where
  act _ s action k :=
    s.Allows action ∧ ∀ result, k result (s.after action result)
  mono := fun himp h => ⟨h.1, fun result => himp _ _ (h.2 result)⟩
  rest := {}
  opens operation := { operation := some operation }
  closes operation reply s :=
    s.stage.isBusy = false ∧
    (s.stage = .late → (operation = .close → reply = .finished) ∧
      (operation ≠ .close → ∃ error, reply = .failed (.socket error))) ∧
    (operation = .close ∨ operation = .deregister →
      ∀ fd error, reply.error? = some (.close fd error) →
        s.failure = some (fd, error) ∧
          (operation = .close → s.stage = .past))

@[simp] theorem operation_conduct_rest : conduct.rest.operation = none := rfl

@[simp] theorem operation_conduct_opens (operation : Channel.Operation) :
    (conduct.opens operation).operation = some operation := rfl

theorem Fields.slot_of_setSlot_none {fields : Fields}
    {direction other : Direction} {user : Thread}
    (h : (fields.setSlot direction none).slot other = some user) :
    fields.slot other = some user := by
  rw [slot_setSlot] at h
  split at h
  · cases h
  · exact h

namespace Conduct

open Protocol Channel

variable {thread : Thread} {s : Conduct} {fields fields' : Fields}
  {operation : Channel.Operation} {α β : Type}

/-- Nothing is known of the thread but its operation, in which it has not tried
to close the channel. -/
structure IsUntried (operation : Channel.Operation) (s : Conduct) : Prop where
  current : s.operation = some operation
  untried : s.stage = .untried

structure Knows (operation : Channel.Operation) (fields : Fields)
    (s : Conduct) : Prop extends IsUntried operation s where
  known : s.known = some fields

/-- The actions that change nothing about the conduct of a thread. -/
def isPlain : Action → Bool
  | .acquire .state | .release .state | .fields | .put _ | .closeOnce
  | .call (.wake _) | .call (.signal _) | .call (.close _) => false
  | _ => true

/-- The actions that are open to everybody who has not tried to close the
channel. -/
def isCalm : Action → Bool
  | .put _ | .closeOnce | .call (.wake _) | .call (.signal _) => false
  | _ => true

theorem after_of_isPlain {action : Action} (plain : isPlain action = true)
    (result : action.Result) : s.after action result = s := by
  cases action with
  | acquire lock | release lock => cases lock <;> first | rfl | cases plain
  | call request => cases request <;> first | rfl | cases plain
  | fields | put | closeOnce => cases plain
  | _ => rfl

theorem after_operation (action : Action) (result : action.Result) :
    (s.after action result).operation = s.operation := by
  unfold Conduct.after
  split
  all_goals first | rfl | (split <;> rfl)

theorem allows_of_isCalm {action : Action} (untried : s.stage = .untried)
    (calm : isCalm action = true) : s.Allows action := by
  cases action with
  | release lock => cases lock <;> simp [Allows, untried, Stage.isBusy]
  | call request => cases request <;> simp_all [Allows, isCalm]
  | put | closeOnce => cases calm
  | _ => simp [Allows, untried]

theorem IsUntried.after {action : Action} (h : s.IsUntried operation)
    (calm : isCalm action = true) (result : action.Result) :
    (s.after action result).IsUntried operation := by
  obtain ⟨current, untried⟩ := h
  cases action with
  | acquire lock | release lock =>
      cases lock <;> exact ⟨current, by simp [Conduct.after, untried]⟩
  | fields => exact ⟨current, by simp [Conduct.after, untried]⟩
  | call request =>
      cases request with
      | close fd =>
          cases result with
          | ok => exact ⟨current, untried⟩
          | error error =>
              simp only [Conduct.after]
              split <;> exact ⟨current, untried⟩
      | wake | signal => cases calm
      | _ => exact ⟨current, untried⟩
  | put | closeOnce => cases calm
  | _ => exact ⟨current, untried⟩

/-- The program does not try to close the channel. -/
abbrev Abstains (thread : Thread) (operation : Channel.Operation)
    (program : Program α) : Prop :=
  conduct.Maintains thread (IsUntried operation) program

theorem abstains_perform {action : Action} (calm : isCalm action = true) :
    Abstains thread operation (Program.perform action) :=
  fun _ h => ⟨allows_of_isCalm h.untried calm, fun _ => h.after calm _⟩

theorem abstains_look {action : Action} (calm : isCalm action = true) :
    Abstains thread operation (Operating.perform action).run :=
  maintains_lift (abstains_perform calm)

theorem abstains_holding {lock : Lock} {body : Program α}
    (h : Abstains thread operation body) :
    Abstains thread operation (Program.holding lock body) :=
  maintains_holding
    (fun _ h => ⟨allows_of_isCalm h.untried rfl, fun _ => h.after rfl _⟩)
    (fun _ h => ⟨allows_of_isCalm h.untried rfl, fun _ => h.after rfl _⟩) h

/-! ## Under the state lock -/

theorem maintains_plain {I : Conduct → Prop} {action : Action}
    (untried : ∀ s, I s → s.stage = .untried)
    (plain : isPlain action = true) (calm : isCalm action = true) :
    conduct.Maintains thread I (Program.perform action) :=
  fun s h => ⟨allows_of_isCalm (untried s h) calm,
    fun result => by rwa [after_of_isPlain plain result]⟩

theorem ensureOpen_maintains {I : Conduct → Prop}
    (untried : ∀ s, I s → s.stage = .untried) :
    conduct.Maintains thread I ensureOpen.run := by
  refine maintains_run_bind
    (maintains_lift (maintains_plain untried rfl rfl)) fun isOpen => ?_
  cases isOpen <;> exact maintains_pure _

theorem ensureStillOpen_maintains {I : Conduct → Prop}
    (untried : ∀ s, I s → s.stage = .untried) :
    conduct.Maintains thread I ensureStillOpen.run := by
  refine maintains_run_bind
    (maintains_lift (maintains_plain untried rfl rfl)) fun isOpen => ?_
  cases isOpen <;> exact maintains_pure _

theorem perform_meets {action : Action} {next : action.Result → Operating α}
    {post : Except ChannelError α → Conduct → Prop}
    (allows : s.Allows action)
    (hnext : ∀ result, conduct.Meets thread (next result).run post
      (s.after action result)) :
    conduct.Meets thread (Operating.perform action >>= next).run post s := by
  rw [meets_run_bind]
  exact ⟨allows, hnext⟩

/-- The fields are looked at. -/
theorem fields_meets {next : Fields → Operating α}
    {post : Except ChannelError α → Conduct → Prop}
    (h : s.IsUntried operation)
    (hnext : ∀ fields s', s'.Knows operation fields →
      conduct.Meets thread (next fields).run post s') :
    conduct.Meets thread (Operating.perform .fields >>= next).run post s :=
  perform_meets (by simp [Allows, h.untried]) fun fields =>
    have seen : (s.after .fields fields).IsUntried operation :=
      h.after rfl fields
    hnext fields _ ⟨seen, rfl⟩

theorem abstains_fields {next : Fields → Operating α}
    (hnext : ∀ fields s, s.Knows operation fields →
      conduct.Meets thread (next fields).run (fun _ => IsUntried operation) s) :
    Abstains thread operation (Operating.perform .fields >>= next).run :=
  fun _ h => fields_meets h hnext

theorem MayWrite.ne {stage : Stage} (h : s.MayWrite)
    (other : stage ≠ .untried ∧ stage ≠ .shutting ∧ stage ≠ .woken) :
    s.stage ≠ stage := by
  rintro rfl
  obtain untried | shutting | woken := h
  · exact other.1 untried
  · exact other.2.1 shutting
  · exact other.2.2 woken

theorem allows_put (mayWrite : s.MayWrite) (known : s.known = some fields)
    (slots : ∀ direction user, fields'.slot direction = some user →
      fields.slot direction = some user) :
    s.Allows (.put fields') :=
  ⟨mayWrite, fields, known, .inr slots⟩

/-- The fields stay known while the thread does something else. -/
theorem knows_bind {program : Operating β} {next : β → Operating α}
    (h : s.Knows operation fields)
    (keeps : conduct.Maintains thread (Knows operation fields) program.run)
    (hnext : ∀ value s', s'.Knows operation fields →
      conduct.Meets thread (next value).run (fun _ => IsUntried operation)
        s') :
    conduct.Meets thread (program >>= next).run
      (fun _ => IsUntried operation) s := by
  rw [meets_run_bind]
  refine keeps.meets h fun result s' h' => ?_
  cases result with
  | ok value => exact hnext value s' h'
  | error error => exact h'.toIsUntried

theorem knows_perform {action : Action} (plain : isPlain action = true)
    (calm : isCalm action = true) :
    conduct.Maintains thread (Knows operation fields)
      (Program.perform action) :=
  maintains_plain (fun _ h => h.untried) plain calm

theorem ensureOpen_knows :
    conduct.Maintains thread (Knows operation fields) ensureOpen.run :=
  ensureOpen_maintains fun _ h => h.untried

theorem ensureStillOpen_knows :
    conduct.Maintains thread (Knows operation fields) ensureStillOpen.run :=
  ensureStillOpen_maintains fun _ h => h.untried

/-- Nobody is recorded by a write. -/
theorem put_meets {next : Unit → Operating α}
    {post : Except ChannelError α → Conduct → Prop}
    (h : s.Knows operation fields)
    (slots : ∀ direction user, fields'.slot direction = some user →
      fields.slot direction = some user)
    (hnext : ∀ s', s'.Knows operation fields' →
      conduct.Meets thread (next ()).run post s') :
    conduct.Meets thread (Operating.perform (.put fields') >>= next).run
      post s :=
  perform_meets (allows_put (.inl h.untried) h.known slots)
    fun _ => hnext _ ⟨⟨h.current, h.untried⟩, rfl⟩

theorem put_abstains (h : s.Knows operation fields)
    (slots : ∀ direction user, fields'.slot direction = some user →
      fields.slot direction = some user) :
    conduct.Meets thread (Operating.perform (.put fields')).run
      (fun _ => IsUntried operation) s :=
  ⟨allows_put (.inl h.untried) h.known slots,
    fun _ => ⟨h.current, h.untried⟩⟩

end Conduct

end LocalSocket
