import LocalSocket.Proofs.Protocol

/-!
# The discipline of a channel

The rules by which the threads that use a channel get along.  The fields are
touched under the state lock only.  A thread records itself in a slot before it
enters a call in which it may be blocked, and takes itself out afterwards; the
slot of a direction goes with the lock of that direction.  A call on the
descriptor is made from inside a slot, or under the state lock while the channel
is live.  Nobody releases the descriptor while it is used, and whoever records
the release makes it at once.

The standing of a thread says what of this applies to it: what it holds, and
what it still owes.
-/

namespace LocalSocket

/-- Not closed, as far as the fields tell. -/
def Lifecycle.isLive : Lifecycle → Bool
  | unconnected | connecting | connected => true
  | uninitialized | killPending | killed => false

theorem Lifecycle.unconnected_of_isLive {state : Lifecycle}
    (live : state.isLive = true) (unfinished : state ≠ .connected)
    (unstarted : state ≠ .connecting) : state = .unconnected := by
  cases state <;> simp_all [isLive]

/-- If the release of the descriptor has been left to its last user, there is
one. -/
def Fields.IsSettled (fields : Fields) : Prop :=
  fields.state = .killPending → fields.isUsed = true

theorem Fields.isSettled_of_isLive {fields : Fields}
    (live : fields.state.isLive = true) :
    fields.IsSettled := by
  intro hpending
  simp [hpending, Lifecycle.isLive] at live

structure Standing where
  holdsRead : Bool := false
  holdsWrite : Bool := false
  fields : Option Fields := none
  slot : Option Direction := none
  /-- The thread is yet to try to close the channel. -/
  owesClose : Bool := false
  /-- The thread has closed the channel, and is yet to bring the fields in
  line. -/
  owesShutDown : Bool := false
  /-- The thread has recorded the release of the descriptor, and is yet to make
  it. -/
  owesRelease : Bool := false
  /-- A registration has been counted that is in nobody else's hands. -/
  hasGuard : Bool := false
  deriving DecidableEq

namespace Standing

def lock (s : Standing) (fields : Fields) : Standing :=
  { s with fields := some fields }

def unlock (s : Standing) : Standing :=
  { s with fields := none }

section Lock

variable (s : Standing) (fields fields' : Fields)

@[simp] theorem lock_fields : (s.lock fields).fields = some fields := rfl

@[simp] theorem lock_holdsRead : (s.lock fields).holdsRead = s.holdsRead := rfl

@[simp] theorem lock_holdsWrite :
    (s.lock fields).holdsWrite = s.holdsWrite := rfl

@[simp] theorem lock_slot : (s.lock fields).slot = s.slot := rfl

@[simp] theorem lock_owesClose : (s.lock fields).owesClose = s.owesClose := rfl

@[simp] theorem lock_owesShutDown :
    (s.lock fields).owesShutDown = s.owesShutDown := rfl

@[simp] theorem lock_owesRelease :
    (s.lock fields).owesRelease = s.owesRelease := rfl

@[simp] theorem lock_hasGuard : (s.lock fields).hasGuard = s.hasGuard := rfl

@[simp] theorem lock_lock : (s.lock fields).lock fields' = s.lock fields' := rfl

@[simp] theorem unlock_lock : (s.lock fields).unlock = s.unlock := rfl

theorem unlock_eq {s : Standing} (unlocked : s.fields = none) :
    s.unlock = s := by
  rw [unlock, ← unlocked]

end Lock

/-- Outside of slots and locked sections, with nothing that has to be done at
once. -/
structure IsFree (s : Standing) : Prop where
  unlocked : s.fields = none
  outside : s.slot = none
  settled : s.owesShutDown = false
  calm : s.owesRelease = false

def holds (s : Standing) : Direction → Bool
  | .input => s.holdsRead
  | .output => s.holdsWrite

/-- What a thread finds when it takes the state lock. -/
structure Finds (fd : Fd) (thread : Thread) (s : Standing) (fields : Fields) :
    Prop where
  initialized : fields.state ≠ .uninitialized
  holder : fields.holder = if fields.state = .killed then none else some fd
  settled : fields.IsSettled
  ownSlot : ∀ direction, s.slot = some direction →
    fields.slot direction = some thread
  live : s.owesShutDown = true → fields.state.isLive = true

/-- Whether a thread may start to release the descriptor: the one that closes
the channel, and anybody after that. -/
def MayRelease (s : Standing) (fields : Fields) : Prop :=
  fields.state ≠ .killed ∧ (fields.state.isLive = true → s.owesShutDown = true)

inductive Update (thread : Thread) (s : Standing) (fields : Fields) :
    Fields → Standing → Prop where
  | enter (direction : Direction) (lock : s.holds direction = true)
      (outside : s.slot = none)
      (live : fields.state.isLive = true) :
      Update thread s fields (fields.setSlot direction (some thread))
        { s with slot := some direction }
  | leave (direction : Direction) (inside : s.slot = some direction) :
      Update thread s fields (fields.setSlot direction none)
        { s with slot := none }
  | register (live : fields.state.isLive = true)
      (unguarded : s.hasGuard = false) :
      Update thread s fields
        { fields with registrations := fields.registrations + 1 }
        { s with hasGuard := true }
  | deregister (guarded : s.hasGuard = true) :
      Update thread s fields
        { fields with registrations := fields.registrations - 1 }
        { s with hasGuard := false }
  /-- The descriptor is still used, and its release is left to the last user. -/
  | defer (used : fields.isUsed = true) (due : s.MayRelease fields) :
      Update thread s fields { fields with state := .killPending }
        { s with owesShutDown := false }
  | kill (unused : fields.isUsed = false) (due : s.MayRelease fields) :
      Update thread s fields { fields with state := .killed, holder := none }
        { s with owesShutDown := false, owesRelease := true }
  /-- All else on a live channel, which stays live. -/
  | revise {fields' : Fields} (live : fields.state.isLive = true)
      (live' : fields'.state.isLive = true)
      (holder : fields'.holder = fields.holder)
      (reader : fields'.reader = fields.reader)
      (writer : fields'.writer = fields.writer)
      (registrations : fields'.registrations = fields.registrations) :
      Update thread s fields fields' s

def Permits (fd : Fd) (s : Standing) (call : Call) : Prop :=
  if call.isBlocking then call.fd? = some fd ∧ s.fields = none ∧ s.slot ≠ none
  else
    match call with
    | .close other => other = fd ∧ s.owesRelease = true
    | .signal thread =>
        ∃ fields, s.fields = some fields ∧ thread ∈ fields.threads
    | call => call.fd? = some fd ∧ ∃ fields, s.fields = some fields ∧
          fields.state.isLive = true

/-- The standing after a call; the release is made unless it was interrupted. -/
def afterCall (s : Standing) : (call : Call) → call.Answer → Standing
  | .close _, .ok _ => { s with owesRelease := false }
  | .close _, .error error =>
      if error.isInterrupted then s else { s with owesRelease := false }
  | _, _ => s

/-- Whether a thread may give up the state lock. -/
def MayLeave (s : Standing) (fields : Fields) : Prop :=
  fields.IsSettled ∧ s.owesShutDown = false

def Takes (fd : Fd) (thread : Thread) (s : Standing) :
    (action : Action) → (action.Result → Standing → Prop) → Prop
  | .acquire .read, k =>
      s.holdsRead = false ∧ s.holdsWrite = false ∧ s.fields = none ∧
        k () { s with holdsRead := true }
  | .acquire .write, k =>
      s.holdsWrite = false ∧ s.fields = none ∧
        k () { s with holdsWrite := true }
  | .acquire .state, k =>
      s.fields = none ∧
        ∀ fields, s.Finds fd thread fields → k () (s.lock fields)
  | .release .read, k =>
      s.holdsRead = true ∧ s.slot ≠ some .input ∧
        k () { s with holdsRead := false }
  | .release .write, k =>
      s.holdsWrite = true ∧ s.slot ≠ some .output ∧
        k () { s with holdsWrite := false }
  | .release .state, k =>
      ∃ fields, s.fields = some fields ∧ s.MayLeave fields ∧ k () s.unlock
  | .fields, k => ∃ fields, s.fields = some fields ∧ k fields s
  | .put fields', k =>
      ∃ fields s', s.fields = some fields ∧ s.Update thread fields fields' s' ∧
        k () (s'.lock fields')
  | .isOpen, k =>
      ∀ isOpen, (isOpen = true → ∀ fields, s.fields = some fields →
        fields.state.isLive = true) →
        k isOpen s
  | .closeOnce, k =>
      s.fields = none ∧ s.slot = none ∧ s.owesShutDown = false ∧
        ∀ first, k first { s with owesClose := false, owesShutDown := first }
  | .isBlocking, k => ∀ isBlocking, k isBlocking s
  | .setBlocking _, k => k () s
  | .thread, k => k thread s
  | .own .., _ => False
  | .pause, k => k () s
  | .call call, k =>
      s.Permits fd call ∧ ∀ answer, k answer (s.afterCall call answer)

end Standing

/-- Only an attempt to close is bound to try it, and only giving up a
registration starts with one that has been counted. -/
def Channel.Operation.standing : Operation → Standing
  | .close => { owesClose := true }
  | .deregister | .dropRegistration => { hasGuard := true }
  | _ => {}

/-- The rules of a channel that owns `fd`. -/
def discipline (fd : Fd) : Protocol Standing where
  act thread s action k :=
    (s.owesRelease = true → action = .call (.close fd)) ∧
      s.Takes fd thread action k
  mono := by
    intro thread s action k k' himp ⟨howes, h⟩
    refine ⟨howes, ?_⟩
    unfold Standing.Takes at h ⊢
    split <;> simp_all only [true_and]
    all_goals grind
  rest := {}
  opens := Channel.Operation.standing
  closes operation reply s := s = { hasGuard := operation.givesGuard reply }

@[simp] theorem discipline_act {fd : Fd} {thread : Thread} {s : Standing}
    {action : Action} {k : action.Result → Standing → Prop} :
    (discipline fd).act thread s action k ↔
      (s.owesRelease = true → action = .call (.close fd)) ∧
      s.Takes fd thread action k := Iff.rfl

end LocalSocket
