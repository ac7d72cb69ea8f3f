import LocalSocket.Proofs.Maintaining

/-!
# The order of the locks

Locks are taken in one order: that of reading, that of writing, then that of the
fields.  A lock that comes earlier, or that is held already, is not asked for,
and no call in which a thread may be blocked is made while the fields are
locked.  What an operation holds is known from its own actions alone.
-/

namespace LocalSocket

def Lock.rank : Lock → Nat
  | .read => 0
  | .write => 1
  | .state => 2

theorem Lock.rank_lt_state {lock : Lock} :
    lock.rank < Lock.state.rank ↔ lock ≠ .state := by
  cases lock <;> simp [rank]

/-- The locks that somebody holds. -/
abbrev Holding := Lock → Bool

namespace Holding

def none : Holding := fun _ => false

def set (held : Holding) (lock : Lock) (isHeld : Bool) : Holding :=
  Function.update held lock isHeld

@[simp] theorem set_apply (held : Holding) (lock other : Lock) (isHeld : Bool) :
    held.set lock isHeld other =
      if other = lock then isHeld else held other := by
  simp [set, Function.update_apply]

theorem set_set {held : Holding} {lock : Lock} (free : held lock = false) :
    (held.set lock true).set lock false = held := by
  funext other
  grind [set_apply]

/-- All that is held comes before `lock`, which is not held itself then. -/
def IsBelow (held : Holding) (lock : Lock) : Prop :=
  ∀ other, held other = true → other.rank < lock.rank

theorem IsBelow.free {held : Holding} {lock : Lock}
    (below : held.IsBelow lock) : held lock = false := by
  by_contra isHeld
  exact Nat.lt_irrefl _ (below lock (by simpa using isHeld))

theorem isBelow_state {held : Holding} :
    held.IsBelow .state ↔ held .state = false := by
  constructor
  · exact IsBelow.free
  · intro free other isHeld
    rw [Lock.rank_lt_state]
    rintro rfl
    rw [free] at isHeld
    contradiction

end Holding

namespace Action

/-- What is held after an action. -/
def after (held : Holding) : Action → Holding
  | .acquire lock => held.set lock true
  | .release lock => held.set lock false
  | _ => held

/-- Whether an action keeps to the order of the locks. -/
def InOrder (held : Holding) : Action → Prop
  | .acquire lock => held.IsBelow lock
  | .release lock => held lock = true
  | .call request => request.isBlocking = true → held .state = false
  | _ => True

/-- Neither about a lock nor a call in which the thread may be blocked. -/
def isAside : Action → Bool
  | .acquire _ | .release _ => false
  | .call request => !request.isBlocking
  | _ => true

theorem InOrder.of_isAside {held : Holding} {action : Action}
    (aside : action.isAside = true) : action.InOrder held := by
  cases action <;> simp_all [isAside, InOrder]

theorem after_of_isAside {held : Holding} {action : Action}
    (aside : action.isAside = true) : action.after held = held := by
  cases action <;> first | rfl | cases aside

/-- What is held after actions, of nothing at first. -/
def held (actions : List Action) : Holding :=
  actions.foldl after Holding.none

end Action

/-- Under some results, the program takes these actions and comes to `rest`. -/
inductive Program.Path {α : Type} : Program α → List Action → Program α → Prop
    where
  | refl (program : Program α) : Path program [] program
  | act {action : Action} {next : action.Result → Program α}
      {actions : List Action} {rest : Program α} (result : action.Result)
      (path : Path (next result) actions rest) :
      Path (.act action next) (action :: actions) rest
  | unroll {β : Type} {body : Program (Option β)} {next : β → Program α}
      {actions : List Action} {rest : Program α}
      (path : Path (.unroll body next) actions rest) :
      Path (.loop body next) actions rest

def Protocol.lockOrder : Protocol Holding where
  act _ held action k :=
    action.InOrder held ∧ ∀ result, k result (action.after held)
  mono := fun himp h => ⟨h.1, fun result => himp _ _ (h.2 result)⟩
  rest := .none
  opens := fun _ => .none
  closes := fun _ _ held => held = .none

namespace Protocol

variable {thread : Thread} {held : Holding} {α : Type}

/-- Whatever it is answered, a program that keeps to the order does so all along
its paths. -/
theorem Meets.path {program rest : Program α} {actions : List Action}
    {post : α → Holding → Prop} (path : program.Path actions rest)
    (h : lockOrder.Meets thread program post held) :
    (∀ before action after, actions = before ++ action :: after →
      action.InOrder (before.foldl Action.after held)) ∧
    lockOrder.Meets thread rest post (actions.foldl Action.after held) := by
  induction path generalizing held with
  | refl program => exact ⟨by simp, h⟩
  | unroll path ih => exact ih h.unroll
  | @act action next actions rest result path ih =>
      obtain ⟨inOrder, next⟩ := h
      obtain ⟨later, ends⟩ := ih (next result)
      refine ⟨?_, ends⟩
      intro before other after split
      cases before with
      | nil =>
          cases split
          exact inOrder
      | cons first before =>
          cases split
          exact later before other after rfl

/-- The program keeps to the order, and ends holding what it held before. -/
abbrev Orderly (thread : Thread) (held : Holding) (program : Program α) :
    Prop :=
  lockOrder.Maintains thread (· = held) program

theorem orderly_perform {action : Action} (aside : action.isAside = true) :
    Orderly thread held (Program.perform action) := by
  rintro _ rfl
  exact ⟨.of_isAside aside, fun _ => Action.after_of_isAside aside⟩

theorem orderly_look {action : Action} (aside : action.isAside = true) :
    Orderly thread held (Operating.perform action).run :=
  maintains_lift (orderly_perform aside)

/-- Where the fields are not locked, a thread may be blocked. -/
theorem orderly_call (call : Call) (free : held .state = false) :
    Orderly thread held (Program.call call) := by
  rintro _ rfl
  exact ⟨fun _ => free, fun _ => rfl⟩

theorem orderly_retry {call : Call}
    (inOrder : call.isBlocking = true → held .state = false) :
    Orderly thread held (Program.retry call) := by
  apply maintains_retry
  rintro _ rfl
  exact ⟨inOrder, fun _ => rfl⟩

theorem orderly_holding {lock : Lock} {body : Program α}
    (below : held.IsBelow lock)
    (h : Orderly thread (held.set lock true) body) :
    Orderly thread held (Program.holding lock body) := by
  rintro _ rfl
  rw [meets_holding]
  refine ⟨below, fun _ => h.meets rfl ?_⟩
  rintro value _ rfl
  refine ⟨by simp [Action.InOrder], fun _ => ?_⟩
  exact Holding.set_set below.free

theorem orderly_holding_state {body : Program α} (free : held .state = false)
    (h : Orderly thread (held.set .state true) body) :
    Orderly thread held (Program.holding .state body) :=
  orderly_holding (Holding.isBelow_state.mpr free) h

end Protocol

end LocalSocket
