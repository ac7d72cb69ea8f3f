import LocalSocket.Proofs.Invariant
import LocalSocket.Proofs.LockOrder.Operations
import LocalSocket.Proofs.Play
import Mathlib.Logic.Relation

/-!
# Nobody waits in a cycle

The holder of a lock waits for later locks only, so along a chain of threads
that wait for one another the locks come later and later.  The state lock, which
comes last, is held by a thread that neither waits for a lock nor is inside a
call in which it may be blocked.
-/

namespace LocalSocket

open Function (update)

/-- The actions that a thread has taken. -/
def Trace.actions (thread : Thread) (trace : Trace) : List Action :=
  trace.filterMap fun
    | .acted other action => if other = thread then some action else none
    | _ => none

namespace Config

/-- The thread is about to take a lock, whether or not the lock is free. -/
def Awaits (c : Config) (thread : Thread) (lock : Lock) : Prop :=
  ∃ operation rest, c.activity thread = .running operation rest ∧
    rest.next? = some (.acquire lock)

/-- The thread needs a lock that the other one holds. -/
def WaitsFor (c : Config) (thread other : Thread) : Prop :=
  ∃ lock, c.Awaits thread lock ∧ c.channel.locks.holder lock = some other

/-- The thread is inside a call in which it may be blocked. -/
def IsBlocked (c : Config) (thread : Thread) : Prop :=
  ∃ operation call next, c.activity thread = .calling operation call next ∧
    call.isBlocking = true

end Config

/-- The locks are held by those who have taken them. -/
structure Held (trace : Trace) (c : Config) (S : Thread → Holding) : Prop where
  holder : ∀ t lock, S t lock = true ↔ c.channel.locks.holder lock = some t
  actions : ∀ t, S t = Action.held (trace.actions t)

theorem Action.held_append (actions : List Action) (action : Action) :
    Action.held (actions ++ [action]) = action.after (Action.held actions) := by
  simp [Action.held]

section Actions

variable {trace : Trace} {thread : Thread}

theorem Trace.actions_acted (action : Action) (t : Thread) :
    Trace.actions t (trace ++ [.acted thread action]) =
      trace.actions t ++ if thread = t then [action] else [] := by
  by_cases ht : thread = t <;> simp [actions, ht]

theorem Trace.actions_other {event : Event} (t : Thread)
    (other : ∀ action, event ≠ .acted t action) :
    Trace.actions t (trace ++ [event]) = trace.actions t := by
  cases event <;> simp_all [actions]

end Actions

namespace Held

variable {trace : Trace} {c c' : Config} {S : Thread → Holding}
  {thread : Thread} {held : Holding}

theorem frame {event : Event} (h : Held trace c S)
    (hevent : ∀ t action, event ≠ .acted t action)
    (hchannel : c'.channel = c.channel) (same : held = S thread) :
    Held (trace ++ [event]) c' (update S thread held) := by
  rw [same, Function.update_eq_self]
  constructor
  · rw [hchannel]
    exact h.holder
  · intro t
    rw [Trace.actions_other t (hevent t)]
    exact h.actions t

theorem update_set_apply (lock other : Lock) (isHeld : Bool) (t : Thread) :
    update S thread ((S thread).set lock isHeld) t other =
      if t = thread ∧ other = lock then isHeld else S t other := by
  by_cases ht : t = thread
  · subst ht
    simp
  · simp [ht]

theorem aside {action : Action} (h : Held trace c S)
    (aside : action.isAside = true) (hchannel : c'.channel = c.channel) :
    Held (trace ++ [.acted thread action]) c' S := by
  constructor
  · rw [hchannel]
    exact h.holder
  · intro t
    rw [Trace.actions_acted, h.actions]
    split
    · rw [Action.held_append, Action.after_of_isAside aside]
    · simp

/-- A lock changes hands as the order says; no action but taking and giving up
touches one, as long as the channel stays the same. -/
theorem act {operation : Channel.Operation} {action : Action}
    {next : action.Result → Program Channel.Reply} {channel : Channel}
    {result : action.Result} (h : Held trace c S)
    (inOrder : action.InOrder (S thread))
    (same : ∀ fd state blocking, action ≠ .own fd state blocking)
    (answered : c.channel.answer thread action = .answered channel result) :
    Held (trace ++ [.acted thread action])
      { c.set thread (.running operation (next result)) with
        channel := channel }
      (update S thread (action.after (S thread))) where
  holder := by
    intro t lock
    have before := h.holder t lock
    cases action with
    | acquire taken =>
        obtain ⟨free, rfl⟩ := Channel.answer_acquire answered
        have unheld := h.holder t taken
        simp only [Locks.holder_setHolder, Action.after, update_set_apply]
        grind
    | release given =>
        cases answered
        have mine := (h.holder thread given).mp inOrder
        simp only [Locks.holder_setHolder, Action.after, update_set_apply]
        grind
    | own fd state blocking => exact absurd rfl (same fd state blocking)
    | pause | call => cases answered
    | _ =>
        cases answered
        by_cases ht : t = thread <;> simp_all [Action.after]
  actions := by
    intro t
    rw [Trace.actions_acted]
    by_cases ht : t = thread
    · subst ht
      simp [Action.held_append, h.actions]
    · have other : thread ≠ t := fun h => ht h.symm
      simp [ht, other, h.actions t]

end Held

theorem lockOrder_obeyed (fd : Fd) : Protocol.lockOrder.Obeyed fd := by
  intro thread operation _
  exact (Channel.program_orderly operation).meets rfl fun _ _ ended => ended

/-- No operation starts the channel over. -/
theorem Run.not_own {fd : Fd} {trace : Trace} {c : Config}
    (run : Run fd trace c) {thread : Thread} {operation : Channel.Operation}
    {action : Action} {next : action.Result → Program Channel.Reply}
    (running : c.activity thread = .running operation (.act action next))
    (other : Fd) (state : Lifecycle) (blocking : Bool) :
    action ≠ .own other state blocking := by
  rintro rfl
  obtain ⟨S, _, keeps⟩ := run.coherent
  have meets := keeps thread
  rw [running] at meets
  exact (meets trivial).2

theorem held_preserved (fd : Fd) : Protocol.lockOrder.Preserves fd Held where
  begin := by
    intro trace c S thread operation held _ idle rest isLive hasGuard
    exact held.frame (fun _ _ => nofun) rfl rest.symm
  drop := by
    intro trace c S thread held _ idle rest unguarded isLive
    exact held.frame (fun _ _ => nofun) rfl (rest thread).symm
  act := by
    intro trace c S thread operation action channel result next k held reach
      running answered takes
    obtain ⟨inOrder, goes⟩ := takes trivial
    obtain ⟨past, run⟩ := reach
    exact ⟨_, fun _ => goes result,
      held.act inOrder (run.not_own running) answered⟩
  pause := by
    intro trace c S thread operation next k held _ running takes
    refine ⟨S thread, fun _ => (takes trivial).2 (), ?_⟩
    rw [Function.update_eq_self]
    exact held.aside rfl rfl
  unroll := by
    intro trace c S thread operation β body next held _ running
    exact ⟨held.holder, held.actions⟩
  call := by
    intro trace c S thread operation call next k held _ running takes
    rw [← Function.update_eq_self thread S]
    exact held.frame (fun _ _ => nofun) rfl rfl
  answer := by
    intro trace c S thread operation call next k answer held _ calling _ takes
    exact ⟨S thread, fun _ => (takes trivial).2 answer,
      held.frame (fun _ _ => nofun) rfl rfl⟩
  finish := by
    intro trace c S thread operation reply held _ running closes
    exact held.frame (fun _ _ => nofun) rfl (closes trivial).symm

theorem Held.start {fd : Fd} {channel : Channel} (fresh : channel.IsFresh fd) :
    Held [] (.start channel) fun _ => .none where
  holder := by
    have locks : channel.locks = {} := by cases fresh <;> rfl
    intro t lock
    cases lock <;> simp [Config.start, locks, Locks.holder, Holding.none]
  actions := fun t => rfl

section Run

variable {fd : Fd} {trace : Trace} {c : Config} {S : Thread → Holding}
  {thread : Thread}

theorem Run.held (run : Run fd trace c) :
    ∃ S, Held trace c S ∧ ∀ t, Protocol.lockOrder.Keeps t (S t)
      (c.activity t) :=
  Protocol.run (lockOrder_obeyed fd) (held_preserved fd)
    (fun _ fresh => .start fresh) run fun _ _ _ _ => trivial

theorem Config.Awaits.isBelow {lock : Lock} (awaits : c.Awaits thread lock)
    (keeps : ∀ t, Protocol.lockOrder.Keeps t (S t) (c.activity t)) :
    (S thread).IsBelow lock := by
  obtain ⟨operation, rest, running, next⟩ := awaits
  have meets := keeps thread
  rw [running] at meets
  exact ((meets trivial).next next).1

theorem Config.IsBlocked.free (blocked : c.IsBlocked thread)
    (keeps : ∀ t, Protocol.lockOrder.Keeps t (S t) (c.activity t)) :
    S thread .state = false := by
  obtain ⟨operation, call, next, calling, blocking⟩ := blocked
  have meets := keeps thread
  rw [calling] at meets
  exact (meets trivial).1 blocking

/-- Along a chain of waiting threads the locks do not come earlier: the first
thread waits for a lock no later than one that the last thread holds. -/
theorem Held.chain {other : Thread} (held : Held trace c S)
    (keeps : ∀ t, Protocol.lockOrder.Keeps t (S t) (c.activity t))
    (waits : Relation.TransGen c.WaitsFor thread other) :
    ∃ first last, c.Awaits thread first ∧ S other last = true ∧
      first.rank ≤ last.rank := by
  induction waits with
  | single waits =>
      obtain ⟨lock, awaits, holder⟩ := waits
      exact ⟨lock, lock, awaits, (held.holder _ lock).mpr holder, Nat.le_refl _⟩
  | tail _ waits ih =>
      obtain ⟨first, last, awaits, isHeld, le⟩ := ih
      obtain ⟨lock, next, holder⟩ := waits
      have lt := next.isBelow keeps last isHeld
      exact ⟨first, lock, awaits, (held.holder _ lock).mpr holder, by omega⟩

theorem Held.acyclic (held : Held trace c S)
    (keeps : ∀ t, Protocol.lockOrder.Keeps t (S t) (c.activity t)) :
    ¬ Relation.TransGen c.WaitsFor thread thread := by
  intro waits
  obtain ⟨first, last, awaits, isHeld, le⟩ := held.chain keeps waits
  have lt := awaits.isBelow keeps last isHeld
  omega

/-- A loop is entered before its first action is taken. -/
theorem Steps.of_next? {α : Type} {program : Program α}
    {f : α → Program Channel.Reply} {operation : Channel.Operation}
    {action : Action} {channel : Channel} {result : action.Result}
    (running : c.activity thread = .running operation (program.bind f))
    (next : program.next? = some action)
    (answered : c.channel.answer thread action = .answered channel result) :
    ∃ c', Steps fd c [.acted thread action] c' := by
  induction program generalizing c with
  | done value => cases next
  | act first rest =>
      cases next
      exact ⟨_, .single (.act running answered)⟩
  | loop body rest ihBody =>
      have enters : Step fd c [] _ := .unroll running
      obtain ⟨c', steps⟩ := ihBody (c := c.set thread _)
        (Function.update_self ..) next answered
      exact ⟨c', (Steps.single enters).trans steps⟩

/-- A thread takes a lock that is free at once. -/
theorem Config.Awaits.takes {lock : Lock} (awaits : c.Awaits thread lock)
    (free : c.channel.locks.holder lock = none) :
    ∃ c', Steps fd c [.acted thread (.acquire lock)] c' := by
  obtain ⟨operation, rest, running, next⟩ := awaits
  have answered : c.channel.answer thread (.acquire lock) = .answered
      { c.channel with
        locks := c.channel.locks.setHolder lock (some thread) } () := by
    simp only [Channel.answer, free]
  rw [← Program.bind_done rest] at running
  exact Steps.of_next? running next answered

end Run

/-- Along every path the locks are taken in their order, given up by their
holder only, all of them at the end, and no thread is blocked that holds the
state lock. -/
def Program.TakesInOrder {α : Type} (program : Program α) : Prop :=
  ∀ actions rest, program.Path actions rest →
    (∀ before action after, actions = before ++ action :: after →
      action.InOrder (Action.held before)) ∧
    (rest.next? = none → Action.held actions = .none)

theorem Program.TakesInOrder.of_orderly {α : Type} {program : Program α}
    (h : ∀ thread, Protocol.Orderly thread .none program) :
    program.TakesInOrder := by
  intro actions rest path
  obtain ⟨inOrder, meets⟩ := Protocol.Meets.path path (h 0 rfl)
  refine ⟨inOrder, fun ended => ?_⟩
  obtain ⟨value, rfl⟩ := meets.done_of_next?_eq_none ended
  exact meets

/-- On every path of every operation, of opening a channel and of giving up a
registration, the locks are taken in their order.  So in every run, where a lock
is held by the thread that has taken it last and not given it up, no threads
wait for one another in a cycle; the holder of the state lock waits for no lock
and is in no call in which it may be blocked; and while all others are, a thread
that closes the channel, or any other that needs the state lock, can take it. -/
theorem locks_taken_in_order {fd : Fd} {trace : Trace} {c : Config}
    (run : Run fd trace c) :
    (∀ operation : Channel.Operation,
      (operation.program fd).TakesInOrder) ∧
    (∀ address settings,
      (Channel.openConnected address settings).run.TakesInOrder) ∧
    (∀ listener settings,
      (Channel.accept listener settings).run.TakesInOrder) ∧
    (∀ registration : Channel.Registration,
      registration.deregister.run.TakesInOrder ∧
      registration.drop.run.TakesInOrder) ∧
    (∀ thread lock, c.channel.locks.holder lock = some thread ↔
      Action.held (trace.actions thread) lock = true) ∧
    (∀ thread, ¬ Relation.TransGen c.WaitsFor thread thread) ∧
    (∀ thread, c.channel.locks.state = some thread →
      ¬ c.IsBlocked thread ∧ ∀ lock, ¬ c.Awaits thread lock) ∧
    ∀ thread, c.Awaits thread .state →
      (∀ other, other ≠ thread →
        c.activity other = .idle ∨ c.IsBlocked other) →
      ∃ c', Steps fd c [.acted thread (.acquire .state)] c' := by
  obtain ⟨S, held, keeps⟩ := run.held
  have state_holder : ∀ thread, c.channel.locks.state = some thread →
      ¬ c.IsBlocked thread ∧ ∀ lock, ¬ c.Awaits thread lock := by
    intro thread holder
    have isHeld : S thread .state = true :=
      (held.holder thread .state).mpr holder
    constructor
    · intro blocked
      simp [blocked.free keeps] at isHeld
    · intro lock awaits
      have below := awaits.isBelow keeps .state isHeld
      cases lock <;> simp [Lock.rank] at below
  refine ⟨fun operation => ?_, fun address settings => ?_,
    fun listener settings => ?_, fun registration => ⟨?_, ?_⟩, ?_,
    fun thread => held.acyclic keeps, state_holder, ?_⟩
  · exact .of_orderly fun _ => Channel.program_orderly operation
  · exact .of_orderly fun _ => Channel.openConnected_orderly address settings
  · exact .of_orderly fun _ => Channel.accept_orderly listener settings
  · exact .of_orderly fun _ => registration.deregister_orderly
  · exact .of_orderly fun _ => registration.drop_orderly
  · intro thread lock
    rw [← held.holder, held.actions]
  · intro thread awaits others
    apply awaits.takes
    cases holder : c.channel.locks.state with
    | none => exact holder
    | some other =>
        obtain ⟨unblocked, unawaited⟩ := state_holder other holder
        have differs : other ≠ thread := by
          rintro rfl
          exact unawaited _ awaits
        obtain idle | blocked := others other differs
        · have isHeld := (held.holder other .state).mpr holder
          have rest : S other = .none := by
            have meets := keeps other
            rwa [idle] at meets
          simp [rest, Holding.none] at isHeld
        · exact absurd blocked unblocked

/-- A thread is inside a read when another one closes the channel, and has come
to the state lock. -/
def untilLocking : List Move :=
  [[.begin 1 (.read ⟨[0, 0], 0⟩)], Move.steps 1 10, [.begin 2 .close],
    Move.steps 2 1].flatten

theorem untilLocking_isSome :
    ((Config.start (.owning 3 .connected true)).play 3 untilLocking).isSome =
    true := by
  decide +kernel

def closingMeanwhile : Trace × Config :=
  ((Config.start (.owning 3 .connected true)).play 3 untilLocking).get
    untilLocking_isSome

theorem run_closingMeanwhile :
    Run 3 closingMeanwhile.1 closingMeanwhile.2 :=
  ⟨_, .wrapped true none, Config.steps_of_play
    (Option.some_get untilLocking_isSome).symm⟩

/-- A thread that has not been heard of does nothing. -/
theorem Run.idle_of_unseen {fd : Fd} {trace : Trace} {c : Config}
    (run : Run fd trace c) {thread : Thread}
    (unseen : ∀ event ∈ trace, event.thread ≠ thread) :
    c.activity thread = .idle := by
  refine run.induct (I := fun trace c =>
    (∀ event ∈ trace, event.thread ≠ thread) → c.activity thread = .idle)
    (fun _ _ _ => rfl) (fun trace c events c' _ step ih unseen => ?_) unseen
  have idle := ih fun event h => unseen event (List.mem_append_left _ h)
  obtain rfl | ⟨event, rfl⟩ := step.events
  · cases step with
    | @unroll other _ _ _ _ running =>
        have differs : thread ≠ other := by
          rintro rfl
          simp [idle] at running
        simpa [differs] using idle
  · have differs := unseen event (by simp)
    rw [step.others differs.symm, idle]

theorem state_lock_taken_during_read :
    Run 3 closingMeanwhile.1 closingMeanwhile.2 ∧
    closingMeanwhile.2.IsBlocked 1 ∧
    closingMeanwhile.2.Awaits 2 .state ∧
    ∃ c, Steps 3 closingMeanwhile.2 [.acted 2 (.acquire .state)] c := by
  have blocked : closingMeanwhile.2.IsBlocked 1 := ⟨_, _, _, rfl, rfl⟩
  have awaits : closingMeanwhile.2.Awaits 2 .state := ⟨_, _, rfl, rfl⟩
  have others : ∀ other, other ≠ 2 →
      closingMeanwhile.2.activity other = .idle ∨
      closingMeanwhile.2.IsBlocked other := by
    intro other differs
    by_cases reader : other = 1
    · subst reader
      exact .inr blocked
    · have two : ∀ event ∈ closingMeanwhile.1,
          event.thread = 1 ∨ event.thread = 2 := by decide +kernel
      refine .inl (run_closingMeanwhile.idle_of_unseen fun event seen => ?_)
      grind
  obtain ⟨-, -, -, -, -, -, -, taken⟩ :=
    locks_taken_in_order run_closingMeanwhile
  exact ⟨run_closingMeanwhile, blocked, awaits, taken 2 awaits others⟩

end LocalSocket
