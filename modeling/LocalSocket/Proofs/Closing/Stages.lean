import LocalSocket.Proofs.Addresses
import LocalSocket.Proofs.Closing

/-!
# Stages of closing

What a thread can do to its conduct is said once, in `Conduct.Evolves` and, as
far as its stage is concerned, in `Stage.Advances`.  What the stages tell of the
trace of a run is preserved by that, and by all that other threads do.
-/

namespace LocalSocket

/-! ## Steps -/

/-- What the thread has done, or is doing. -/
def Event.action? : Event → Option Action
  | acted _ action => some action
  | called _ call | answered _ call _ => some (.call call)
  | began .. | ended .. => none

/-- How the stage of a thread follows from what happens to the thread. -/
inductive Stage.Advances (thread : Thread) (channel : Channel) :
    Stage → Event → Stage → Prop where
  /-- No operation begins or ends before the thread is done with closing. -/
  | boundary {stage : Stage} {event : Event}
      (boundary : event.isBoundary = true) (calm : stage.isBusy = false) :
      Advances thread channel stage event .untried
  | tried :
      Advances thread channel .untried (.acted thread .closeOnce)
        (if channel.isOpen = true then .opened else .late)
  | locked :
      Advances thread channel .opened (.acted thread (.acquire .state))
        .shutting
  | woke {fd : Fd} {answer : (Call.wake fd).Answer} :
      Advances thread channel .shutting (.answered thread (.wake fd) answer)
        .woken
  | unlocked {stage : Stage} (shutting : stage = .shutting ∨ stage = .woken) :
      Advances thread channel stage (.acted thread (.release .state)) .waking
  | deserted (unused : channel.fields.threads = []) :
      Advances thread channel .waking (.acted thread .fields) .past
  | stopped {user : Thread} {error : OsError} :
      Advances thread channel .waking
        (.answered thread (.signal user) (.error error)) .past
  | stays {stage : Stage} {event : Event} (inside : event.isBoundary = false)
      (tried : event ≠ .acted thread .closeOnce)
      (locked : stage = .opened → event ≠ .acted thread (.acquire .state))
      (unlocked : stage.isShutting = true →
        event ≠ .acted thread (.release .state))
      (woke : ∀ fd answer, event ≠ .answered thread (.wake fd) answer) :
      Advances thread channel stage event stage

theorem Event.acted_ne {thread : Thread} {action other : Action}
    (h : action ≠ other) : acted thread action ≠ acted thread other := by
  rintro ⟨⟩
  exact h rfl

theorem Event.acted_ne_answered {thread other : Thread} {action : Action}
    {call : Call} {answer : call.Answer} :
    acted thread action ≠ answered other call answer :=
  nofun

theorem Stage.Advances.acted {thread : Thread} {channel : Channel}
    {stage : Stage} {action : Action} (tried : action ≠ .closeOnce)
    (locked : stage = .opened → action ≠ .acquire .state)
    (unlocked : stage.isShutting = true → action ≠ .release .state) :
    Stage.Advances thread channel stage (.acted thread action) stage :=
  .stays rfl (Event.acted_ne tried) (fun h => Event.acted_ne (locked h))
    (fun h => Event.acted_ne (unlocked h))
    fun _ _ => Event.acted_ne_answered

/-- What happens to a thread, and what becomes of its conduct. -/
structure Conduct.Evolves (thread : Thread) (channel : Channel) (s : Conduct)
    (event : Event) (s' : Conduct) : Prop where
  may : ∀ action, event.action? = some action → s.Allows action
  stage : Stage.Advances thread channel s.stage event s'.stage
  known : ∀ fields, s'.known = some fields →
    (s.known = some fields ∧ event.isBoundary = false ∧
      event ≠ .acted thread (.release .state) ∧
      ∀ other, event ≠ .acted thread (.put other)) ∨
    (event = .acted thread .fields ∧ fields = channel.fields) ∨
    event = .acted thread (.put fields)
  failure : ∀ fd error, s'.failure = some (fd, error) →
    (s.failure = some (fd, error) ∧ event.isBoundary = false) ∨
    (event = .answered thread (.close fd) (.error error) ∧
      error.isInterrupted = false)

namespace Conduct

variable {thread : Thread} {channel channel' : Channel} {s s' : Conduct}
  {event : Event}

/-- Whatever changes nothing about the conduct is no step in closing. -/
theorem Evolves.stay (inside : event.isBoundary = false)
    (may : ∀ action, event.action? = some action → s.Allows action)
    (plain : ∀ action, event = .acted thread action →
      isPlain action = true)
    (woke : ∀ fd answer, event ≠ .answered thread (.wake fd) answer) :
    s.Evolves thread channel event s where
  may := may
  stage := by
    have other : ∀ action, isPlain action = false →
        event ≠ .acted thread action := by
      rintro action odd rfl
      simp [plain action rfl] at odd
    exact .stays inside (other _ rfl) (fun _ => other _ rfl)
      (fun _ => other _ rfl) woke
  known fields h := by
    have other : ∀ action, isPlain action = false →
        event ≠ .acted thread action := by
      rintro action odd rfl
      simp [plain action rfl] at odd
    exact .inl ⟨h, inside, other _ rfl, fun _ => other _ rfl⟩
  failure fd error h := .inl ⟨h, inside⟩

theorem Evolves.boundary {operation : Option Channel.Operation}
    (boundary : event.isBoundary = true) (calm : s.stage.isBusy = false) :
    s.Evolves thread channel event { operation := operation } where
  may action h := by
    cases event with
    | began | ended => cases h
    | acted | called | answered => cases boundary
  stage := .boundary boundary calm
  known _ := nofun
  failure _ _ := nofun

theorem Evolves.acted {action : Action} (allows : s.Allows action)
    (stage : Stage.Advances thread channel s.stage (.acted thread action)
      s'.stage)
    (known : ∀ fields, s'.known = some fields →
      (s.known = some fields ∧ action ≠ .release .state ∧
        ∀ other, action ≠ .put other) ∨
      (action = .fields ∧ fields = channel.fields) ∨ action = .put fields)
    (failure : s'.failure = s.failure) :
    s.Evolves thread channel (.acted thread action) s' where
  may := by
    rintro _ ⟨⟩
    exact allows
  stage := stage
  known fields h := by
    obtain ⟨same, unlocked, unwritten⟩ | ⟨rfl, rfl⟩ | rfl := known fields h
    · exact .inl ⟨same, rfl, Event.acted_ne unlocked,
        fun other => Event.acted_ne (unwritten other)⟩
    · exact .inr (.inl ⟨rfl, rfl⟩)
    · exact .inr (.inr rfl)
  failure fd error h := .inl ⟨failure ▸ h, rfl⟩

theorem isShuttingDown_of_isShutting (shutting : s.stage.isShutting = true)
    (begun : s.stage ≠ .opened) : s.IsShuttingDown := by
  cases h : s.stage <;> simp_all [Stage.isShutting, IsShuttingDown]

theorem Allows.evolves_acted {action : Action} {result : action.Result}
    (allows : s.Allows action)
    (answered : channel.answer thread action = .answered channel' result) :
    s.Evolves thread channel (.acted thread action)
      (s.after action result) := by
  by_cases plain : isPlain action = true
  · rw [after_of_isPlain plain]
    refine .stay rfl ?_ ?_ fun _ _ => Event.acted_ne_answered
    all_goals
      rintro _ ⟨⟩
      assumption
  cases action with
  | acquire lock =>
      cases lock with
      | read | write => exact absurd rfl plain
      | state =>
          refine .acted allows ?_ (fun _ h => .inl ⟨h, nofun, fun _ => nofun⟩)
            rfl
          by_cases opened : s.stage = .opened
          · have after : (s.after (.acquire .state) result).stage = .shutting :=
              if_pos opened
            rw [after, opened]
            exact .locked
          · have after : (s.after (.acquire .state) result).stage = s.stage :=
              if_neg opened
            rw [after]
            exact .acted nofun (fun h => absurd h opened) fun _ => nofun
  | release lock =>
      cases lock with
      | read | write => exact absurd rfl plain
      | state =>
          refine .acted allows ?_ (fun _ => nofun) rfl
          by_cases down : s.IsShuttingDown
          · have after : (s.after (.release .state) result).stage = .waking :=
              if_pos down
            rw [after]
            exact .unlocked down
          · have after : (s.after (.release .state) result).stage = s.stage :=
              if_neg down
            rw [after]
            exact .acted nofun (fun _ => nofun) fun shutting =>
              absurd (isShuttingDown_of_isShutting shutting allows.2) down
  | fields =>
      cases answered
      refine .acted allows ?_ (fun _ h => .inr (.inl ?_)) rfl
      · by_cases deserted : s.stage = .waking ∧ channel.fields.threads = []
        · have after : (s.after .fields channel.fields).stage = .past :=
            if_pos deserted
          rw [after, deserted.1]
          exact .deserted deserted.2
        · have after : (s.after .fields channel.fields).stage = s.stage :=
            if_neg deserted
          rw [after]
          exact .acted nofun (fun _ => nofun) fun _ => nofun
      · cases h
        exact ⟨rfl, rfl⟩
  | put fields =>
      refine .acted allows ?_ (fun _ h => ?_) rfl
      · exact .acted nofun (fun _ => nofun) fun _ => nofun
      · cases h
        exact .inr (.inr rfl)
  | closeOnce =>
      cases answered
      refine .acted allows ?_ (fun _ h => .inl ⟨h, nofun, fun _ => nofun⟩)
        rfl
      have untried : s.stage = .untried := allows
      rw [untried]
      exact .tried
  | call => cases answered
  | _ => exact absurd rfl plain

theorem Allows.evolves_answered {call : Call} (allows : s.Allows (.call call))
    (answer : call.Answer) :
    s.Evolves thread channel (.answered thread call answer)
      (s.after (.call call) answer) := by
  have may : ∀ other, some (.call call) = some other → s.Allows other := by
    rintro _ ⟨⟩
    exact allows
  have stay : (∀ fd, call ≠ .wake fd) → s.Evolves thread channel
      (.answered thread call answer) s := by
    refine fun other => .stay rfl may (fun _ => nofun) fun fd answer h => ?_
    cases h
    exact other fd rfl
  have known : ∀ fields, s.known = some fields →
      s.known = some fields ∧ false = false ∧
        Event.answered thread call answer ≠ .acted thread (.release .state) ∧
        ∀ other, Event.answered thread call answer ≠
          .acted thread (.put other) :=
    fun _ h => ⟨h, rfl, nofun, fun _ => nofun⟩
  cases call with
  | wake fd =>
      refine ⟨may, ?_, fun fields h => .inl (known fields h),
        fun _ _ h => .inl ⟨h, rfl⟩⟩
      rw [allows.1]
      exact .woke
  | signal user =>
      cases answer with
      | ok => exact stay nofun
      | error error =>
          refine ⟨may, ?_, fun fields h => .inl (known fields h),
            fun _ _ h => .inl ⟨h, rfl⟩⟩
          have waking : s.stage = .waking := allows
          rw [waking]
          exact .stopped
  | close fd =>
      cases answer with
      | ok => exact stay nofun
      | error error =>
          by_cases again : error.isInterrupted = true
          · have after : s.after (.call (.close fd)) (.error error) = s :=
              if_pos again
            rw [after]
            exact stay nofun
          · have after : s.after (.call (.close fd)) (.error error) =
                { s with failure := some (fd, error) } := if_neg again
            rw [after]
            refine ⟨may, (stay nofun).stage,
              fun fields h => .inl (known fields h), ?_⟩
            rintro _ _ ⟨⟩
            exact .inr ⟨rfl, by simpa using again⟩
  | _ => exact stay nofun

end Conduct

/-! ## What the conduct tells -/

theorem Trace.firstClose?_concat {trace rest' : Trace} {event : Event}
    {thread : Thread}
    (h : firstClose? (trace ++ [event]) = some (thread, rest')) :
    (∃ rest, trace.firstClose? = some (thread, rest) ∧
      rest' = rest ++ [event]) ∨
    (trace.firstClose? = none ∧ event = .acted thread .closeOnce ∧
      rest' = []) := by
  rw [firstClose?_append] at h
  cases hfirst : trace.firstClose? with
  | some first =>
      simp only [hfirst, Option.some.injEq, Prod.mk.injEq] at h
      obtain ⟨rfl, rfl⟩ := h
      exact .inl ⟨first.2, rfl, rfl⟩
  | none =>
      simp only [hfirst] at h
      have hmem := closeOnce_mem_of_firstClose? h
      obtain rfl : .acted thread .closeOnce = event := by simpa using hmem
      simp only [firstClose?, Option.some.injEq, Prod.mk.injEq] at h
      exact .inr ⟨rfl, rfl, h.2.symm⟩

/-- A thread that has closed the channel is the first one to do so, and is
inside that operation since; the other locks that it holds it gives up when it
is done. -/
def Stage.Leads (stage : Stage) (thread : Thread) (trace : Trace) : Prop :=
  stage.isFirst = true → ∃ rest, trace.firstClose? = some (thread, rest) ∧
    rest.IsWithin thread ∧
    (stage.isBusy = true → ∀ lock, .acted thread (.release lock) ∈ rest →
      lock = .state) ∧
    (stage = .opened → .acted thread (.acquire .state) ∉ rest)

/-- The locked part of the first close has not been done yet, or it has. -/
def Stage.Shuts (stage : Stage) (thread : Thread) (trace : Trace) : Prop :=
  ∀ rest, trace.firstClose? = some (thread, rest) →
    stage.isShutting = true ∨ .acted thread (.release .state) ∈ rest

/-- Whoever has woken the users has closed the channel before, and will not wake
them again. -/
def Stage.Wakes (stage : Stage) (thread : Thread) (trace : Trace)
    (activity : Activity) : Prop :=
  ∀ fd, .called thread (.wake fd) ∈ trace →
    (∃ rest, trace.firstClose? = some (thread, rest) ∧
      .called thread (.wake fd) ∈ rest) ∧
    stage ≠ .opened ∧
    (stage = .shutting → ∃ operation next,
      activity = .calling operation (.wake fd) next)

/-- The first close is under way, or has left the channel deserted, or a signal
of it has failed. -/
def Stage.Empties (stage : Stage) (thread : Thread) (trace : Trace)
    (deserted : Prop) : Prop :=
  ∀ rest, trace.firstClose? = some (thread, rest) →
    stage.isBusy = true ∨ deserted ∨
      ∃ user error, .answered thread (.signal user) (.error error) ∈ rest

/-- A thread that has found the channel closed by another attempt gives up its
locks, and does nothing else. -/
def Stage.Yields (stage : Stage) (thread : Thread) (trace : Trace) : Prop :=
  ∀ before rest : Trace, trace = before ++ .acted thread .closeOnce :: rest →
    rest.IsWithin thread → before.firstClose? ≠ none →
    stage = .late ∧ ∀ event ∈ rest.own thread, ∃ lock, lock ≠ .state ∧
      event = .acted thread (.release lock)

section Stages

variable {thread other : Thread} {channel : Channel} {stage stage' : Stage}
  {event : Event} {trace : Trace} {activity activity' : Activity}
  {deserted deserted' : Prop}

theorem Stage.isBusy_of_isShutting (h : stage.isShutting = true) :
    stage.isBusy = true := by
  cases stage <;> first | rfl | cases h

theorem Stage.isFirst_of_isBusy (h : stage.isBusy = true) :
    stage.isFirst = true := by
  cases stage <;> first | rfl | cases h

theorem Stage.Leads.since (leads : stage.Leads thread trace)
    (first : stage.isFirst = true) {rest : Trace}
    (hfirst : trace.firstClose? = some (thread, rest)) :
    rest.IsWithin thread ∧
      (stage.isBusy = true → ∀ lock, .acted thread (.release lock) ∈ rest →
        lock = .state) ∧
      (stage = .opened → .acted thread (.acquire .state) ∉ rest) := by
  obtain ⟨rest', hfirst', since⟩ := leads first
  rw [hfirst] at hfirst'
  cases hfirst'
  exact since

/-- A thread that is done with closing the channel has done the locked part of
it. -/
theorem Stage.Shuts.released (shuts : stage.Shuts thread trace)
    (calm : stage.isBusy = false) {rest : Trace}
    (hfirst : trace.firstClose? = some (thread, rest)) :
    .acted thread (.release .state) ∈ rest := by
  refine (shuts rest hfirst).resolve_left fun shutting => ?_
  cases calm.symm.trans (isBusy_of_isShutting shutting)

theorem Stage.Advances.of_untried
    (advances : Stage.Advances thread channel stage event stage')
    (untried : stage = .untried) (apart : event ≠ .acted thread .closeOnce) :
    stage' = .untried := by
  cases advances with
  | boundary => rfl
  | tried => exact absurd rfl apart
  | unlocked shutting => simp [untried] at shutting
  | stays => exact untried
  | _ => cases untried

/-- A thread takes the state lock before it shuts the channel down. -/
theorem Stage.Advances.of_shuttingDown
    (advances : Stage.Advances thread channel stage event stage')
    (down : stage' = .shutting ∨ stage' = .woken) :
    event = .acted thread (.acquire .state) ∨
      (stage = .shutting ∨ stage = .woken) ∧
        event ≠ .acted thread (.release .state) := by
  cases advances with
  | tried => split at down <;> simp at down
  | locked => exact .inl rfl
  | woke => exact .inr ⟨.inl rfl, nofun⟩
  | stays _ _ _ unlocked =>
      refine .inr ⟨down, unlocked ?_⟩
      obtain rfl | rfl := down <;> rfl
  | _ => simp at down

theorem Stage.Advances.of_waking
    (advances : Stage.Advances thread channel stage event stage')
    (waking : stage' = .waking) :
    event = .acted thread (.release .state) ∨ stage = .waking := by
  cases advances with
  | tried => split at waking <;> cases waking
  | unlocked => exact .inl rfl
  | stays => exact .inr waking
  | _ => cases waking

theorem Stage.Leads.append_other (h : stage.Leads thread trace)
    (hthread : event.thread ≠ thread) :
    stage.Leads thread (trace ++ [event]) := by
  intro first
  obtain ⟨rest, hfirst, within, busy, opened⟩ := h first
  have other : ∀ action, .acted thread action ∈ rest ++ [event] →
      .acted thread action ∈ rest := by
    intro action hmem
    obtain hmem | hmem := List.mem_append.mp hmem
    · exact hmem
    · obtain rfl := List.mem_singleton.mp hmem
      exact absurd rfl hthread
  exact ⟨rest ++ [event], by rw [Trace.firstClose?_append, hfirst],
    within.concat fun h => absurd h hthread,
    fun h lock hmem => busy h lock (other _ hmem),
    fun h hmem => opened h (other _ hmem)⟩

theorem Stage.Leads.advance (h : stage.Leads thread trace)
    (advances : Stage.Advances thread channel stage event stage')
    (unopened : channel.isOpen = true → trace.firstClose? = none)
    (low : stage.isBusy = true → ∀ lock, event = .acted thread (.release lock) →
      lock = .state) :
    stage'.Leads thread (trace ++ [event]) := by
  -- what has been so since the channel was closed goes on
  have onward : stage.isFirst = true → event.isBoundary = false →
      (stage'.isBusy = true → stage.isBusy = true) →
      (stage' = .opened → stage = .opened ∧
        event ≠ .acted thread (.acquire .state)) →
      stage'.Leads thread (trace ++ [event]) := by
    intro first inside busy' opened' _
    obtain ⟨rest, hfirst, within, busy, opened⟩ := h first
    refine ⟨rest ++ [event], by rw [Trace.firstClose?_append, hfirst],
      within.concat fun _ => inside, fun isBusy lock hmem => ?_,
      fun isOpened hmem => ?_⟩
    · obtain hmem | hmem := List.mem_append.mp hmem
      · exact busy (busy' isBusy) lock hmem
      · exact low (busy' isBusy) lock (List.mem_singleton.mp hmem).symm
    · obtain ⟨wasOpened, hne⟩ := opened' isOpened
      obtain hmem | hmem := List.mem_append.mp hmem
      · exact opened wasOpened hmem
      · exact hne (List.mem_singleton.mp hmem).symm
  cases advances with
  | boundary => exact nofun
  | tried =>
      intro first
      have isOpen : channel.isOpen = true := by
        by_contra closed
        simp [closed, Stage.isFirst] at first
      have hnone := unopened isOpen
      refine ⟨[], by rw [Trace.firstClose?_append, hnone]; rfl,
        fun _ hmem => ?_, fun _ _ hmem => ?_, fun _ hmem => ?_⟩
      all_goals cases hmem
  | locked => exact onward rfl rfl (fun _ => rfl) nofun
  | woke => exact onward rfl rfl (fun _ => rfl) nofun
  | unlocked shutting =>
      obtain rfl | rfl := shutting <;>
        exact onward rfl rfl (fun _ => rfl) nofun
  | deserted unused => exact onward rfl rfl nofun nofun
  | stopped => exact onward rfl rfl nofun nofun
  | stays inside tried locked unlocked woke =>
      intro first
      exact onward first inside id (fun h => ⟨h, locked h⟩) first

theorem Stage.Shuts.append_other (h : stage.Shuts thread trace)
    (hthread : event.thread ≠ thread) :
    stage.Shuts thread (trace ++ [event]) := by
  intro rest' hfirst'
  obtain ⟨rest, hfirst, rfl⟩ | ⟨_, rfl, _⟩ := Trace.firstClose?_concat hfirst'
  · exact (h rest hfirst).imp_right (List.mem_append_left _)
  · exact absurd rfl hthread

theorem Stage.Shuts.advance (h : stage.Shuts thread trace)
    (advances : Stage.Advances thread channel stage event stage')
    (opened : trace.firstClose? = none → channel.isOpen = true) :
    stage'.Shuts thread (trace ++ [event]) := by
  intro rest' hfirst'
  obtain ⟨rest, hfirst, rfl⟩ | ⟨hnone, rfl, rfl⟩ :=
    Trace.firstClose?_concat hfirst'
  · have before := (h rest hfirst).imp_right
      (List.mem_append_left [event])
    cases advances with
    | boundary _ calm =>
        exact .inr (List.mem_append_left _ (h.released calm hfirst))
    | tried => exact .inr (before.resolve_left nofun)
    | unlocked => exact .inr (by simp)
    | deserted => exact .inr (before.resolve_left nofun)
    | stopped => exact .inr (before.resolve_left nofun)
    | locked | woke => exact .inl rfl
    | stays => exact before
  · refine .inl ?_
    cases advances with
    | tried => simp [opened hnone, Stage.isShutting]
    | boundary boundary => cases boundary
    | stays _ tried => exact absurd rfl tried

theorem Stage.Wakes.append_other (h : stage.Wakes thread trace activity)
    (hthread : event.thread ≠ thread) :
    stage.Wakes thread (trace ++ [event]) activity := by
  intro fd hmem
  obtain hmem | hmem := List.mem_append.mp hmem
  · obtain ⟨⟨rest, hfirst, hmem⟩, later⟩ := h fd hmem
    exact ⟨⟨rest ++ [event], by rw [Trace.firstClose?_append, hfirst],
      List.mem_append_left _ hmem⟩, later⟩
  · obtain rfl := List.mem_singleton.mp hmem
    exact absurd rfl hthread

theorem Stage.Wakes.advance (h : stage.Wakes thread trace activity)
    (advances : Stage.Advances thread channel stage event stage')
    (leads : stage.Leads thread trace)
    (unopened : channel.isOpen = true → trace.firstClose? = none)
    (called : ∀ fd, event = .called thread (.wake fd) → stage = .shutting ∧
      ∃ operation next, activity' = .calling operation (.wake fd) next)
    (answered : ∀ fd operation next,
      activity = .calling operation (.wake fd) next →
        ∃ answer, event = .answered thread (.wake fd) answer) :
    stage'.Wakes thread (trace ++ [event]) activity' := by
  intro fd hmem
  obtain hmem | hmem := List.mem_append.mp hmem
  · obtain ⟨⟨rest, hfirst, hmem⟩, unlike, inside⟩ := h fd hmem
    refine ⟨⟨rest ++ [event], by rw [Trace.firstClose?_append, hfirst],
      List.mem_append_left _ hmem⟩, ?_⟩
    cases advances with
    | boundary | woke | unlocked | deserted | stopped => exact ⟨nofun, nofun⟩
    | tried =>
        have closed : channel.isOpen = false := by
          by_contra isOpen
          simp [unopened (by simpa using isOpen)] at hfirst
        simp [closed]
    | locked => exact absurd rfl unlike
    | stays _ _ _ _ woke =>
        refine ⟨unlike, fun shutting => ?_⟩
        obtain ⟨operation, next, calling⟩ := inside shutting
        obtain ⟨answer, rfl⟩ := answered fd operation next calling
        exact absurd rfl (woke fd answer)
  · obtain rfl := List.mem_singleton.mp hmem
    obtain ⟨rfl, calling⟩ := called fd rfl
    obtain ⟨rest, hfirst, _⟩ := leads rfl
    refine ⟨⟨rest ++ [.called thread (.wake fd)], by
      rw [Trace.firstClose?_append, hfirst], by simp⟩, ?_⟩
    cases advances with
    | boundary boundary => cases boundary
    | stays => exact ⟨nofun, fun _ => calling⟩

theorem Stage.Empties.onward (h : stage.Empties thread trace deserted)
    (calm : stage.isBusy = false) {rest : Trace}
    (hfirst : trace.firstClose? = some (thread, rest))
    (stays : deserted → deserted') :
    deserted' ∨ ∃ user error,
      .answered thread (.signal user) (.error error) ∈ rest ++ [event] := by
  obtain busy | left | ⟨user, error, hmem⟩ := h rest hfirst
  · cases calm.symm.trans busy
  · exact .inl (stays left)
  · exact .inr ⟨user, error, List.mem_append_left _ hmem⟩

theorem Stage.Empties.append_other (h : stage.Empties thread trace deserted)
    (hthread : event.thread ≠ thread)
    (stays : stage.isBusy = false →
      ∀ rest, trace.firstClose? = some (thread, rest) →
        deserted → deserted') :
    stage.Empties thread (trace ++ [event]) deserted' := by
  intro rest' hfirst'
  obtain ⟨rest, hfirst, rfl⟩ | ⟨_, rfl, _⟩ := Trace.firstClose?_concat hfirst'
  · cases busy : stage.isBusy with
    | true => exact .inl rfl
    | false => exact .inr (h.onward busy hfirst (stays busy rest hfirst))
  · exact absurd rfl hthread

theorem Stage.Empties.advance (h : stage.Empties thread trace deserted)
    (advances : Stage.Advances thread channel stage event stage')
    (opened : trace.firstClose? = none → channel.isOpen = true)
    (leaves : stage = .waking → event = .acted thread .fields →
      channel.fields.threads = [] → deserted')
    (stays : stage.isBusy = false →
      ∀ rest, trace.firstClose? = some (thread, rest) →
        deserted → deserted') :
    stage'.Empties thread (trace ++ [event]) deserted' := by
  intro rest' hfirst'
  obtain ⟨rest, hfirst, rfl⟩ | ⟨hnone, rfl, rfl⟩ :=
    Trace.firstClose?_concat hfirst'
  · have onward : stage.isBusy = false → deserted' ∨
        ∃ user error, .answered thread (.signal user) (.error error) ∈
          rest ++ [event] :=
      fun calm => h.onward calm hfirst (stays calm rest hfirst)
    cases advances with
    | boundary _ calm => exact .inr (onward calm)
    | tried => exact .inr (onward rfl)
    | locked | woke | unlocked => exact .inl rfl
    | deserted unused => exact .inr (.inl (leaves rfl rfl unused))
    | @stopped user error => exact .inr (.inr ⟨user, error, by simp⟩)
    | stays =>
        cases busy : stage.isBusy with
        | true => exact .inl rfl
        | false => exact .inr (onward busy)
  · refine .inl ?_
    cases advances with
    | tried => simp [opened hnone, Stage.isBusy]
    | boundary boundary => cases boundary
    | stays _ tried => exact absurd rfl tried

theorem Trace.concat_eq {trace before rest' : Trace} {event first : Event}
    (h : trace ++ [event] = before ++ first :: rest') :
    (rest' = [] ∧ trace = before ∧ event = first) ∨
      ∃ rest, rest' = rest ++ [event] ∧ trace = before ++ first :: rest := by
  obtain rfl | ⟨rest, last, rfl⟩ := List.eq_nil_or_concat rest'
  · obtain ⟨rfl, hlast⟩ := List.append_inj' h rfl
    exact .inl ⟨rfl, rfl, by simpa using hlast⟩
  · have hconcat : trace ++ [event] = (before ++ first :: rest) ++ [last] := by
      simpa using h
    obtain ⟨rfl, hlast⟩ := List.append_inj' hconcat rfl
    obtain rfl : event = last := by simpa using hlast
    exact .inr ⟨rest, by simp, rfl⟩

theorem Trace.IsWithin.init {rest : Trace}
    (within : IsWithin thread (rest ++ [event])) :
    rest.IsWithin thread ∧
      (event.thread = thread → event.isBoundary = false) := by
  refine ⟨fun other hmem => within other ?_, fun hthread => within event ?_⟩
  · rw [own_append]
    exact List.mem_append_left _ hmem
  · exact mem_own.mpr ⟨by simp, hthread⟩

theorem Stage.Yields.append_other (h : stage.Yields thread trace)
    (hthread : event.thread ≠ thread) :
    stage.Yields thread (trace ++ [event]) := by
  intro before rest' htrace within earlier
  obtain ⟨_, _, rfl⟩ | ⟨rest, rfl, rfl⟩ := Trace.concat_eq htrace
  · exact absurd rfl hthread
  · rw [Trace.own_append_other rest hthread]
    exact h before rest rfl within.init.1 earlier

theorem Stage.Yields.advance (h : stage.Yields thread trace)
    (advances : Stage.Advances thread channel stage event stage')
    (hthread : event.thread = thread)
    (unopened : channel.isOpen = true → trace.firstClose? = none)
    (yields : stage = .late → event.isBoundary = false →
      ∃ lock, lock ≠ .state ∧ event = .acted thread (.release lock)) :
    stage'.Yields thread (trace ++ [event]) := by
  intro before rest' htrace within earlier
  obtain ⟨rfl, rfl, rfl⟩ | ⟨rest, rfl, rfl⟩ := Trace.concat_eq htrace
  · have closed : channel.isOpen = false := by
      by_contra isOpen
      exact earlier (unopened (by simpa using isOpen))
    refine ⟨?_, fun _ hmem => ?_⟩
    · cases advances with
      | tried => simp [closed]
      | boundary boundary => cases boundary
      | stays _ tried => exact absurd rfl tried
    · cases hmem
  · obtain ⟨within, inside⟩ := within.init
    obtain ⟨rfl, quiet⟩ := h before rest rfl within earlier
    have inside := inside hthread
    refine ⟨?_, fun other hmem => ?_⟩
    · cases advances with
      | boundary boundary => cases inside.symm.trans boundary
      | unlocked shutting => simp at shutting
      | stays => rfl
    · rw [Trace.own_append_same rest hthread] at hmem
      obtain hmem | hmem := List.mem_append.mp hmem
      · exact quiet other hmem
      · obtain rfl := List.mem_singleton.mp hmem
        exact yields rfl inside

end Stages

end LocalSocket
