import LocalSocket.Proofs.Addresses
import LocalSocket.Proofs.Closing
import LocalSocket.Proofs.Registrations
import LocalSocket.Proofs.Release

/-!
# Users of the descriptor

A thread records itself as a user of the descriptor while the channel is live,
under the state lock.  So once the channel has been closed and its last user has
left, nobody uses the descriptor anymore; if there are registrations, it is
released by whoever gives up the last of them.
-/

namespace LocalSocket

theorem Fields.mem_threads {fields : Fields} {thread : Thread} :
    thread ∈ fields.threads ↔
      ∃ direction, fields.slot direction = some thread := by
  constructor
  · intro hmem
    obtain hmem | hmem := List.mem_append.mp hmem
    · exact ⟨.input, Option.mem_toList.mp hmem⟩
    · exact ⟨.output, Option.mem_toList.mp hmem⟩
  · rintro ⟨direction, filled⟩
    cases direction <;> simp_all [threads, slot]

theorem Fields.threads_eq_nil {fields : Fields} :
    fields.threads = [] ↔ ∀ direction, fields.slot direction = none := by
  simp only [List.eq_nil_iff_forall_not_mem, mem_threads, not_exists,
    Option.eq_none_iff_forall_ne_some]
  exact forall_comm

section Users

variable {fd : Fd} {trace : Trace} {c c' : Config} {thread user : Thread}
  {event : Event} {direction : Direction}

theorem Run.moves {operation : Channel.Operation} {action : Action}
    {next : action.Result → Program Channel.Reply} {channel : Channel}
    {result : action.Result} (run : Run fd trace c)
    (running : c.activity thread = .running operation (.act action next))
    (answered : c.channel.answer thread action = .answered channel result) :
    ∃ S s', Coherent fd trace c S ∧
      (S thread).Moves thread c.channel action channel s' := by
  obtain ⟨S, coherent, keeps⟩ := run.coherent
  have hkeeps := keeps thread
  rw [running] at hkeeps
  obtain ⟨s', _, moves⟩ := moves_of_takes coherent.locked coherent.recorded
    coherent.phased (hkeeps trivial) answered
  exact ⟨S, s', coherent, moves⟩

/-- What the holder of the state lock relies on changes by its own steps
only. -/
theorem Step.spares_holder (step : Step fd c [event] c') (run : Run fd trace c)
    (held : c.channel.locks.state = some thread)
    (stays : event ≠ .acted thread (.release .state)) :
    c'.channel.locks.state = some thread ∧
      ((∀ fields, event ≠ .acted thread (.put fields)) →
        c'.channel.fields = c.channel.fields) := by
  cases step with
  | @act other operation action next channel result running answered =>
      obtain ⟨S, s', coherent, moves⟩ := run.moves running answered
      have alone : ∀ fields, (S other).fields = some fields →
          other = thread := fun fields known =>
        Option.some.inj ((coherent.locked.fields_eq known).1.symm.trans held)
      cases moves with
      | acquireState free =>
          rw [held] at free
          cases free
      | releaseState known =>
          obtain rfl := alone _ known
          exact absurd rfl stays
      | put known =>
          obtain rfl := alone _ known
          exact ⟨held, fun unwritten => absurd rfl (unwritten _)⟩
      | _ => exact ⟨held, fun _ => rfl⟩
  | _ => exact ⟨held, fun _ => rfl⟩

/-- Only the thread itself is recorded, while the channel is live. -/
theorem Standing.Update.slot_of {s s' : Standing} {fields fields' : Fields}
    (update : s.Update thread fields fields' s')
    (h : fields'.slot direction = some user) :
    fields.slot direction = some user ∨
      (user = thread ∧ fields.state.isLive = true) := by
  cases update with
  | enter other lock outside live =>
      rw [Fields.slot_setSlot] at h
      split at h
      · exact .inr ⟨(Option.some.inj h).symm, live⟩
      · exact .inl h
  | leave other inside => exact .inl (Fields.slot_of_setSlot_none h)
  | revise live live' holder reader writer registrations =>
      cases direction with
      | input => exact .inl (reader.symm.trans h)
      | output => exact .inl (writer.symm.trans h)
  | register | deregister | defer | kill =>
      cases direction <;> exact .inl h

theorem Step.slot_of (step : Step fd c [event] c') (run : Run fd trace c)
    (h : c'.channel.fields.slot direction = some user) :
    c.channel.fields.slot direction = some user ∨
      (event = .acted user (.put c'.channel.fields) ∧
        c.channel.fields.state.isLive = true) := by
  cases step with
  | act running answered =>
      obtain ⟨S, s', coherent, moves⟩ := run.moves running answered
      cases moves with
      | put known calm update =>
          obtain h | ⟨rfl, live⟩ := update.slot_of h
          · exact .inl h
          · exact .inr ⟨rfl, live⟩
      | _ => exact .inl h
  | _ => exact .inl h

/-- Between its operations, a thread is no user, and does not hold the state
lock. -/
theorem Step.free_of_boundary (step : Step fd c [event] c')
    (run : Run fd trace c) (boundary : event.isBoundary = true) :
    c.channel.locks.state ≠ some event.thread ∧
      ∀ direction, c.channel.fields.slot direction ≠ some event.thread := by
  obtain ⟨S, coherent, keeps⟩ := run.coherent
  have hkeeps := keeps event.thread
  have free : (S event.thread).fields = none ∧
      (S event.thread).slot = none := by
    cases step with
    | begin idle | drop idle =>
        rw [Event.thread] at hkeeps ⊢
        simp only [idle] at hkeeps
        rw [show S _ = {} from hkeeps]
        exact ⟨rfl, rfl⟩
    | finish running =>
        rw [Event.thread] at hkeeps ⊢
        rw [running] at hkeeps
        rw [show S _ = _ from hkeeps trivial]
        exact ⟨rfl, rfl⟩
    | act | pause | call | answer => cases boundary
  refine ⟨fun held => ?_, fun direction filled => ?_⟩
  · have fields := coherent.locked.state event.thread
    rw [held, free.1, if_pos rfl] at fields
    cases fields
  · have inside := (coherent.recorded.slot _ direction).mpr filled
    cases free.2.symm.trans inside

/-- A thread that is recorded as a user is inside an operation, and does not try
to close the channel. -/
theorem Step.inside_of_slot (step : Step fd c [event] c')
    (run : Run fd trace c)
    (h : c.channel.fields.slot direction = some event.thread) :
    event.isBoundary = false ∧ event ≠ .acted event.thread .closeOnce := by
  refine ⟨?_, fun closes => ?_⟩
  · by_contra boundary
    exact (step.free_of_boundary run (by simpa using boundary)).2 direction h
  · obtain ⟨S, coherent, keeps⟩ := run.coherent
    have inside := (coherent.recorded.slot _ direction).mpr h
    have hkeeps := keeps event.thread
    cases step with
    | act running =>
        rw [Event.thread] at closes hkeeps inside
        cases closes
        rw [running] at hkeeps
        cases inside.symm.trans (hkeeps trivial).2.2.1
    | _ => cases closes

/-- Nobody is recorded anymore once the first close has given up the state
lock. -/
theorem Step.stays_unused (step : Step fd c [event] c') (run : Run fd trace c)
    (shutDown : trace.HasShutDown) (unused : c.channel.fields.threads = []) :
    c'.channel.fields.threads = [] := by
  refine Fields.threads_eq_nil.mpr fun direction => ?_
  by_contra used
  obtain ⟨user, filled⟩ := Option.ne_none_iff_exists'.mp used
  obtain filled | ⟨_, live⟩ := step.slot_of run filled
  · simp [Fields.threads_eq_nil.mp unused direction] at filled
  · obtain ⟨S, coherent, _⟩ := run.coherent
    cases live.symm.trans (coherent.not_live shutDown)

end Users

/-! ## The last registration -/

/-- The descriptor has to be released, and has not been released yet. -/
def Config.IsDue (c : Config) (fd : Fd) (trace : Trace) : Prop :=
  (c.channel.fields.state = .killPending ∧ c.channel.fields.isUsed = false) ∨
    (c.channel.fields.state = .killed ∧ ¬trace.HasReleased fd)

/-- No thread uses the descriptor, and if it has to be released, that is up to
a thread that gives up a registration. -/
structure Config.IsDeserted (c : Config) (fd : Fd) (trace : Trace) : Prop where
  unused : c.channel.fields.threads = []
  due : ∀ t, c.channel.locks.state = some t → c.IsDue fd trace →
    ∃ operation, (c.activity t).operation? = some operation ∧
      operation.takesGuard = true

section Deserted

variable {fd : Fd} {trace : Trace} {c c' : Config} {thread : Thread}
  {event : Event}

/-- Whoever takes the state lock finds nothing that is due. -/
theorem Run.not_due (run : Run fd trace c)
    (free : c.channel.locks.state = none) : ¬c.IsDue fd trace := by
  obtain ⟨S, coherent, _⟩ := run.coherent
  rintro (⟨pending, unused⟩ | ⟨killed, unreleased⟩)
  · cases unused.symm.trans (coherent.phased.settled free pending)
  · exact unreleased (coherent.released free killed)

theorem Config.IsDue.mono (due : c'.IsDue fd (trace ++ [event]))
    (same : c'.channel.fields = c.channel.fields) : c.IsDue fd trace := by
  rw [Config.IsDue, same] at due
  exact due.imp_right fun ⟨killed, unreleased⟩ =>
    ⟨killed, fun released => unreleased (released.append [event])⟩

theorem Config.IsDeserted.frame (deserted : c.IsDeserted fd trace)
    (same : c'.channel = c.channel) (goes : ∀ t,
      (c'.activity t).operation? = (c.activity t).operation?) :
    c'.IsDeserted fd trace := by
  obtain ⟨unused, due⟩ := deserted
  refine ⟨by rwa [same], fun t held => ?_⟩
  rw [Config.IsDue, same, goes t]
  rw [same] at held
  exact due t held

/-- Whoever writes the fields so that the descriptor has to be released gives up
a registration, or has found that it has to be. -/
theorem Step.due_of_put {fields : Fields}
    (step : Step fd c [.acted thread (.put fields)] c') (run : Run fd trace c)
    (shutDown : trace.HasShutDown) (unused : c.channel.fields.threads = [])
    (due : c'.IsDue fd (trace ++ [.acted thread (.put fields)])) :
    c.channel.locks.state = some thread ∧
      (c.IsDue fd trace ∨ ∃ operation,
        (c.activity thread).operation? = some operation ∧
        operation.takesGuard = true) := by
  have counts := (step.recounts run run.tallies).1
  obtain ⟨hchannel, _, _, operation, next, running⟩ := step.put
  obtain ⟨S, coherent, keeps⟩ := run.coherent
  have hkeeps := keeps thread
  rw [running] at hkeeps
  obtain ⟨_, known, s', held, update, _⟩ := hkeeps trivial
  obtain ⟨locked, rfl⟩ := coherent.locked.fields_eq held
  have not_live : c.channel.fields.state.isLive ≠ true := by
    simp [coherent.not_live shutDown]
  have hfields : c'.channel.fields = fields := by rw [hchannel]
  refine ⟨locked, ?_⟩
  rw [Config.IsDue, hfields] at due
  cases update with
  | enter _ _ _ live | register live | revise live => exact absurd live not_live
  | leave direction inside =>
      have filled := (coherent.recorded.slot thread direction).mp inside
      simp [Fields.threads_eq_nil.mp unused direction] at filled
  | deregister =>
      cases counts with
      | deregistered current takesGuard =>
          exact .inr ⟨_, current, takesGuard⟩
      | registered _ _ counted =>
          simp only [hfields] at counted
          omega
      | aside _ same =>
          simp only [hfields] at same
          have none_left : c.channel.fields.registrations = 0 := by omega
          refine .inl (due.imp ?_ ?_)
          · rintro ⟨pending, _⟩
            exact ⟨pending, by simp [Fields.isUsed, unused, none_left]⟩
          · rintro ⟨killed, unreleased⟩
            exact ⟨killed, fun released => unreleased (released.append _)⟩
  | defer used =>
      obtain ⟨_, unused'⟩ | ⟨killed, _⟩ := due
      · cases unused'.symm.trans used
      · cases killed
  | kill unused' mayRelease =>
      refine .inl (.inl ⟨?_, unused'⟩)
      have initialized := coherent.phased.initialized
      have not_killed := mayRelease.1
      cases h : c.channel.fields.state <;> simp_all [Lifecycle.isLive]

/-- A thread that holds the state lock has held it before, or takes it. -/
theorem Step.held_before (step : Step fd c [event] c') (run : Run fd trace c)
    (held : c'.channel.locks.state = some thread) :
    c.channel.locks.state = some thread ∨
      (event = .acted thread (.acquire .state) ∧
        c.channel.locks.state = none) := by
  cases step with
  | act running answered =>
      obtain ⟨S, s', coherent, moves⟩ := run.moves running answered
      cases moves with
      | acquireState free =>
          cases held
          exact .inr ⟨rfl, free⟩
      | releaseState => cases held
      | _ => exact .inl held
  | _ => exact .inl held

theorem Step.stays_deserted (step : Step fd c [event] c') (run : Run fd trace c)
    (shutDown : trace.HasShutDown) (deserted : c.IsDeserted fd trace) :
    c'.IsDeserted fd (trace ++ [event]) := by
  refine ⟨step.stays_unused run shutDown deserted.unused,
    fun t held' due' => ?_⟩
  -- what the thread does is still to give up a registration
  have onward : c.channel.locks.state = some t →
      (∃ operation, (c.activity t).operation? = some operation ∧
        operation.takesGuard = true) →
      ∃ operation, (c'.activity t).operation? = some operation ∧
        operation.takesGuard = true := by
    rintro held ⟨operation, current, takesGuard⟩
    refine ⟨operation, ?_, takesGuard⟩
    refine (step.operation?_eq t fun other hmem hthread => ?_).trans current
    obtain rfl := List.mem_singleton.mp hmem
    by_contra boundary
    rw [← hthread] at held
    exact (step.free_of_boundary run (by simpa using boundary)).1 held
  by_cases hput : ∃ other fields, event = .acted other (.put fields)
  · obtain ⟨other, fields, rfl⟩ := hput
    obtain ⟨held, due⟩ := step.due_of_put run shutDown deserted.unused due'
    have same : c'.channel.locks = c.channel.locks := by rw [step.put.1]
    rw [same] at held'
    obtain rfl : other = t := Option.some.inj (held.symm.trans held')
    exact onward held (due.elim (deserted.due other held) id)
  · have due := due'.mono (step.fields_eq run fun other fields h =>
      hput ⟨other, fields, by simpa using h⟩)
    have held := (step.held_before run held').resolve_right
      fun ⟨_, free⟩ => run.not_due free due
    exact onward held (deserted.due t held due)

end Deserted

end LocalSocket
