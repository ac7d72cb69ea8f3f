import LocalSocket.Proofs.Coherence

/-!
# What has happened to the descriptor

Whether the channel has been closed, and how far the release of the descriptor
has got, can be read off the trace of a run.
-/

namespace LocalSocket

open Function (update)

namespace Trace

def last? (thread : Thread) (trace : Trace) : Option Event :=
  (trace.filter fun event => event.thread == thread).getLast?

/-- The thread that closed the channel first, with the events since. -/
def firstClose? : Trace → Option (Thread × Trace)
  | [] => none
  | .acted thread .closeOnce :: rest => some (thread, rest)
  | _ :: rest => firstClose? rest

/-- The first close has done its locked part. -/
def HasShutDown (trace : Trace) : Prop :=
  ∃ thread rest, firstClose? trace = some (thread, rest) ∧
    .acted thread (.release .state) ∈ rest

def HasStarted (trace : Trace) : Prop :=
  ∃ thread fd, .called thread (.close fd) ∈ trace

/-- A call that releases the descriptor has returned without having been
interrupted. -/
def HasReleased (fd : Fd) (trace : Trace) : Prop :=
  ∃ thread answer, .answered thread (.close fd) answer ∈ trace ∧
    ∀ error, answer = .error error → error.isInterrupted = false

/-- The last that the thread saw is that its call to release the descriptor was
interrupted. -/
def WasInterrupted (fd : Fd) (thread : Thread) (trace : Trace) : Prop :=
  ∃ error : OsError, last? thread trace =
    some (.answered thread (.close fd) (.error error)) ∧
    error.isInterrupted = true

theorem last?_append (thread : Thread) (trace : Trace) (event : Event) :
    last? thread (trace ++ [event]) =
      if event.thread = thread then some event else last? thread trace := by
  unfold last?
  rw [List.filter_append]
  by_cases h : event.thread = thread
  · simp [h]
  · simp [h]

theorem firstClose?_append (trace events : Trace) :
    firstClose? (trace ++ events) =
      match firstClose? trace with
      | some (thread, rest) => some (thread, rest ++ events)
      | none => firstClose? events := by
  fun_induction firstClose? trace with
  | case1 => rfl
  | case2 thread rest => rfl
  | case3 event rest other ih => simpa [firstClose?] using ih

theorem eq_of_firstClose? {trace rest : Trace} {thread : Thread}
    (h : trace.firstClose? = some (thread, rest)) :
    ∃ before, trace = before ++ .acted thread .closeOnce :: rest := by
  fun_induction firstClose? trace with
  | case1 => cases h
  | case2 other rest' =>
      cases h
      exact ⟨[], rfl⟩
  | case3 event rest' other ih =>
      obtain ⟨before, rfl⟩ := ih h
      exact ⟨event :: before, rfl⟩

end Trace

structure ClosedBy (trace : Trace) (channel : Channel) (S : Thread → Standing) :
    Prop where
  opened : channel.isOpen = true ↔ trace.firstClose? = none
  closing : ∀ t, (S t).owesShutDown = true →
    ∃ rest, trace.firstClose? = some (t, rest) ∧
      .acted t (.release .state) ∉ rest

/-- The trace tells how far the release of the descriptor has got. -/
structure ReleasedBy (fd : Fd) (trace : Trace) (c : Config)
    (S : Thread → Standing) : Prop where
  unstarted : c.channel.fields.state ≠ .killed → ¬trace.HasStarted
  released : c.channel.fields.state = .killed →
    (∃ t, (S t).owesRelease = true) ∨ trace.HasReleased fd
  /-- Whoever owes the release is before, inside or after an interruption of the
  call. -/
  releasing : ∀ t, (S t).owesRelease = true →
    ¬trace.HasStarted ∨ trace.WasInterrupted fd t ∨
      ∃ operation next, c.activity t = .calling operation (.close fd) next
  final : trace.HasReleased fd → c.channel.fields.state = .killed ∧
    ∀ t, (S t).owesRelease = false

namespace Trace

variable {fd : Fd} {trace : Trace} {event : Event}

theorem hasStarted_append (trace : Trace)
    (h : ∀ t g, event ≠ .called t (.close g)) :
    HasStarted (trace ++ [event]) ↔ trace.HasStarted := by
  constructor
  · rintro ⟨t, g, hmem⟩
    refine ⟨t, g, ?_⟩
    simpa [Ne.symm (h t g)] using hmem
  · rintro ⟨t, g, hmem⟩
    exact ⟨t, g, List.mem_append_left _ hmem⟩

theorem HasReleased.append (h : trace.HasReleased fd) (events : Trace) :
    HasReleased fd (trace ++ events) := by
  obtain ⟨t, answer, hmem, hfinal⟩ := h
  exact ⟨t, answer, List.mem_append_left _ hmem, hfinal⟩

theorem hasReleased_append (trace : Trace)
    (h : ∀ t answer, event ≠ .answered t (.close fd) answer) :
    HasReleased fd (trace ++ [event]) ↔ trace.HasReleased fd := by
  refine ⟨?_, fun released => released.append [event]⟩
  rintro ⟨t, answer, hmem, hfinal⟩
  refine ⟨t, answer, ?_, hfinal⟩
  simpa [Ne.symm (h t answer)] using hmem

theorem wasInterrupted_append_other {thread : Thread}
    (h : event.thread ≠ thread) :
    WasInterrupted fd thread (trace ++ [event]) ↔
      trace.WasInterrupted fd thread := by
  rw [WasInterrupted, last?_append, if_neg h, WasInterrupted]

end Trace

section Steps

variable {fd : Fd} {trace : Trace} {c c' : Config} {channel' : Channel}
  {S : Thread → Standing} {thread : Thread} {s' : Standing} {event : Event}

theorem ClosedBy.frame (closedBy : ClosedBy trace c.channel S)
    (hthread : event.thread = thread)
    (hclose : c.channel.isOpen = true → Trace.firstClose? [event] = none)
    (hsettled : event = .acted thread (.release .state) →
      (S thread).owesShutDown = false)
    (hopen : channel'.isOpen = c.channel.isOpen)
    (hshutDown : s'.owesShutDown = true → (S thread).owesShutDown = true) :
    ClosedBy (trace ++ [event]) channel' (update S thread s') := by
  have hfirst := Trace.firstClose?_append trace [event]
  constructor
  · rw [hopen, closedBy.opened, hfirst]
    cases h : trace.firstClose? with
    | none => simp [hclose (closedBy.opened.mpr h)]
    | some first => simp
  · intro t ht
    have howes : (S t).owesShutDown = true := by
      by_cases hne : t = thread
      · subst hne
        exact hshutDown (by simpa using ht)
      · simpa [hne] using ht
    obtain ⟨rest, hrest, hmem⟩ := closedBy.closing t howes
    refine ⟨rest ++ [event], by rw [hfirst, hrest], ?_⟩
    have hevent : .acted t (.release .state) ≠ event := by
      rintro rfl
      obtain rfl : t = thread := hthread
      simp [hsettled rfl] at howes
    simpa [hmem] using hevent

theorem ClosedBy.close (closedBy : ClosedBy trace c.channel S)
    (hclosed : channel'.isOpen = false)
    (hnone : c.channel.isOpen = true → ∀ t, (S t).owesShutDown = false)
    (hfirst : s'.owesShutDown = c.channel.isOpen) :
    ClosedBy (trace ++ [.acted thread .closeOnce]) channel'
      (update S thread s') := by
  have happend := Trace.firstClose?_append trace [.acted thread .closeOnce]
  cases hopen : c.channel.isOpen with
  | true =>
      rw [closedBy.opened.mp hopen] at happend
      refine ⟨by simp [hclosed, happend, Trace.firstClose?], fun t ht => ?_⟩
      by_cases hne : t = thread
      · subst hne
        exact ⟨[], happend, by simp⟩
      · simp [hne, hnone hopen t] at ht
  | false =>
      refine closedBy.frame rfl ?_ nofun (hclosed.trans hopen.symm) ?_
      · simp [hopen]
      · simp [hfirst, hopen]

theorem ReleasedBy.frame (releasedBy : ReleasedBy fd trace c S)
    (hthread : event.thread = thread)
    (hcalled : ∀ t g, event ≠ .called t (.close g))
    (hanswered : ∀ t answer, event ≠ .answered t (.close fd) answer)
    (hkilled : c'.channel.fields.state = .killed ↔
      c.channel.fields.state = .killed)
    (hcalm : (S thread).owesRelease = false) (hcalm' : s'.owesRelease = false)
    (hothers : ∀ t, t ≠ thread → c'.activity t = c.activity t) :
    ReleasedBy fd (trace ++ [event]) c' (update S thread s') := by
  have hstarted := Trace.hasStarted_append trace hcalled
  constructor
  · rw [Ne, hkilled, hstarted]
    exact releasedBy.unstarted
  · intro h
    obtain ⟨t, ht⟩ | hreleased := releasedBy.released (hkilled.mp h)
    · refine .inl ⟨t, ?_⟩
      have hne : t ≠ thread := by
        rintro rfl
        simp [hcalm] at ht
      simpa [hne] using ht
    · exact .inr (hreleased.append [event])
  · intro t ht
    have hne : t ≠ thread := by
      rintro rfl
      simp [hcalm'] at ht
    rw [hothers t hne, hstarted,
      Trace.wasInterrupted_append_other (hthread ▸ Ne.symm hne)]
    exact releasedBy.releasing t (by simpa [hne] using ht)
  · rw [Trace.hasReleased_append trace hanswered, hkilled]
    intro released
    obtain ⟨killed, calm⟩ := releasedBy.final released
    refine ⟨killed, fun t => ?_⟩
    by_cases hne : t = thread
    · simp [hne, hcalm']
    · simp [hne, calm t]

theorem ReleasedBy.kill (releasedBy : ReleasedBy fd trace c S)
    (hcalled : ∀ t g, event ≠ .called t (.close g))
    (hanswered : ∀ t answer, event ≠ .answered t (.close fd) answer)
    (halive : c.channel.fields.state ≠ .killed)
    (hkilled : c'.channel.fields.state = .killed)
    (howes : s'.owesRelease = true) :
    ReleasedBy fd (trace ++ [event]) c' (update S thread s') := by
  have hstarted := Trace.hasStarted_append trace hcalled
  have hnot : ¬Trace.HasStarted (trace ++ [event]) :=
    mt hstarted.mp (releasedBy.unstarted halive)
  exact {
    unstarted := fun h => absurd hkilled h
    released := fun _ => .inl ⟨thread, by simpa using howes⟩
    releasing := fun _ _ => .inl hnot
    final := fun released => absurd (releasedBy.final
      ((Trace.hasReleased_append trace hanswered).mp released)).1 halive }

theorem ReleasedBy.call {operation : Channel.Operation}
    {next : (Call.close fd).Answer → Program Channel.Reply}
    (releasedBy : ReleasedBy fd trace c S)
    (howes : (S thread).owesRelease = true)
    (honly : ∀ t, (S t).owesRelease = true → t = thread)
    (hkilled : c.channel.fields.state = .killed) :
    ReleasedBy fd (trace ++ [.called thread (.close fd)])
      (c.set thread (.calling operation (.close fd) next)) S := by
  constructor
  · exact fun h => absurd hkilled h
  · exact fun _ => .inl ⟨thread, howes⟩
  · intro t ht
    obtain rfl := honly t ht
    exact .inr (.inr ⟨operation, next, by simp⟩)
  · rw [Trace.hasReleased_append trace (by simp)]
    intro released
    rw [(releasedBy.final released).2 thread] at howes
    cases howes

theorem ReleasedBy.answer {answer : (Call.close fd).Answer}
    (releasedBy : ReleasedBy fd trace c S)
    (howes : (S thread).owesRelease = true)
    (honly : ∀ t, (S t).owesRelease = true → t = thread)
    (hkilled : c'.channel.fields.state = .killed) :
    ReleasedBy fd (trace ++ [.answered thread (.close fd) answer]) c'
      (update S thread ((S thread).afterCall (.close fd) answer)) := by
  have hcase :
      (∃ error : OsError, answer = .error error ∧ error.isInterrupted = true ∧
        (S thread).afterCall (.close fd) answer = S thread) ∨
      ((∀ error, answer = .error error → error.isInterrupted = false) ∧
        ((S thread).afterCall (.close fd) answer).owesRelease = false) := by
    cases answer with
    | ok value => exact .inr ⟨nofun, rfl⟩
    | error error =>
        cases h : error.isInterrupted with
        | true => exact .inl ⟨error, rfl, h, by simp [Standing.afterCall, h]⟩
        | false =>
            refine .inr ⟨?_, by simp [Standing.afterCall, h]⟩
            rintro error' ⟨⟩
            exact h
  obtain ⟨error, rfl, hinterrupted, hsame⟩ | ⟨hfinal, hdone⟩ := hcase
  · rw [hsame, Function.update_eq_self]
    constructor
    · exact fun h => absurd hkilled h
    · exact fun _ => .inl ⟨thread, howes⟩
    · intro t ht
      obtain rfl := honly t ht
      refine .inr (.inl ⟨error, ?_, hinterrupted⟩)
      rw [Trace.last?_append]
      exact if_pos rfl
    · rintro ⟨t, answer, hmem, hfinal⟩
      obtain hmem | hmem := List.mem_append.mp hmem
      · rw [(releasedBy.final ⟨t, answer, hmem, hfinal⟩).2 thread] at howes
        cases howes
      · obtain ⟨rfl, rfl⟩ : t = thread ∧ answer = .error error := by
          simpa using hmem
        cases hinterrupted.symm.trans (hfinal error rfl)
  · constructor
    · exact fun h => absurd hkilled h
    · exact fun _ => .inr ⟨thread, answer, by simp, hfinal⟩
    · intro t ht
      by_cases hne : t = thread
      · subst hne
        simp [hdone] at ht
      · exact absurd (honly t (by simpa [hne] using ht)) hne
    · refine fun _ => ⟨hkilled, fun t => ?_⟩
      by_cases hne : t = thread
      · simp [hne, hdone]
      · by_contra howes'
        exact hne (honly t (by simpa [hne] using howes'))

end Steps

end LocalSocket
