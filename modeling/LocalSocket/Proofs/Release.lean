import LocalSocket.Proofs.Invariant
import LocalSocket.Proofs.Play

/-!
# The release of the descriptor

The descriptor of a channel is released once, after the last thread and the last
registration have let go of it, and it is released for sure if the channel is
closed or dropped.  From the first call that releases it on, nothing else is
done to it.
-/

namespace LocalSocket

/-- The thread is about to make the call. -/
def Config.AboutTo (c : Config) (thread : Thread) (call : Call) : Prop :=
  ∃ operation rest, c.activity thread = .running operation rest ∧
    rest.next? = some (.call call)

/-- All calls that release a descriptor are about `fd`, and each but the first
repeats one that the same thread has just seen interrupted. -/
def Trace.ReleasesOnce (fd : Fd) (trace : Trace) : Prop :=
  ∀ before after thread other,
    trace = before ++ .called thread (.close other) :: after →
    other = fd ∧ (¬Trace.HasStarted before ∨
      Trace.WasInterrupted fd thread before)

section Steps

variable {fd : Fd} {trace : Trace} {c c' : Config} {thread : Thread}
  {call : Call}

theorem Step.running (h : Step fd c [.called thread call] c') :
    ∃ operation next, c.activity thread =
      .running operation (.act (.call call) next) := by
  cases h with
  | call running => exact ⟨_, _, running⟩

theorem Step.calling {answer : call.Answer}
    (h : Step fd c [.answered thread call answer] c') :
    ∃ operation next, c.activity thread = .calling operation call next := by
  cases h with
  | answer _ calling => exact ⟨_, _, calling⟩

theorem Run.called_of_answered (run : Run fd trace c) {answer : call.Answer}
    (h : .answered thread call answer ∈ trace) :
    .called thread call ∈ trace := by
  obtain ⟨before, after, rfl⟩ := List.append_of_mem h
  obtain ⟨channel, fresh, hsteps⟩ := run
  obtain ⟨c₁, c₂, hbefore, hstep, _⟩ := hsteps.split
  obtain ⟨operation, next, calling⟩ := hstep.calling
  have hcalled := Run.called ⟨channel, fresh, hbefore⟩ calling
  exact List.mem_append_left _ hcalled

theorem Run.permits (run : Run fd trace c)
    (step : Step fd c [.called thread call] c') :
    ∃ S, Coherent fd trace c S ∧
      (∀ t, (discipline fd).Keeps t (S t) (c.activity t)) ∧
      (S thread).Permits fd call := by
  obtain ⟨S, coherent, keeps⟩ := run.coherent
  obtain ⟨operation, next, running⟩ := step.running
  have hkeeps := keeps thread
  rw [running] at hkeeps
  exact ⟨S, coherent, keeps, (hkeeps trivial).2.1⟩

end Steps

section Release

variable {fd : Fd} {trace : Trace} {c : Config} {S : Thread → Standing}

theorem Run.started_of_owes (run : Run fd trace c)
    (keeps : ∀ t, (discipline fd).Keeps t (S t) (c.activity t))
    {thread : Thread} (owes : (S thread).owesRelease = true) :
    trace.HasStarted ∨ ∃ thread, c.AboutTo thread (.close fd) := by
  have hkeeps := keeps thread
  cases h : c.activity thread with
  | idle =>
      rw [h] at hkeeps
      rw [show S thread = {} from hkeeps] at owes
      cases owes
  | running operation rest =>
      rw [h] at hkeeps
      have hmeets := hkeeps trivial
      cases hnext : rest.next? with
      | none =>
          obtain ⟨reply, rfl⟩ := hmeets.done_of_next?_eq_none hnext
          rw [show S thread = _ from hmeets] at owes
          cases owes
      | some action =>
          obtain rfl := (hmeets.next hnext).1 owes
          exact .inr ⟨thread, operation, rest, h, hnext⟩
  | calling operation call next =>
      rw [h] at hkeeps
      obtain rfl : call = .close fd := by simpa using (hkeeps trivial).1 owes
      exact .inl ⟨thread, fd, run.called h⟩

theorem Run.killed_iff (run : Run fd trace c) :
    c.channel.fields.state = .killed ↔
      trace.HasStarted ∨ ∃ thread, c.AboutTo thread (.close fd) := by
  obtain ⟨S, coherent, keeps⟩ := run.coherent
  constructor
  · intro hkilled
    obtain ⟨thread, owes⟩ | ⟨thread, answer, hmem, _⟩ :=
      coherent.releasedBy.released hkilled
    · exact run.started_of_owes keeps owes
    · exact .inl ⟨thread, fd, run.called_of_answered hmem⟩
  · rintro (hstarted | ⟨thread, operation, rest, running, hnext⟩)
    · by_contra h
      exact coherent.releasedBy.unstarted h hstarted
    · have hkeeps := keeps thread
      rw [running] at hkeeps
      have hact := (hkeeps trivial).next hnext
      exact (coherent.phased.releaser thread hact.2.1.2).1

theorem Run.releasesOnce (run : Run fd trace c) : trace.ReleasesOnce fd := by
  rintro before after thread other rfl
  obtain ⟨channel, fresh, hsteps⟩ := run
  obtain ⟨c₁, c₂, hbefore, hstep, _⟩ := hsteps.split
  obtain ⟨S, coherent, _, permits⟩ :=
    Run.permits ⟨channel, fresh, hbefore⟩ hstep
  obtain ⟨rfl, owes⟩ := permits
  obtain ⟨operation, next, running⟩ := hstep.running
  refine ⟨rfl, ?_⟩
  obtain hnot | hlast | ⟨operation', next', calling⟩ :=
    coherent.releasedBy.releasing thread owes
  · exact .inl hnot
  · exact .inr hlast
  · rw [running] at calling
    cases calling

theorem Coherent.released (coherent : Coherent fd trace c S)
    (free : c.channel.locks.state = none)
    (killed : c.channel.fields.state = .killed) :
    trace.HasReleased fd := by
  obtain ⟨thread, owes⟩ | hreleased := coherent.releasedBy.released killed
  · have hlock := (coherent.phased.releaser thread owes).2
    rw [free] at hlock
    cases hlock
  · exact hreleased

theorem Coherent.not_live (coherent : Coherent fd trace c S)
    (shutDown : trace.HasShutDown) :
    c.channel.fields.state.isLive = false := by
  obtain ⟨thread, rest, hfirst, hmem⟩ := shutDown
  cases hlive : c.channel.fields.state.isLive with
  | false => rfl
  | true =>
      have hclosed : c.channel.isOpen = false := by
        cases hopen : c.channel.isOpen with
        | false => rfl
        | true => simp [coherent.closedBy.opened.mp hopen] at hfirst
      obtain ⟨t, owes⟩ := coherent.phased.closing hclosed hlive
      obtain ⟨rest', hfirst', hnot⟩ := coherent.closedBy.closing t owes
      rw [hfirst] at hfirst'
      cases hfirst'
      exact absurd hmem hnot

theorem Coherent.killed_of_unused (coherent : Coherent fd trace c S)
    (free : c.channel.locks.state = none)
    (ended : c.channel.fields.state.isLive = false)
    (unused : c.channel.fields.isUsed = false) :
    c.channel.fields.state = .killed := by
  have hinit := coherent.phased.initialized
  have hsettled := coherent.phased.settled free
  cases h : c.channel.fields.state with
  | killed => rfl
  | killPending =>
      rw [hsettled h] at unused
      cases unused
  | uninitialized => exact absurd h hinit
  | _ => simp [h, Lifecycle.isLive] at ended

theorem Coherent.at_rest (coherent : Coherent fd trace c S)
    (rest : ∀ t, S t = {}) :
    c.channel.locks.state = none ∧ c.channel.fields.threads = [] ∧
      c.channel.fields.registrations = c.guards := by
  refine ⟨?_, ?_, ?_⟩
  · cases h : c.channel.locks.state with
    | none => rfl
    | some t =>
        have hfields := coherent.locked.state t
        simp [rest t, h] at hfields
  · have hslot : ∀ direction, c.channel.fields.slot direction = none := by
      intro direction
      cases h : c.channel.fields.slot direction with
      | none => rfl
      | some t =>
          have hin := (coherent.recorded.slot t direction).mpr h
          simp [rest t] at hin
    have hreader : c.channel.fields.reader = none := hslot .input
    have hwriter : c.channel.fields.writer = none := hslot .output
    simp [Fields.threads, hreader, hwriter]
  · obtain ⟨hands, hhands, hcount⟩ := coherent.counted
    have hempty : hands = ∅ := by
      ext t
      simp [hhands, rest t]
    simpa [hempty] using hcount

theorem Coherent.killed_of_dropped (coherent : Coherent fd trace c S)
    (rest : ∀ t, S t = {}) (dropped : c.isDropped = true) :
    c.channel.fields.state = .killed := by
  obtain ⟨free, unused, hcount⟩ := coherent.at_rest rest
  have retired := coherent.retired dropped
  have hclosed : c.channel.isOpen = false := by
    cases hopen : c.channel.isOpen with
    | false => rfl
    | true =>
        obtain ⟨t, owes⟩ := retired.bound hopen
        simp [rest t] at owes
  have hended : c.channel.fields.state.isLive = false := by
    cases hlive : c.channel.fields.state.isLive with
    | false => rfl
    | true =>
        obtain ⟨t, owes⟩ := coherent.phased.closing hclosed hlive
        simp [rest t] at owes
  refine coherent.killed_of_unused free hended ?_
  simp [Fields.isUsed, unused, hcount, retired.unguarded]

end Release

/-- In every run: the channel has its descriptor until it is recorded as
released, which is when its release is started; while the release is left to the
last user, there is one, whenever the state lock is free; the descriptor is
released once, as soon as nobody uses it after the first close, and at the
latest when the channel has been dropped. -/
theorem descriptor_released_once {fd : Fd} {trace : Trace} {c : Config}
    (run : Run fd trace c) :
    (c.channel.fields.holder = some fd ↔ c.channel.fields.state ≠ .killed) ∧
      (c.channel.fields.state = .killed ↔
        trace.HasStarted ∨ ∃ thread, c.AboutTo thread (.close fd)) ∧
      (c.channel.fields.state = .killPending → c.channel.locks.state = none →
        c.channel.fields.isUsed = true) ∧
      trace.ReleasesOnce fd ∧
      (trace.HasShutDown → c.channel.locks.state = none →
        c.channel.fields.isUsed = false →
        trace.HasReleased fd) ∧
      (c.isDropped = true → (∀ thread, c.activity thread = .idle) →
        trace.HasReleased fd) := by
  obtain ⟨S, coherent, keeps⟩ := run.coherent
  refine ⟨?_, run.killed_iff, ?_, run.releasesOnce, ?_, ?_⟩
  · rw [coherent.phased.holder]
    by_cases h : c.channel.fields.state = .killed
    · simp [h]
    · simp [h]
  · exact fun pending free => coherent.phased.settled free pending
  · intro shutDown free unused
    exact coherent.released free
      (coherent.killed_of_unused free (coherent.not_live shutDown) unused)
  · intro dropped idle
    have rest : ∀ t, S t = {} := by
      intro t
      have hkeeps := keeps t
      rwa [idle t] at hkeeps
    exact coherent.released (coherent.at_rest rest).1
      (coherent.killed_of_dropped rest dropped)

/-- A thread is inside a read when another one closes the channel; it releases
the descriptor on leaving, and is interrupted at that. -/
def untilInterrupted : List Move :=
  [[.begin 1 (.read ⟨[0, 0], 0⟩)], Move.steps 1 10, [.begin 2 .close],
    Move.steps 2 5,
    [.answer 2 fun _ => .error (.code Errno.interrupted)], Move.steps 2 3,
    [.answer 1 fun _ => .error (.code Errno.again)], Move.steps 1 7,
    [.answer 1 fun _ => .error (.code Errno.interrupted)],
    Move.steps 1 1].flatten

/-- The second attempt succeeds as far as the thread can know, and both threads
finish. -/
def untilReleased : List Move :=
  untilInterrupted ++
    [Move.steps 1 1, [.answer 1 fun _ => .error (.code Errno.again)],
      Move.steps 1 4, Move.steps 2 5].flatten

theorem untilReleased_isSome :
    ((Config.start (.owning 3 .connected true)).play 3 untilReleased).isSome =
    true := by
  decide +kernel

def lateRelease : Trace × Config :=
  ((Config.start (.owning 3 .connected true)).play 3 untilReleased).get
    untilReleased_isSome

theorem run_lateRelease : Run 3 lateRelease.1 lateRelease.2 :=
  ⟨_, .wrapped true none, Config.steps_of_play
    (Option.some_get untilReleased_isSome).symm⟩

theorem descriptor_released_after_reader : Run 3 lateRelease.1 lateRelease.2 ∧
    lateRelease.1.HasShutDown ∧ lateRelease.2.channel.fields.isUsed = false ∧
      lateRelease.1.HasReleased 3 := by
  have shutDown : lateRelease.1.HasShutDown :=
    ⟨2, _, rfl, List.mem_of_getElem? (i := 7) rfl⟩
  have hreleased :=
    (descriptor_released_once run_lateRelease).2.2.2.2.1 shutDown rfl rfl
  exact ⟨run_lateRelease, shutDown, rfl, hreleased⟩

theorem Coherent.permits_used {fd : Fd} {trace : Trace} {c : Config}
    {S : Thread → Standing} (coherent : Coherent fd trace c S) {thread : Thread}
    {call : Call} (permits : (S thread).Permits fd call)
    (hfd : call.fd? = some fd) :
    (call = .close fd ∧ (S thread).owesRelease = true) ∨
      c.channel.fields.isUsed = true ∨ c.channel.fields.state ≠ .killed := by
  unfold Standing.Permits at permits
  split at permits
  · obtain ⟨_, _, inside⟩ := permits
    obtain ⟨direction, hslot⟩ := Option.ne_none_iff_exists'.mp inside
    have hrecorded := (coherent.recorded.slot thread direction).mp hslot
    refine .inr (.inl ?_)
    cases direction <;> simp_all [Fields.slot, Fields.isUsed, Fields.threads]
  · split at permits
    · obtain ⟨rfl, owes⟩ := permits
      exact .inl ⟨rfl, owes⟩
    · cases hfd
    · obtain ⟨_, fields, hfields, live⟩ := permits
      obtain ⟨_, rfl⟩ := coherent.locked.fields_eq hfields
      refine .inr (.inr fun h => ?_)
      simp [h, Lifecycle.isLive] at live

theorem Standing.Permits.fd_of_blocking {fd : Fd} {s : Standing} {call : Call}
    (permits : s.Permits fd call) (blocking : call.isBlocking = true) :
    call.fd? = some fd := by
  unfold Standing.Permits at permits
  rw [if_pos blocking] at permits
  exact permits.1

/-- In every run: when a call that releases the descriptor is made, no thread is
inside a call on the descriptor or inside any in which it may be blocked, and no
registration is handed out; and once such a call has been made, no other is made
on the descriptor, but for the same one by a thread whose last attempt has been
interrupted. -/
theorem descriptor_untouched_once_released {fd : Fd} {trace : Trace}
    {c c' : Config} {thread : Thread} {call : Call} (run : Run fd trace c)
    (step : Step fd c [.called thread call] c') :
    (call = .close fd → c.guards = 0 ∧ ∀ other operation inner next,
      c.activity other = .calling operation inner next →
        inner.isBlocking = false ∧ inner.fd? ≠ some fd) ∧
      (trace.HasStarted → call.fd? = some fd →
        call = .close fd ∧ trace.WasInterrupted fd thread) := by
  obtain ⟨S, coherent, keeps, permits⟩ := run.permits step
  obtain ⟨_, _, running⟩ := step.running
  constructor
  · rintro rfl
    have owes := permits.2
    obtain ⟨killed, hlock⟩ := coherent.phased.releaser thread owes
    have unused := coherent.phased.unused killed
    refine ⟨?_, fun other operation inner next calling => ?_⟩
    · obtain ⟨hands, _, hcount⟩ := coherent.counted
      have hzero : c.channel.fields.registrations = 0 := by
        simp only [Fields.isUsed, Bool.or_eq_false_iff,
          bne_eq_false_iff_eq] at unused
        exact unused.2
      omega
    · have hkeeps := keeps other
      rw [calling] at hkeeps
      have hpermits : (S other).Permits fd inner := (hkeeps trivial).2.1
      have hnot : inner.fd? ≠ some fd := by
        intro hfd
        obtain ⟨_, owes'⟩ | hused | halive := coherent.permits_used hpermits hfd
        · obtain rfl := coherent.owesRelease_eq owes other owes'
          rw [running] at calling
          cases calling
        · rw [unused] at hused
          cases hused
        · exact halive killed
      refine ⟨?_, hnot⟩
      cases hblocking : inner.isBlocking with
      | false => rfl
      | true => exact absurd (hpermits.fd_of_blocking hblocking) hnot
  · intro started hfd
    have killed : c.channel.fields.state = .killed := by
      by_contra h
      exact coherent.releasedBy.unstarted h started
    obtain ⟨rfl, owes⟩ | hused | halive := coherent.permits_used permits hfd
    · refine ⟨rfl, ?_⟩
      obtain hnot | hlast | ⟨_, _, calling⟩ :=
        coherent.releasedBy.releasing thread owes
      · exact absurd started hnot
      · exact hlast
      · rw [running] at calling
        cases calling
    · rw [coherent.phased.unused killed] at hused
      cases hused
    · exact absurd killed halive

theorem untilInterrupted_isSome :
    ((Config.start (.owning 3 .connected true)).play 3
      untilInterrupted).isSome = true := by
  decide +kernel

def interruptedRelease : Trace × Config :=
  ((Config.start (.owning 3 .connected true)).play 3 untilInterrupted).get
    untilInterrupted_isSome

theorem run_interruptedRelease :
    Run 3 interruptedRelease.1 interruptedRelease.2 :=
  ⟨_, .wrapped true none, Config.steps_of_play
    (Option.some_get untilInterrupted_isSome).symm⟩

theorem descriptor_untouched_after_interruption :
    ∃ c, Run 3 interruptedRelease.1 interruptedRelease.2 ∧
    Step 3 interruptedRelease.2 [.called 1 (.close 3)] c ∧
      interruptedRelease.1.HasStarted ∧
      interruptedRelease.2.guards = 0 ∧
        interruptedRelease.1.WasInterrupted 3 1 := by
  have started : interruptedRelease.1.HasStarted :=
    ⟨1, 3, List.mem_of_getElem? (i := 26) rfl⟩
  have step : Step 3 interruptedRelease.2 [.called 1 (.close 3)] _ :=
    Config.step_of_move (m := .step 1) rfl
  have untouched :=
    descriptor_untouched_once_released run_interruptedRelease step
  exact ⟨_, run_interruptedRelease, step, started, (untouched.1 rfl).1,
    (untouched.2 started rfl).2⟩

end LocalSocket
