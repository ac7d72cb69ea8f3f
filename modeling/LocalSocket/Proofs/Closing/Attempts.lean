import LocalSocket.Proofs.Closing.Record
import LocalSocket.Proofs.Closing.Replies
import LocalSocket.Proofs.LockOrder.Waiting
import LocalSocket.Proofs.Release

/-!
# Attempts to close a channel

Of all the attempts to close a channel, the first one closes it, and the others
come too late to do anything.  The descriptor is released once, so that a
failure to release it is reported once at most, by the operation that it has
happened to.
-/

namespace LocalSocket

theorem Trace.split_unique {before before' after after' : Trace}
    {event event' : Event}
    (h : before ++ event :: after = before' ++ event' :: after')
    (fresh : event ∉ before') (fresh' : event' ∉ before) :
    before = before' ∧ event = event' ∧ after = after' := by
  obtain ⟨between, rfl, hrest⟩ | ⟨between, rfl, hrest⟩ :=
    List.append_eq_append_iff.mp h
  · cases between with
    | nil => simpa using hrest
    | cons first between =>
        obtain ⟨rfl, _⟩ := List.cons.inj hrest
        simp at fresh
  · cases between with
    | nil => simpa [eq_comm] using hrest
    | cons first between =>
        obtain ⟨rfl, _⟩ := List.cons.inj hrest
        simp at fresh'

/-- In the operation that the thread is in, it has made the release of the
descriptor, which has failed. -/
structure Trace.FailsToRelease (fd : Fd) (thread : Thread) (error : OsError)
    (trace earlier during : Trace) : Prop where
  made : trace =
    earlier ++ .answered thread (.close fd) (.error error) :: during
  within : during.IsWithin thread
  final : error.isInterrupted = false
  first : ¬earlier.HasReleased fd

/-- What is left to do for a thread that has come too late to close the channel.
A close is at its end, and succeeds.  Any other operation fails for the reason
for which it was to close the channel, once it has given up the locks that it
holds. -/
def Config.IsLate (c : Config) (thread : Thread) : Prop :=
  ∃ operation rest, c.activity thread = .running operation rest ∧
    ((operation ≠ .close ∧ ∃ lock, lock ≠ .state ∧
        rest.next? = some (.release lock) ∧
        c.channel.locks.holder lock = some thread) ∨
      ∃ reply, rest = .done reply ∧
        if operation = .close then reply = .finished
        else ∃ error, reply = .failed (.socket error))

section Attempts

variable {fd : Fd} {before after trace : Trace} {c c' c'' : Config}
  {thread user : Thread} {event : Event} {operation : Channel.Operation}
  {reply : Channel.Reply}

theorem Run.not_released_of_answered (run : Run fd trace c)
    {answer : (Call.close fd).Answer}
    (step : Step fd c [.answered thread (.close fd) answer] c') :
    ¬trace.HasReleased fd := by
  intro released
  obtain ⟨S, coherent, keeps⟩ := run.coherent
  obtain ⟨_, _, calling⟩ := step.calling
  have hkeeps := keeps thread
  rw [calling] at hkeeps
  have owes : (S thread).owesRelease = true := (hkeeps trivial).2.1.2
  cases owes.symm.trans ((coherent.releasedBy.final released).2 thread)

/-- Nobody attempts to release the descriptor again. -/
theorem Run.not_called_of_hasReleased (run : Run fd trace c)
    (released : trace.HasReleased fd) (steps : Steps fd c after c'')
    (user : Thread) (other : Fd) : .called user (.close other) ∉ after := by
  intro hmem
  obtain ⟨between, rest, rfl⟩ := List.append_of_mem hmem
  obtain ⟨c₁, c₂, hbetween, hcall, _⟩ := steps.split
  obtain ⟨S, coherent, _, permits⟩ := (run.steps hbetween).permits hcall
  have owes : (S user).owesRelease = true := permits.2
  have final := coherent.releasedBy.final (released.append between)
  cases owes.symm.trans (final.2 user)

theorem Run.told (run : Run fd before c) {other : Fd} {error : OsError}
    (step : Step fd c [.ended thread operation reply] c')
    (told : reply.error? = some (.close other error)) :
    other = fd ∧
      ((operation = .close ∧ before.IsClosing thread) ∨
        operation = .deregister) ∧
      ∃ earlier during,
        before.FailsToRelease fd thread error earlier during := by
  obtain ⟨S, conducted, keeps⟩ := run.conducted
  have hkeeps := keeps thread
  rw [step.done_of_ended] at hkeeps
  have tells := step.tells run told
  obtain ⟨_, _, reports⟩ := hkeeps trivial
  obtain ⟨failure, past⟩ := reports tells other error told
  have accords := conducted.accords thread
  obtain ⟨final, earlier, during, rfl, within⟩ :=
    accords.fails other error failure
  obtain ⟨channel, fresh, steps⟩ := run
  obtain ⟨c₁, c₂, hearlier, answered, _⟩ := steps.split
  have start : Run fd earlier c₁ := ⟨channel, fresh, hearlier⟩
  obtain ⟨S', coherent, keeps'⟩ := start.coherent
  obtain ⟨_, _, calling⟩ := answered.calling
  have hkeeps' := keeps' thread
  rw [calling] at hkeeps'
  obtain rfl : other = fd := (hkeeps' trivial).2.1.1
  refine ⟨rfl, ?_, earlier, during, ⟨rfl, within, final,
    start.not_released_of_answered answered⟩⟩
  exact tells.imp_left fun closes =>
    ⟨closes, accords.isClosing (by rw [past closes]; rfl)⟩

theorem Trace.FailsToRelease.released {earlier during : Trace} {error : OsError}
    (h : trace.FailsToRelease fd thread error earlier during) :
    trace.HasReleased fd := by
  obtain ⟨rfl, _, final, _⟩ := h
  refine ⟨thread, .error error, by simp, ?_⟩
  rintro _ ⟨⟩
  exact final

theorem Trace.FailsToRelease.last {earlier during : Trace} {error : OsError}
    (failed : before.FailsToRelease fd thread error earlier during)
    (run : Run fd (before ++ after) c) (user : Thread) (other : Fd) :
    .called user (.close other) ∉ during ++ after := by
  obtain ⟨rfl, _, final, _⟩ := failed
  obtain ⟨channel, fresh, steps⟩ := run
  rw [List.append_assoc, List.cons_append] at steps
  obtain ⟨c₁, c₂, hearlier, answered, hlater⟩ := steps.split
  have released : Trace.HasReleased fd
      (earlier ++ [.answered thread (.close fd) (.error error)]) := by
    refine ⟨thread, .error error, by simp, ?_⟩
    rintro _ ⟨⟩
    exact final
  exact Run.not_called_of_hasReleased
    ⟨channel, fresh, hearlier.tail answered⟩ released hlater user other

/-- An operation that reports the failure is the only one to do so. -/
theorem Run.told_once (run : Run fd before c) {other other' : Fd}
    {error error' : OsError} {operation' : Channel.Operation}
    {reply' : Channel.Reply}
    (step : Step fd c [.ended thread operation reply] c')
    (told : reply.error? = some (.close other error))
    (hmem : .ended user operation' reply' ∈ before) :
    reply'.error? ≠ some (.close other' error') := by
  intro told'
  obtain ⟨before', between, rfl⟩ := List.append_of_mem hmem
  obtain ⟨_, _, earlier, during, failed⟩ := run.told step told
  obtain ⟨channel, fresh, steps⟩ := run
  obtain ⟨c₁, c₂, hbefore', ended, _⟩ := steps.split
  obtain ⟨_, _, earlier', during', failed'⟩ :=
    Run.told ⟨channel, fresh, hbefore'⟩ ended told'
  -- both have made the one release of the descriptor
  have unreleased : ∀ {thread : Thread} {error : OsError} {trace : Trace},
      error.isInterrupted = false → ¬trace.HasReleased fd →
      .answered thread (.close fd) (.error error) ∉ trace := by
    intro thread error trace final first hmem
    refine first ⟨thread, .error error, hmem, ?_⟩
    rintro _ ⟨⟩
    exact final
  have hsplit := failed.made
  rw [failed'.made, List.append_assoc, List.cons_append] at hsplit
  obtain ⟨_, hevent, rfl⟩ := Trace.split_unique hsplit
    (unreleased failed'.final failed.first)
    (unreleased failed.final failed'.first)
  obtain rfl : user = thread := congrArg Event.thread hevent
  have inside := failed.within (.ended user operation' reply')
    (Trace.mem_own.mpr ⟨by simp, rfl⟩)
  cases inside

/-- Whatever comes after the first close has begun, its locked part is done
before its operation ends. -/
theorem Run.ended_of_firstClose (run : Run fd trace c)
    (hfirst : trace.firstClose? = some (thread, after)) :
    after.IsWithin thread ∨ c.channel.fields.state.isLive = false := by
  obtain ⟨S, conducted, _⟩ := run.conducted
  obtain ⟨S', coherent, _⟩ := run.coherent
  have accords := conducted.accords thread
  obtain shutting | shut := accords.shuts after hfirst
  · have first :=
      Stage.isFirst_of_isBusy (Stage.isBusy_of_isShutting shutting)
    exact .inl (accords.leads.since first hfirst).1
  · exact .inr (coherent.not_live ⟨thread, after, hfirst, shut⟩)

theorem Run.holder_of_release (run : Run fd trace c) {lock : Lock}
    {rest : Program Channel.Reply}
    (running : c.activity thread = .running operation rest)
    (hnext : rest.next? = some (.release lock)) :
    c.channel.locks.holder lock = some thread := by
  obtain ⟨S, held, keeps⟩ := run.held
  have hkeeps := keeps thread
  rw [running] at hkeeps
  exact (held.holder thread lock).mp ((hkeeps trivial).next hnext).1

/-- A thread that finds the channel closed by another attempt does nothing but
give up the locks it holds, and ends its operation without mentioning it. -/
theorem Run.comes_late
    (run : Run fd (before ++ .acted thread .closeOnce :: after) c)
    (late : before.firstClose? ≠ none) (within : after.IsWithin thread) :
    (∀ event ∈ after.own thread, ∃ lock, lock ≠ .state ∧
      event = .acted thread (.release lock)) ∧ c.IsLate thread := by
  obtain ⟨S, conducted, keeps⟩ := run.conducted
  have accords := conducted.accords thread
  obtain ⟨stage, quiet⟩ := accords.yields before after rfl within late
  refine ⟨quiet, ?_⟩
  have hkeeps := keeps thread
  have current := accords.current
  cases h : c.activity thread with
  | idle =>
      rw [h] at hkeeps
      rw [show S thread = _ from hkeeps] at stage
      cases stage
  | calling operation call next =>
      rw [h] at hkeeps
      obtain ⟨_, _, _, calls⟩ := (hkeeps trivial).1.of_late stage
      cases calls
  | running operation rest =>
      rw [h] at hkeeps current
      refine ⟨operation, rest, h, ?_⟩
      cases hnext : rest.next? with
      | none =>
          obtain ⟨reply, rfl⟩ :=
            (hkeeps trivial).done_of_next?_eq_none hnext
          refine .inr ⟨reply, rfl, ?_⟩
          obtain ⟨closes, fails⟩ := (hkeeps trivial).2.1 stage
          split
          · exact closes ‹_›
          · exact fails ‹_›
      | some action =>
          obtain ⟨other, lock, low, rfl⟩ :=
            ((hkeeps trivial).next hnext).1.of_late stage
          rw [current] at other
          exact .inl ⟨fun h => other (congrArg some h), lock, low, rfl,
            run.holder_of_release h hnext⟩

end Attempts

/-- In every run, the first attempt to close the channel finds it open, and no
other does.  The first one closes it for good, and has made the channel give up
its descriptor by the end of its operation, or left that to the users; the
others do nothing, and succeed.  If an operation reports that the descriptor
could not be released, it has made the release itself, by the first call for it
that was not interrupted, and is the first close or gives up the last
registration; nobody else reports it or tries again, and the descriptor counts
as released. -/
theorem channel_closed_once {fd : Fd} {before after : Trace} {c c' c'' : Config}
    {event : Event} (run : Run fd before c) (step : Step fd c [event] c')
    (steps : Steps fd c' after c'') :
    (∀ thread, event = .acted thread .closeOnce →
      (c.channel.isOpen = true ↔ before.firstClose? = none) ∧
      (c.channel.isOpen = true → c''.channel.isOpen = false ∧
        (after.IsWithin thread ∨ c''.channel.fields.state.isLive = false)) ∧
      (c.channel.isOpen = false → c'.channel = c.channel ∧
        (after.IsWithin thread →
          (∀ event ∈ after.own thread, ∃ lock, lock ≠ .state ∧
            event = .acted thread (.release lock)) ∧ c''.IsLate thread))) ∧
    ∀ thread operation reply other error,
      event = .ended thread operation reply →
      reply.error? = some (.close other error) →
      other = fd ∧
      ((operation = .close ∧ before.IsClosing thread) ∨
        operation = .deregister) ∧
      (∃ earlier during,
        before.FailsToRelease fd thread error earlier during ∧
        ∀ user fd', .called user (.close fd') ∉ during ++ after) ∧
      (c''.channel.fields.state = .killed ∧
        c''.channel.fields.isUsed = false) ∧
      ∀ user operation' reply' fd' error',
        .ended user operation' reply' ∈ before ++ after →
        reply'.error? ≠ some (.close fd' error') := by
  have runs := (run.step step).steps steps
  constructor
  · rintro thread rfl
    refine ⟨run.unopened, fun isOpen => ?_, fun closed => ?_⟩
    · have hfirst : Trace.firstClose?
          (before ++ [Event.acted thread .closeOnce] ++ after) =
          some (thread, after) := by
        rw [List.append_assoc, Trace.firstClose?_append,
          run.unopened.mp isOpen]
        rfl
      refine ⟨?_, runs.ended_of_firstClose hfirst⟩
      rw [← Bool.not_eq_true, runs.unopened, hfirst]
      exact nofun
    · have late : before.firstClose? ≠ none := by
        rw [Ne, ← run.unopened, closed]
        exact nofun
      refine ⟨?_, fun within => ?_⟩
      · cases step with
        | act running answered =>
            cases answered
            simp [← closed]
      · rw [List.append_assoc] at runs
        exact runs.comes_late late within
  · rintro thread operation reply other error rfl told
    obtain ⟨rfl, which, earlier, during, failed⟩ := run.told step told
    obtain ⟨S, coherent, _⟩ := runs.coherent
    have killed := (coherent.releasedBy.final
      ((failed.released.append _).append after)).1
    refine ⟨rfl, which, ⟨earlier, during, failed, fun user fd' hmem => ?_⟩,
      ⟨killed, coherent.phased.unused killed⟩, ?_⟩
    · rw [List.append_assoc] at runs
      refine failed.last runs user fd' ?_
      simp only [List.mem_append] at hmem ⊢
      exact hmem.imp_right .inr
    · intro user operation' reply' fd' error' hmem told'
      obtain hmem | hmem := List.mem_append.mp hmem
      · exact run.told_once step told hmem told'
      · obtain ⟨between, rest, rfl⟩ := List.append_of_mem hmem
        obtain ⟨c₁, c₂, hbetween, ended, _⟩ := steps.split
        have hmem' : .ended thread operation reply ∈
            before ++ [.ended thread operation reply] ++ between := by simp
        exact ((run.step step).steps hbetween).told_once ended told' hmem' told

/-- A thread closes the channel, and its call to release the descriptor
fails. -/
def untilFailed : List Move :=
  [[.begin 1 .close], Move.steps 1 8,
    [.answer 1 fun _ => .error (.code Errno.badDescriptor)],
    Move.steps 1 5].flatten

/-- It reports that, and another thread is about to close the channel, too. -/
def untilLate : List Move :=
  untilFailed ++ [.step 1, .begin 2 .close]

theorem untilFailed_isSome :
    ((Config.start (.owning 3 .connected true)).play 3 untilFailed).isSome =
    true := by
  decide +kernel

theorem untilLate_isSome :
    ((Config.start (.owning 3 .connected true)).play 3 untilLate).isSome =
    true := by
  decide +kernel

def failedClose : Trace × Config :=
  ((Config.start (.owning 3 .connected true)).play 3 untilFailed).get
    untilFailed_isSome

def lateClose : Trace × Config :=
  ((Config.start (.owning 3 .connected true)).play 3 untilLate).get
    untilLate_isSome

theorem run_failedClose : Run 3 failedClose.1 failedClose.2 :=
  ⟨_, .wrapped true none, Config.steps_of_play
    (Option.some_get untilFailed_isSome).symm⟩

theorem run_lateClose : Run 3 lateClose.1 lateClose.2 :=
  ⟨_, .wrapped true none, Config.steps_of_play
    (Option.some_get untilLate_isSome).symm⟩

theorem failed_close_reported_once :
    ∃ c c', Run 3 failedClose.1 failedClose.2 ∧
      Step 3 failedClose.2 [.ended 1 .close
        (.failed (.close 3 (.code Errno.badDescriptor)))] c ∧
      (∃ earlier during, failedClose.1.FailsToRelease 3 1
        (.code Errno.badDescriptor) earlier during) ∧
      c.channel.fields.state = .killed ∧
      Run 3 lateClose.1 lateClose.2 ∧
      Step 3 lateClose.2 [.acted 2 .closeOnce] c' ∧
      c'.channel = lateClose.2.channel ∧ c'.IsLate 2 := by
  have step : Step 3 failedClose.2 [.ended 1 .close
      (.failed (.close 3 (.code Errno.badDescriptor)))] _ :=
    Config.step_of_move (m := .step 1) rfl
  have late : Step 3 lateClose.2 [.acted 2 .closeOnce] _ :=
    Config.step_of_move (m := .step 2) rfl
  obtain ⟨_, _, ⟨earlier, during, failed, _⟩, ⟨killed, _⟩, _⟩ :=
    (channel_closed_once run_failedClose step .refl).2 1 .close _ 3 _ rfl rfl
  obtain ⟨unchanged, ends⟩ :=
    ((channel_closed_once run_lateClose late .refl).1 2 rfl).2.2 rfl
  have within : Trace.IsWithin 2 [] := fun _ hmem => by cases hmem
  exact ⟨_, _, run_failedClose, step, ⟨earlier, during, failed⟩, killed,
    run_lateClose, late, unchanged, (ends within).2⟩

end LocalSocket
