import LocalSocket.Proofs.Alike.Operations
import LocalSocket.Proofs.HalfClose.Meanwhile

/-!
# The directions of a channel

The two directions of a connected channel are shut down once each, and apart
from each other.
-/

namespace LocalSocket

/-- In every run, for each direction:
the flag that tells that the direction is open is never set again, and cleared
only by the operation to shut it down, right after its call has succeeded, or by
the thread that closes the channel;
no more than one call shuts the direction down, one that has failed has left it
open, and an operation to shut it down makes the call unless it finds that done;
after a thread has been told that the direction is shut down, no operation that
begins makes a call in it, and transfers in it end so, with their windows
untouched, unless they find the channel closed;
a transfer inside its call when the direction is shut down ends so, too, if its
calls have moved nothing and the channel stays open;
and whether the direction is open makes no difference to what operations do and
how they end that do not heed it, as those of the other direction. -/
theorem directions_shut_once {fd : Fd} {trace : Trace} {c : Config}
    (run : Run fd trace c) (direction : Direction) :
    (∀ events c', Step fd c events c' →
      (c.channel.fields.isDirectionOpen direction = false →
        c'.channel.fields.isDirectionOpen direction = false) ∧
      (c.channel.fields.isDirectionOpen direction = true →
        c'.channel.fields.isDirectionOpen direction = false →
        ∃ thread, events = [.acted thread (.put c'.channel.fields)] ∧
          ((c.activity thread).operation? = some (.shutdown direction) ∧
              trace.last? thread = some (.answered thread
                (.shutdown fd (Channel.Direction.how direction)) (.ok ())) ∧
              c'.channel.fields =
                c.channel.fields.withDirection direction false ∨
            ∃ rest, trace.firstClose? = some (thread, rest)))) ∧
    trace.countP (Event.shuts direction) ≤ 1 ∧
    (∀ thread error c', Step fd c [.answered thread
        (.shutdown fd (Channel.Direction.how direction)) (.error error)] c' →
      c'.channel.fields.isDirectionOpen direction = true) ∧
    (∀ thread during c',
      Episode fd thread (.shutdown direction) c during .finished c' →
      Steps.Sees fd thread c (.began thread (.shutdown direction) :: during ++
          [.ended thread (.shutdown direction) .finished]) c' .fields
          (fun channel =>
            channel.fields.isDirectionOpen direction = false) ∨
        .answered thread (.shutdown fd (Channel.Direction.how direction))
          (.ok ()) ∈ during) ∧
    (∀ teller, .ended teller (.shutdown direction) .finished ∈ trace →
      (∀ thread operation during c',
        Underway fd thread operation c during c' →
        ∀ call, .called thread call ∈ during →
          call.direction? ≠ some direction) ∧
      (∀ thread operation during reply c',
        Episode fd thread operation c during reply c' →
        operation.direction? = some direction →
          operation.unmoved direction.shutBefore = some reply ∨
            operation.unmoved (.error .closed) = some reply ∧
              Steps.Sees fd thread c (.began thread operation :: during ++
                [.ended thread operation reply]) c' .isOpen
                fun channel => channel.isOpen = false)) ∧
    (∀ thread operation call next,
      c.activity thread = .calling operation call next →
      call.direction? = some direction →
      c.channel.fields.isDirectionOpen direction = false →
      ∀ suffix c' operation' reply c'', Steps fd c suffix c' →
        suffix.IsWithin thread →
        Step fd c' [.ended thread operation' reply] c'' →
        c''.channel.isOpen = true →
        (Trace.inside thread (trace ++ suffix)).gain = none →
          reply.Tells direction.shutMeanwhile) ∧
    ∀ isOpen isOpen' suffix c',
      (∀ thread operation,
        (c.activity thread).operation? = some operation →
        operation.heeds direction = true →
          operation.direction? = some direction ∧
            (trace.inside thread).HasCalled thread direction) →
      Steps fd (c.withDirection direction isOpen) suffix c' →
      (∀ thread operation, .began thread operation ∈ suffix →
        operation.heeds direction = false) →
      ∃ suffix' d, Steps fd (c.withDirection direction isOpen') suffix' d ∧
        suffix.Alike direction suffix' := by
  refine ⟨fun events c' step => ⟨step.stays_shut run, ?_⟩,
    (run.recalls direction).once, fun thread error c' step =>
      step.open_of_failed run, fun thread during c' episode =>
      (episode.shut run).2, fun teller told => ?_, ?_,
    fun isOpen isOpen' suffix c' entered steps =>
      run.indifferent entered isOpen isOpen' steps⟩
  · rw [← Fields.shutDirection_eq]
    exact step.shut run
  · have isShut := run.isShut told
    exact ⟨fun thread operation during c' underway call =>
      underway.spares run isShut, fun thread operation during reply c'
      episode => episode.shutBefore run isShut⟩
  · intro thread operation call next calling hcall shut suffix c' operation'
      reply c'' steps within ended isOpen unmoved
    refine run.shutMeanwhile calling hcall shut steps within
      ended.done_of_ended ?_ unmoved
    by_contra closed
    rw [ended.closed ⟨_, run.steps steps⟩ (by simpa using closed)] at isOpen
    cases isOpen

/-- A thread is inside a read when another one shuts down the input. -/
def untilInputShut : List Move :=
  [[.begin 1 (.read ⟨[0, 0], 0⟩)], Move.steps 1 10,
    [.begin 2 (.shutdown .input)], Move.steps 2 4,
    [.answer 2 fun
      | .shutdown .. => .ok ()
      | _ => .error (.code Errno.again)],
    Move.steps 2 3].flatten

/-- The read fails, and the thread leaves. -/
def untilReaderLeft : List Move :=
  .answer 1 (fun _ => .error (.code Errno.connectionReset)) :: Move.steps 1 9

theorem untilInputShut_isSome :
    ((Config.start (.owning 3 .connected true)).play 3 untilInputShut).isSome =
    true := by
  decide +kernel

def inputShut : Trace × Config :=
  ((Config.start (.owning 3 .connected true)).play 3 untilInputShut).get
    untilInputShut_isSome

theorem run_inputShut : Run 3 inputShut.1 inputShut.2 :=
  ⟨_, .wrapped true none, Config.steps_get untilInputShut_isSome⟩

theorem untilReaderLeft_isSome :
    (inputShut.2.play 3 untilReaderLeft).isSome = true := by
  decide +kernel

def readerLeft : Trace × Config :=
  (inputShut.2.play 3 untilReaderLeft).get untilReaderLeft_isSome

theorem steps_readerLeft :
    Steps 3 inputShut.2 readerLeft.1 readerLeft.2 :=
  Config.steps_get untilReaderLeft_isSome

theorem reader_finds_input_shut : ∃ c reply,
    .ended 2 (.shutdown .input) .finished ∈ inputShut.1 ∧
      Step 3 readerLeft.2 [.ended 1 (.read ⟨[0, 0], 0⟩) reply] c ∧
      reply.Tells (.ok .endOfStream) := by
  have told : .ended 2 (.shutdown .input) .finished ∈ inputShut.1 :=
    List.mem_of_getLast? rfl
  have calling : inputShut.2.activity 1 =
      .calling (.read ⟨[0, 0], 0⟩) (.read 3 2) _ := rfl
  have step : Step 3 readerLeft.2 [.ended 1 (.read ⟨[0, 0], 0⟩) _] _ :=
    Config.step_of_move (m := .step 1) rfl
  obtain ⟨-, -, -, -, -, meanwhile, -⟩ :=
    directions_shut_once run_inputShut .input
  exact ⟨_, _, told, step, meanwhile 1 _ _ _ calling rfl (by decide +kernel) _ _
    _ _ _ steps_readerLeft (Trace.isWithin_of_all (by decide +kernel)) step
    (by decide +kernel) (by decide +kernel)⟩

end LocalSocket
