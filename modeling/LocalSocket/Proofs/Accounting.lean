import LocalSocket.Proofs.Carrying
import LocalSocket.Proofs.Play
import Mathlib.Data.List.DropRight

/-!
# Accounting for bytes

Callers write until all is written, or read until a buffer is full: every call
goes on with the windows that the one before has left.  The bytes that the
system has accepted or delivered with the calls of such a sequence, one after
the other, are those that stand between where the windows were at its start and
where they are at its end.

Other threads use the channel meanwhile, and may shut it down or close it.
-/

namespace LocalSocket

open Function (update update_self)

def Event.carried (direction : Direction) : Event → Bytes
  | answered _ call answer => call.carried direction answer
  | _ => []

/-- Whether an operation begins or ends. -/
def Event.isBoundary : Event → Bool
  | began .. | ended .. => true
  | _ => false

namespace Trace

def carried (trace : Trace) : Cargo :=
  fun direction => trace.flatMap (Event.carried direction)

def IsFaithful (trace : Trace) : Prop :=
  ∀ thread call answer, .answered thread call answer ∈ trace →
    call.isFaithful answer = true

def IsWithin (thread : Thread) (trace : Trace) : Prop :=
  ∀ event ∈ trace.own thread, event.isBoundary = false

theorem isWithin_of_all {thread : Thread} {trace : Trace}
    (h : (trace.own thread).all (fun event => !event.isBoundary) = true) :
    trace.IsWithin thread := by
  intro event hmem
  simpa using List.all_eq_true.mp h event hmem

/-- What a thread has done, and was told, since it has begun its operation. -/
def inside (thread : Thread) (trace : Trace) : Trace :=
  (trace.own thread).rtakeWhile fun event => !event.isBoundary

/-- Calls one after the other, each of them with windows as the one before has
left them, and what they have carried altogether.  A call may leave out
exhausted windows in front, and any at the end. -/
inductive Hands (direction : Direction) :
    Trace → List Window → Bytes → List Window → Prop where
  | nothing {trace : Trace} {windows : List Window} :
      Hands direction trace windows [] windows
  | call {before during after : Trace} {thread : Thread}
      {operation : Channel.Operation}
      {reply : Channel.Reply} {full windows rest onward : List Window}
      {moved : Bytes}
      (within : during.IsWithin thread)
      (exhausted : ∀ window ∈ full, window.isExhausted = true)
      (offers : operation.Offers direction windows)
      (hands : Hands direction after
        (full ++ reply.windows windows ++ rest) moved onward) :
      Hands direction
        (before ++ .began thread operation :: during ++
          .ended thread operation reply :: after)
        (full ++ windows ++ rest)
        ((during.own thread).carried direction ++ moved) onward

variable {thread : Thread} {trace : Trace} {event : Event}

theorem inside_other (h : event.thread ≠ thread) :
    inside thread (trace ++ [event]) = trace.inside thread := by
  rw [inside, own_append_other trace h, inside]

theorem inside_boundary (h : event.thread = thread)
    (hboundary : event.isBoundary = true) :
    inside thread (trace ++ [event]) = [] := by
  rw [inside, own_append_same trace h]
  exact List.rtakeWhile_concat_neg _ _ _ (by simp [hboundary])

theorem inside_same (h : event.thread = thread)
    (hboundary : event.isBoundary = false) :
    inside thread (trace ++ [event]) = trace.inside thread ++ [event] := by
  rw [inside, own_append_same trace h]
  exact List.rtakeWhile_concat_pos _ _ _ (by simp [hboundary])

theorem inside_of_isWithin {operation : Channel.Operation}
    {before during : Trace} (h : during.IsWithin thread) :
    inside thread (before ++ .began thread operation :: during) =
      during.own thread := by
  induction during using List.reverseRecOn with
  | nil => exact inside_boundary rfl rfl
  | append_singleton during event ih =>
      have hduring : Trace.IsWithin thread during := by
        intro event' hmem
        apply h
        rw [own_append]
        exact List.mem_append_left _ hmem
      have hassoc : before ++ .began thread operation :: (during ++ [event]) =
          (before ++ .began thread operation :: during) ++ [event] := by simp
      rw [hassoc]
      by_cases ht : event.thread = thread
      · have hboundary : event.isBoundary = false := by
          apply h
          rw [own_append_same during ht]
          simp
        rw [inside_same ht hboundary, ih hduring, own_append_same during ht]
      · rw [inside_other ht, ih hduring, own_append_other during ht]

end Trace

/-! ## Standings are what the trace says -/

def Accounts (trace : Trace) (S : Thread → Cargo) : Prop :=
  ∀ thread, S thread = (trace.inside thread).carried

section Accounts

variable {trace : Trace} {S : Thread → Cargo}

theorem Accounts.boundary (h : Accounts trace S) (event : Event)
    (hboundary : event.isBoundary = true) :
    Accounts (trace ++ [event]) (update S event.thread .empty) := by
  intro thread
  by_cases ht : event.thread = thread
  · subst ht
    rw [update_self, Trace.inside_boundary rfl hboundary]
    rfl
  · rw [Function.update_of_ne (Ne.symm ht), Trace.inside_other ht, h thread]

theorem Accounts.inside (h : Accounts trace S) (event : Event)
    (hboundary : event.isBoundary = false) :
    Accounts (trace ++ [event])
      (update S event.thread fun direction => S event.thread direction ++
        event.carried direction) := by
  intro thread
  by_cases ht : event.thread = thread
  · subst ht
    funext direction
    rw [update_self, Trace.inside_same rfl hboundary, h event.thread]
    simp [Trace.carried]
  · rw [Function.update_of_ne (Ne.symm ht), Trace.inside_other ht, h thread]

theorem Accounts.act {thread : Thread} {action : Action}
    (h : Accounts trace S) :
    Accounts (trace ++ [.acted thread action])
      (update S thread (S thread)) := by
  have hinside := h.inside (.acted thread action) rfl
  simpa [Event.carried] using hinside

end Accounts

theorem accounts_preserved (fd : Fd) :
    carrying.Preserves fd fun trace _ S => Accounts trace S where
  begin := by
    intro trace c S thread operation accounts _ _ _ _ _
    exact accounts.boundary (.began thread operation) rfl
  drop := by
    intro trace c S thread accounts _ _ _ _ _
    exact accounts.boundary (.began thread .close) rfl
  act := by
    intro trace c S thread operation action channel result next k accounts _ _
      answered hact
    cases action with
    | call request => cases answered
    | _ =>
        exact ⟨S thread, fun hcovers => hact hcovers result rfl, accounts.act⟩
  pause := by
    intro trace c S thread operation next k accounts _ _ hact
    exact ⟨S thread, fun hcovers => hact hcovers () rfl, accounts.act⟩
  unroll := fun accounts _ _ => accounts
  call := by
    intro trace c S thread operation call next k accounts _ _ _
    have hsame := accounts.inside (.called thread call) rfl
    simpa [Event.carried] using hsame
  answer := by
    intro trace c S thread operation call next k answer accounts _ _
      faithful hact
    exact ⟨_, fun hcovers => hact hcovers answer faithful,
      accounts.inside (.answered thread call answer) rfl⟩
  finish := by
    intro trace c S thread operation reply accounts _ _ _
    exact accounts.boundary (.ended thread operation reply) rfl

/-! ## Runs -/

/-- A call with windows, by what it has carried. -/
structure Accounted (direction : Direction) (windows : List Window)
    (reply : Channel.Reply) (own : Trace) : Prop where
  told : ∀ count, 0 < count →
    (reply.transferred? = some count ↔ (own.carried direction).length = count)
  unmoved : (∀ count, 0 < count → reply.transferred? ≠ some count) →
    own.carried direction = [] ∧ reply.windows windows = windows
  crossed : Window.crossedAll windows (reply.windows windows) =
    own.carried direction
  oneWay : ∀ other, other ≠ direction → own.carried other = []

section Runs

variable {fd : Fd} {trace before during after : Trace} {c : Config}
  {thread : Thread} {operation : Channel.Operation} {reply : Channel.Reply}
  {direction : Direction} {windows onward : List Window} {moved : Bytes}

theorem Run.delivers
    (run : Run fd (before ++ .began thread operation :: during ++
      .ended thread operation reply :: after) c)
    (faithful : Trace.IsFaithful
      (before ++ .began thread operation :: during ++
        .ended thread operation reply :: after))
    (within : during.IsWithin thread)
    (offers : operation.Offers direction windows)
    (sound : ∀ window ∈ windows, window.IsSound) :
    (during.own thread).carried =
    Cargo.only direction ((during.own thread).carried direction) ∧
      Conveyed direction windows (reply.windows windows) reply.transferred?
        ((during.own thread).carried direction) := by
  obtain ⟨channel, fresh, hsteps⟩ := run
  obtain ⟨c₁, c₂, hbefore, hended, _⟩ := hsteps.split
  have run₁ : Run fd (before ++ .began thread operation :: during) c₁ :=
    ⟨channel, fresh, hbefore⟩
  obtain ⟨S, accounts, keeps⟩ :=
    Protocol.run (Carrying.obeyed fd) (accounts_preserved fd)
      (fun _ _ _ => rfl) run₁ fun t call answer hmem =>
        faithful t call answer (List.mem_append_left _ hmem)
  have hdone := keeps thread
  rw [hended.done_of_ended] at hdone
  have hdelivers :=
    hdone ⟨direction, windows, offers, sound⟩ direction windows offers sound
  rwa [accounts thread, Trace.inside_of_isWithin within] at hdelivers

theorem Run.accounted
    (run : Run fd (before ++ .began thread operation :: during ++
      .ended thread operation reply :: after) c)
    (faithful : Trace.IsFaithful
      (before ++ .began thread operation :: during ++
        .ended thread operation reply :: after))
    (within : during.IsWithin thread)
    (offers : operation.Offers direction windows)
    (sound : ∀ window ∈ windows, window.IsSound) :
    Accounted direction windows reply (during.own thread) := by
  obtain ⟨honly, conveyed⟩ := run.delivers faithful within offers sound
  refine ⟨conveyed.told, fun hother => ?_, ?_, fun other hne => ?_⟩
  · have hnil : (during.own thread).carried direction = [] := by
      by_contra hmoved
      have hlength := List.length_pos_iff.mpr hmoved
      exact hother _ hlength ((conveyed.told _ hlength).mpr rfl)
    refine ⟨hnil, ?_⟩
    rw [conveyed.passes.passed, hnil, Window.passAll_nil sound]
  · rw [conveyed.passes.passed]
    exact Window.crossedAll_passAll sound conveyed.passes.fits
  · rw [honly]
    exact if_neg hne

theorem Run.passes (hands : after.Hands direction windows moved onward)
    (run : Run fd (before ++ after) c)
    (faithful : Trace.IsFaithful (before ++ after))
    (sound : ∀ window ∈ windows, window.IsSound) :
    Passes direction windows onward moved := by
  -- for the calls that follow, a call belongs to what was before
  induction hands generalizing before with
  | nothing => exact passes_nil sound
  | @call past during after thread operation reply full windows rest onward
      moved within exhausted offers _ ih =>
      have hlater : before ++ (past ++ .began thread operation :: during ++
          .ended thread operation reply :: after) =
          (before ++ past) ++ .began thread operation :: during ++
            .ended thread operation reply :: after := by simp
      rw [hlater] at run faithful
      have soundWindows : ∀ window ∈ windows, window.IsSound := by
        intro window hmem
        exact sound window (by simp [hmem])
      obtain ⟨-, conveyed⟩ := run.delivers faithful within offers soundWindows
      have hpasses := conveyed.passes.extend sound exhausted
      have hafter : (before ++ past) ++ .began thread operation :: during ++
          .ended thread operation reply :: after =
          (before ++ past ++ .began thread operation :: during ++
            [.ended thread operation reply]) ++ after := by simp
      rw [hafter] at run faithful
      have soundOnward :
          ∀ window ∈ full ++ reply.windows windows ++ rest, window.IsSound := by
        rw [hpasses.passed]
        exact Window.isSound_passAll sound _
      exact hpasses.trans sound (ih run faithful soundOnward)

end Runs

/-- A call that reads or writes, on windows or as a plain stream, tells that it
has moved bytes if and only if the system has delivered or accepted as many with
it; otherwise nothing was moved and the windows are as before.  Over any
sequence of such calls, each of which goes on where the one before has stopped,
the bytes delivered or accepted are those between where the windows were and
where they are, in order; nothing else in the windows changes, and what is sent
stands in them from the start.  It makes no difference what other threads do
with the channel meanwhile. -/
theorem transfers_accounted {fd : Fd} {trace : Trace} {c : Config}
    (run : Run fd trace c) (faithful : trace.IsFaithful) :
    (∀ {before during after : Trace} {thread : Thread}
        {operation : Channel.Operation} {reply : Channel.Reply}
        {direction : Direction} {windows : List Window},
      trace = before ++ .began thread operation :: during ++
        .ended thread operation reply :: after →
      during.IsWithin thread → operation.Offers direction windows →
      (∀ window ∈ windows, window.IsSound) →
        Accounted direction windows reply (during.own thread)) ∧
      ∀ {direction : Direction} {windows onward : List Window} {moved : Bytes},
        trace.Hands direction windows moved onward →
          (∀ window ∈ windows, window.IsSound) →
          Window.crossedAll windows onward = moved ∧
            List.Forall₂ Window.Follows onward windows ∧
            (direction = .output → onward.map Window.buffer =
              windows.map Window.buffer ∧
              moved <+: Window.remainingAll windows) := by
  constructor
  · intro before during after thread operation reply direction windows htrace
      within offers sound
    subst htrace
    exact run.accounted faithful within offers sound
  · intro direction windows onward moved hands sound
    have run' : Run fd ([] ++ trace) c := run
    obtain ⟨hfits, rfl, hsent⟩ := run'.passes hands faithful sound
    refine ⟨Window.crossedAll_passAll sound hfits,
      Window.passAll_follows sound moved,
      fun output => ⟨?_, hsent output⟩⟩
    exact Window.buffer_passAll (hsent output)

/-- A thread writes five bytes.  Two are accepted when the call has been
interrupted and repeated, and one more with a call on the plain stream, during
which another thread closes the channel. -/
def writing : List Move :=
  [[.begin 1 (.write ⟨[1, 2, 3, 4, 5], 0⟩)], Move.steps 1 10,
    [.answer 1 fun _ => .error (.code Errno.interrupted)], Move.steps 1 2,
    [.answer 1 fun
      | .write .. => .ok 2
      | _ => .error (.code Errno.again)],
    Move.steps 1 6, [.begin 1 (.send [3, 4])], Move.steps 1 10,
    [.begin 2 .close], Move.steps 2 5,
    [.answer 2 fun _ => .error (.code Errno.interrupted)], Move.steps 2 3,
    [.answer 1 fun
      | .write .. => .ok 1
      | _ => .error (.code Errno.again)],
    Move.steps 1 7, [.answer 1 fun _ => .error (.code Errno.again)],
    Move.steps 1 3].flatten

theorem writing_isSome :
    ((Config.start (.owning 3 .connected true)).play 3 writing).isSome =
    true := by
  decide +kernel

def written : Trace × Config :=
  ((Config.start (.owning 3 .connected true)).play 3 writing).get writing_isSome

theorem run_written : Run 3 written.1 written.2 :=
  ⟨_, .wrapped true none, Config.steps_of_play
    (Option.some_get writing_isSome).symm⟩

theorem isFaithful_written : written.1.IsFaithful := by
  intro thread call answer h
  have hall : (written.1.all fun
      | .answered _ call answer => call.isFaithful answer
      | _ => true) = true := by
    decide +kernel
  exact List.all_eq_true.mp hall _ h

theorem isWithin_written {start count : Nat}
    (h : (Trace.own 1 ((written.1.drop start).take count)).all
      (fun event => !event.isBoundary) = true) :
    Trace.IsWithin 1 ((written.1.drop start).take count) :=
  Trace.isWithin_of_all h

theorem hands_written : written.1.Hands .output [⟨[1, 2, 3, 4, 5], 0⟩] [1, 2, 3]
    [⟨[1, 2, 3, 4, 5], 3⟩] := by
  have last : Trace.Hands .output (written.1.drop 19) [⟨[1, 2, 3, 4, 5], 2⟩] [3]
      [⟨[1, 2, 3, 4, 5], 3⟩] :=
    @Trace.Hands.call .output [] ((written.1.drop 20).take 29) [] 1
      (.send [3, 4]) (.sent 1)
      [] [⟨[1, 2, 3, 4, 5], 2⟩] [] [⟨[1, 2, 3, 4, 5], 3⟩] []
      (isWithin_written (by decide +kernel))
      (fun _ h => by cases h) ⟨rfl, _, rfl, [5], rfl⟩ .nothing
  exact @Trace.Hands.call .output [] ((written.1.drop 1).take 17)
    (written.1.drop 19) 1 (.write ⟨[1, 2, 3, 4, 5], 0⟩)
    (.moved (.ok (.transferred 2)) ⟨[1, 2, 3, 4, 5], 2⟩)
    [] [⟨[1, 2, 3, 4, 5], 0⟩] [] [⟨[1, 2, 3, 4, 5], 3⟩] [3]
    (isWithin_written (by decide +kernel))
    (fun _ h => by cases h) ⟨rfl, rfl⟩ last

theorem written_accounted :
    Run 3 written.1 written.2 ∧ written.1.IsFaithful ∧
      written.1.Hands .output [⟨[1, 2, 3, 4, 5], 0⟩] [1, 2, 3]
        [⟨[1, 2, 3, 4, 5], 3⟩] ∧
      Window.crossedAll [⟨[1, 2, 3, 4, 5], 0⟩]
        [⟨[1, 2, 3, 4, 5], 3⟩] = [1, 2, 3] ∧
      Accounted .output [⟨[1, 2, 3, 4, 5], 2⟩] (.sent 1)
        (Trace.own 1 ((written.1.drop 20).take 29)) := by
  obtain ⟨calls, sequences⟩ :=
    transfers_accounted run_written isFaithful_written
  have sound : ∀ position : UInt64, position.toNat ≤ 5 →
      ∀ window ∈ [(⟨[1, 2, 3, 4, 5], position⟩ : Window)], window.IsSound := by
    intro position hposition
    have hfits : 5 < UInt64.size := by decide
    exact List.forall_mem_singleton.mpr ⟨hposition, hfits⟩
  have htrace : written.1 = written.1.take 19 ++ .began 1 (.send [3, 4]) ::
      (written.1.drop 20).take 29 ++ .ended 1 (.send [3, 4]) (.sent 1) :: [] :=
        rfl
  exact ⟨run_written, isFaithful_written, hands_written,
    (sequences hands_written (sound 0 (by decide))).1,
    calls htrace (isWithin_written (by decide +kernel)) ⟨rfl, _, rfl, [5], rfl⟩
      (sound 2 (by decide))⟩

end LocalSocket
