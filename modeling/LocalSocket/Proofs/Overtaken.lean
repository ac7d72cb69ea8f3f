import LocalSocket.Proofs.Aloof
import Mathlib.Tactic.SplitIfs

/-!
# Operations overtaken by a close

A thread is overtaken if the channel is closed while it is inside a call in
which it may be blocked.  The call may bring anything, or be interrupted and
repeated.  From there on, the thread finds the channel closed wherever it looks,
and it is on its way out: it only takes the state lock, makes no attempt to
connect or to wait, and is done after a bounded number of actions.
-/

namespace LocalSocket

/-! ## What calls bring -/

inductive Gain where
  /-- Bytes, at least one. -/
  | moved (count : Nat)
  /-- Events, at least one. -/
  | raised (events : Events)
  deriving DecidableEq

def Gain.ofCount (count : Nat) : Option Gain :=
  if count = 0 then none else some (.moved count)

def Call.gain? : (call : Call) → call.Answer → Option Gain
  | .read .., .ok data => Gain.ofCount data.length
  | .readMany .., .ok data => Gain.ofCount data.length
  | .write .., .ok count => Gain.ofCount count
  | .writeMany .., .ok count => Gain.ofCount count
  | .poll .., .ok events => if events = 0 then none else some (.raised events)
  | _, _ => none

def Call.isTransfer : Call → Bool
  | read .. | readMany .. | write .. | writeMany .. => true
  | _ => false

def Call.isInterrupted (call : Call) : call.Answer → Bool
  | .ok _ => false
  | .error error => error.isInterrupted

/-! ## The end of an operation -/

/-- The outcome of an overtaken transfer. -/
def Gain.outcome : Option Gain → Except ChannelError IoStatus
  | some (.moved count) => .ok (.transferred count)
  | _ => .error .asynchronousClose

/-- How an overtaken operation ends, by what its call has brought.  Other
operations cannot be overtaken. -/
def Channel.Operation.Ends : Operation → Option Gain → Reply → Prop
  | .connect _, _, reply => reply = .failed .asynchronousClose
  | .finishConnect, _, reply => reply = .failed .asynchronousClose
  | .poll .., some (.raised events), reply => reply = .polled (.ready events)
  | .poll .., _, reply => reply = .failed .asynchronousClose
  | .read _, gain, reply => ∃ window, reply = .moved (Gain.outcome gain) window
  | .write _, gain, reply => ∃ window, reply = .moved (Gain.outcome gain) window
  | .readMany _, gain, reply =>
      ∃ windows, reply = .movedMany (Gain.outcome gain) windows
  | .writeMany _, gain, reply =>
      ∃ windows, reply = .movedMany (Gain.outcome gain) windows
  | .receive _, some (.moved count), reply =>
      ∃ buffer, reply = .received count buffer
  | .receive _, _, reply =>
      reply = .broken ChannelError.asynchronousClose.toOsError
  | .send _, some (.moved count), reply => reply = .sent count
  | .send _, _, reply =>
      reply = .broken ChannelError.asynchronousClose.toOsError
  | _, _, _ => False

/-! ## The protocol -/

/-- Whether an overtaken thread may take the action at any time, and learns
nothing from it that it could rely on. -/
def Action.isPlain : Action → Bool
  | .own .. | .acquire _ | .isOpen | .call _ => false
  | _ => true

inductive Course where
  | undisturbed
  /-- The thread has been overtaken; `credit` says how many actions it may still
  take, calls that are interrupted apart. -/
  | overtaken (gain : Option Gain) (credit : Nat)
  deriving DecidableEq

namespace Course

def patience : Nat := 12

def after (call : Call) (answer : call.Answer) : Course :=
  .overtaken (call.gain? answer) (if call.isInterrupted answer then patience
                                  else patience - 1)

/-- Not overtaken, or with at least `n` actions left. -/
def CanSpare (n : Nat) : Course → Prop
  | undisturbed => True
  | overtaken _ credit => n ≤ credit

def Takes : Course → (action : Action) → (action.Result → Course → Prop) → Prop
  | _, .own .., _ => False
  | undisturbed, .call call, k => ∀ answer,
      k answer undisturbed ∧
        (call.isBlocking = true → k answer (.after call answer))
  | undisturbed, _, k => ∀ result, k result undisturbed
  | overtaken gain credit, .acquire lock, k =>
      0 < credit ∧ lock = .state ∧ k () (overtaken gain (credit - 1))
  | overtaken gain credit, .isOpen, k =>
      0 < credit ∧ k false (overtaken gain (credit - 1))
  | overtaken gain credit, .call call, k =>
      if call.isBlocking then
        call.isTransfer = true ∧ gain = none ∧ credit = patience ∧
          ∀ answer, k answer (.after call answer)
      else
        0 < credit ∧ ∀ answer,
          k answer (overtaken gain (if call.isInterrupted answer then credit
                                    else credit - 1))
  | overtaken gain credit, _, k =>
      0 < credit ∧ ∀ result, k result (overtaken gain (credit - 1))

def Closes (operation : Channel.Operation) (reply : Channel.Reply) :
    Course → Prop
  | undisturbed => True
  | overtaken gain _ => operation.Ends gain reply

end Course

theorem Course.Takes.mono {s : Course} {action : Action}
    {k k' : action.Result → Course → Prop}
    (himp : ∀ result s', k result s' → k' result s') (h : s.Takes action k) :
    s.Takes action k' := by
  cases s with
  | undisturbed =>
      cases action with
      | own => exact h
      | call call =>
          exact fun answer => ⟨himp _ _ (h answer).1,
            fun blocking => himp _ _ ((h answer).2 blocking)⟩
      | _ => exact fun result => himp _ _ (h result)
  | overtaken gain credit =>
      cases action with
      | own => exact h
      | acquire lock => exact ⟨h.1, h.2.1, himp _ _ h.2.2⟩
      | isOpen => exact ⟨h.1, himp _ _ h.2⟩
      | call call =>
          simp only [Course.Takes] at h ⊢
          split_ifs at h ⊢
          · exact ⟨h.1, h.2.1, h.2.2.1, fun answer => himp _ _ (h.2.2.2 answer)⟩
          · exact ⟨h.1, fun answer => himp _ _ (h.2 answer)⟩
      | _ => exact ⟨h.1, fun result => himp _ _ (h.2 result)⟩

def overtaking : Protocol Course where
  act _ s action k := s.Takes action k
  mono := Course.Takes.mono
  rest := .undisturbed
  opens := fun _ => .undisturbed
  closes operation reply s := s.Closes operation reply

namespace Overtaking

open Protocol Channel Course

variable {thread : Thread} {gain : Option Gain} {credit : Nat}

@[simp] theorem overtaking_act {s : Course} {action : Action}
    {k : action.Result → Course → Prop} :
    overtaking.act thread s action k ↔ s.Takes action k := Iff.rfl

theorem meets_undisturbed {α : Type} {program : Program α}
    {post : α → Course → Prop}
    (h : aloof.Meets 0 program (fun value _ => post value .undisturbed) ()) :
    overtaking.Meets thread program post .undisturbed := by
  refine Meets.of_aloof (fun {action k} haloof hk => ?_) h
  cases action with
  | own => cases haloof
  | call call =>
      refine fun answer => ⟨hk answer, fun blocking => ?_⟩
      simp [Action.isAloof, blocking] at haloof
  | _ => exact hk

theorem undisturbed_of_isAloof {α : Type} {program : Program α}
    {post : α → Course → Prop} (h : program.IsAloof)
    (hpost : ∀ value, post value .undisturbed) :
    overtaking.Meets thread program post .undisturbed :=
  meets_undisturbed (h.meets hpost)

theorem perform_undisturbed {α : Type} {action : Action}
    {next : action.Result → Operating α}
    {post : Except ChannelError α → Course → Prop}
    (haloof : action.isAloof = true)
    (hnext : ∀ result, overtaking.Meets thread
      (next result).run post .undisturbed) :
    overtaking.Meets thread (Operating.perform action >>= next).run post
      .undisturbed := by
  rw [meets_run_bind, Operating.perform, meets_run_lift]
  exact undisturbed_of_isAloof (.perform haloof) hnext

/-! ## On the way out -/

/-- An overtaken thread gets through the program with at most `n` actions. -/
def IsBrief (n : Nat) {α : Type} (program : Program α) : Prop :=
  ∀ {thread : Thread} {gain : Option Gain} {credit : Nat}
    {post : α → Course → Prop},
    n ≤ credit → (∀ value left, credit ≤ left + n →
      post value (.overtaken gain left)) →
      overtaking.Meets thread program post (.overtaken gain credit)

section Brief

variable {α β : Type} {m n : Nat}

theorem IsBrief.mono {program : Program α} (h : IsBrief m program)
    (hle : m ≤ n) :
    IsBrief n program := by
  intro thread gain credit post hcredit hpost
  exact h (by omega) fun value left hleft => hpost value left (by omega)

theorem isBrief_pure (value : α) : IsBrief n (pure value) :=
  fun _ hpost => hpost value _ (by omega)

theorem isBrief_perform {action : Action} (plain : action.isPlain = true) :
    IsBrief 1 (Program.perform action) := by
  intro thread gain credit post hcredit hpost
  have hnext : ∀ result, post result (.overtaken gain (credit - 1)) :=
    fun result => hpost result _ (by omega)
  cases action with
  | own | acquire | isOpen | call => cases plain
  | _ => exact ⟨hcredit, hnext⟩

theorem isBrief_run_bind {operation : Operating α} {f : α → Operating β}
    (h : IsBrief m operation.run) (hf : ∀ value, IsBrief n (f value).run) :
    IsBrief (m + n) (operation >>= f).run := by
  intro thread gain credit post hcredit hpost
  rw [meets_run_bind]
  refine h (by omega) fun result left hleft => ?_
  cases result with
  | error error => exact hpost _ _ (by omega)
  | ok value =>
      exact hf value (by omega)
        fun value left' hleft' => hpost value left' (by omega)

theorem isBrief_run_lift {program : Program α} (h : IsBrief n program) :
    IsBrief n (ExceptT.lift program : Operating α).run := by
  intro thread gain credit post hcredit hpost
  rw [meets_run_lift]
  exact h hcredit fun value => hpost (.ok value)

theorem isBrief_run_ite {condition : Prop} [Decidable condition]
    {operation other : Operating α} (h : IsBrief n operation.run)
    (hother : IsBrief n other.run) :
    IsBrief n (ExceptT.run (if condition then operation else other)) := by
  split
  · exact h
  · exact hother

end Brief

theorem put_isBrief (fields : Fields) :
    IsBrief 1 (Operating.perform (.put fields)).run :=
  isBrief_run_lift (isBrief_perform rfl)

theorem fields_isBrief : IsBrief 1 (Operating.perform .fields).run :=
  isBrief_run_lift (isBrief_perform rfl)

theorem socketClose_isBrief (fd : Fd) : IsBrief 1 (Socket.close fd) := by
  intro thread gain credit post hcredit hpost
  refine meets_retry (fun s => s = .overtaken gain credit) rfl fun s hs => ?_
  subst hs
  refine ⟨hcredit, fun answer => ?_⟩
  cases answer with
  | ok value => exact hpost (.ok value) (credit - 1) (by omega)
  | error error =>
      by_cases hinterrupted : error.isInterrupted = true
      · simp [Call.isInterrupted, hinterrupted]
      · simpa [Call.isInterrupted, hinterrupted] using hpost (.error error)
          (credit - 1) (by omega)

theorem release_isBrief : IsBrief 3 release.run := by
  refine isBrief_run_bind (n := 2) fields_isBrief fun fields => ?_
  refine isBrief_run_ite (isBrief_pure _) (isBrief_run_ite ?_ ?_)
  · exact IsBrief.mono (put_isBrief _) (by omega)
  · refine isBrief_run_bind (n := 1) (put_isBrief _) fun _ => ?_
    split
    · exact isBrief_pure _
    · refine
        isBrief_run_bind (n := 0)
          (isBrief_run_lift (socketClose_isBrief _)) fun result => ?_
      cases result <;> exact isBrief_pure _

theorem perform_overtaken {α : Type} {thread : Thread} {action : Action}
    {next : action.Result → Operating α}
    {post : Except ChannelError α → Course → Prop}
    (plain : action.isPlain = true) (hcredit : 1 ≤ credit)
    (hnext : ∀ result left, credit ≤ left + 1 →
      overtaking.Meets thread (next result).run post (.overtaken gain left)) :
    overtaking.Meets thread (Operating.perform action >>= next).run post
      (.overtaken gain credit) := by
  rw [meets_run_bind, Operating.perform, meets_run_lift]
  exact isBrief_perform plain hcredit hnext

/-- An overtaken thread that leaves the call without having completed it finds
the channel closed. -/
theorem leave_overtaken {thread : Thread} {direction : Direction}
    {completed : Bool} {post : Except ChannelError Unit → Course → Prop}
    (hcredit : 8 ≤ credit)
    (hpost : ∀ left, credit ≤ left + 8 →
      post (if completed then .ok () else .error .asynchronousClose)
        (.overtaken gain left)) :
    overtaking.Meets thread (leave direction completed).run post
      (.overtaken gain credit) := by
  have hend : ∀ left, credit ≤ left + 7 →
      overtaking.Meets thread
        (ExceptT.run (if completed then pure PUnit.unit else ensureStillOpen))
          post
        (.overtaken gain left) := by
    intro left hleft
    cases completed with
    | true => exact hpost left (by omega)
    | false => exact ⟨by omega, hpost (left - 1) (by omega)⟩
  rw [leave, meets_run_bind, meets_run_holding]
  refine ⟨by omega, rfl, ?_⟩
  refine perform_overtaken rfl (by omega) fun fields left hleft => ?_
  refine perform_overtaken rfl (by omega) fun _ left' hleft' => ?_
  rw [meets_run_ite]
  by_cases hpending : fields.state = .killPending
  · rw [if_pos hpending, meets_run_quietly]
    refine release_isBrief (by omega)
      fun _ left'' hleft'' => ⟨by omega, fun _ => ?_⟩
    exact hend (left'' - 1) (by omega)
  · rw [if_neg hpending]
    exact ⟨by omega, fun _ => hend (left' - 1) (by omega)⟩

end Overtaking

end LocalSocket
