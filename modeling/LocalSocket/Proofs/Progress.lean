import LocalSocket.Proofs.Vectored

/-!
# Transfers that move nothing

The system is not asked about windows that are at their end: such a transfer has
moved zero bytes, and that is all.  As long as there is room, a read that moves
nothing says why: there is nothing yet, there will be nothing any more, or there
is an error.

A write tells what the system has accepted, also when that is nothing.  It then
looks as if its windows had been at their end.
-/

namespace LocalSocket

/-- Nothing remains of the window. -/
def Window.AtEnd (window : Window) : Prop :=
  window.buffer.length ≤ window.position.toNat

namespace Window

variable {window : Window} {windows : List Window}

theorem isExhausted_iff : window.isExhausted = true ↔ window.AtEnd := by
  rw [isExhausted, beq_iff_eq, start, AtEnd]
  omega

theorem all_isExhausted_iff :
    windows.all isExhausted = true ↔ ∀ window ∈ windows, window.AtEnd := by
  simp only [List.all_eq_true, isExhausted_iff]

end Window

namespace Socket

open Window

variable {β : Type} {buffers : β}

/-- There has been progress, or there is a reason why not. -/
def Explains (outcome : Except OsError IoStatus) : Prop :=
  movedSomething outcome = true ∨ outcome = .ok .wouldBlock ∨
    outcome = .ok .endOfStream ∨ ∃ error, outcome = .error error

theorem explains_of_ne {outcome : Except OsError IoStatus}
    (h : outcome ≠ .ok (.transferred 0)) : Explains outcome := by
  match outcome with
  | .ok (.transferred 0) => exact absurd rfl h
  | .ok (.transferred (count + 1)) =>
      exact .inl (decide_eq_true count.succ_pos)
  | .ok .wouldBlock => exact .inr (.inl rfl)
  | .ok .endOfStream => exact .inr (.inr (.inl rfl))
  | .error error => exact .inr (.inr (.inr ⟨error, rfl⟩))

/-! ## What comes of one answer -/

theorem idle_ne (error : OsError) : idle error ≠ .ok (.transferred 0) := by
  rw [idle]
  split <;> simp

theorem received_ne {pass : Bytes → β} {answer : Except OsError Bytes} :
    (received buffers pass answer).1 ≠ .ok (.transferred 0) := by
  match answer with
  | .ok [] => exact nofun
  | .ok (byte :: rest) => simp [received]
  | .error error => exact idle_ne error

theorem sent_eq_iff {advance : Nat → β} {answer : Except OsError Nat} :
    (sent buffers advance answer).1 = .ok (.transferred 0) ↔
      answer = .ok 0 := by
  match answer with
  | .ok count => simp [sent]
  | .error error => simp [sent, idle_ne]

/-! ## What comes of a transfer -/

/-- A transfer that makes `request` unless it is `spent`.  It has moved nothing
without a reason just if it is spent or the system has settled it with an answer
that is `unmoved`. -/
structure Progresses (spent : Prop) (buffers : β) (request : Call)
    (unmoved : request.Answer → Prop)
    (transfer : Program (Except OsError IoStatus × β)) : Prop where
  rests : spent → ∀ exchanges result, transfer.Converses exchanges result ↔
    exchanges = [] ∧ result = (.ok (.transferred 0), buffers)
  asks : ¬spent → ∀ exchanges outcome onward,
    transfer.Converses exchanges (outcome, onward) →
      ∃ answers answer, exchanges = request.exchanges answers ∧
        Settles answers answer ∧
        (outcome = .ok (.transferred 0) ↔ unmoved answer) ∧
        (¬unmoved answer → Explains outcome)

variable {request : Call} {exhausted : Bool} {spent : Prop}
  {told : request.Answer → Except OsError IoStatus × β}
  {unmoved : request.Answer → Prop}

theorem progresses_transfer (hspent : exhausted = true ↔ spent)
    (htold : ∀ answer, (told answer).1 = .ok (.transferred 0) ↔
      unmoved answer) :
    Progresses spent buffers request unmoved
      (if exhausted = true then pure (.ok (.transferred 0), buffers)
        else Program.retry request >>= fun answer => pure (told answer)) where
  rests hspent' exchanges result := by
    rw [if_pos (hspent.mpr hspent'), Program.converses_pure]
  asks unspent exchanges outcome onward h := by
    obtain ⟨answers, rfl, ends⟩ := converses_transfer.mp h
    rw [Ends, if_neg (mt hspent.mp unspent)] at ends
    obtain ⟨answer, settles, hanswer⟩ := ends
    obtain rfl : outcome = (told answer).1 := congrArg Prod.fst hanswer
    exact ⟨answers, answer, rfl, settles, htold answer,
      fun moved => explains_of_ne (mt (htold answer).mp moved)⟩

/-- Transfers of windows that are at their end ask nothing and change nothing.
Others have not moved zero bytes, unless they are writes of which the system has
accepted none. -/
theorem transfers_progress (fd : Fd) (window : Window)
    (windows : List Window) :
    Progresses window.AtEnd window (.read fd window.room) (fun _ => False)
      (Socket.read fd window) ∧
    Progresses (∀ window ∈ windows, window.AtEnd) windows
      (.readMany fd (windows.map room)) (fun _ => False)
      (Socket.readMany fd windows) ∧
    Progresses window.AtEnd window (.write fd window.remaining)
      (fun answer => answer = .ok 0) (Socket.write fd window) ∧
    Progresses (∀ window ∈ windows, window.AtEnd) windows
      (.writeMany fd (windows.map remaining)) (fun answer => answer = .ok 0)
      (Socket.writeMany fd windows) := by
  refine ⟨?read, ?readMany, ?write, ?writeMany⟩
  case read =>
    rw [read_eq]
    exact progresses_transfer isExhausted_iff
      fun answer => iff_false_intro received_ne
  case readMany =>
    rw [readMany_eq]
    exact progresses_transfer all_isExhausted_iff
      fun answer => iff_false_intro received_ne
  case write =>
    rw [write_eq]
    exact progresses_transfer isExhausted_iff fun answer => sent_eq_iff
  case writeMany =>
    rw [writeMany_eq]
    exact progresses_transfer all_isExhausted_iff fun answer => sent_eq_iff

/-- The system accepts nothing of a byte that remains. -/
theorem write_stalls : ¬∀ (fd : Fd) (window onward : Window)
    (answers : List (Except OsError Nat)),
    (∀ count, .ok count ∈ answers → count ≤ window.room) →
    (Socket.write fd window).Converses
      ((Call.write fd window.remaining).exchanges answers)
      (.ok (.transferred 0), onward) →
    window.AtEnd := by
  intro h
  have converses : (Socket.write 3 ⟨[1], 0⟩).Converses
      ((Call.write 3 [1]).exchanges [.ok 0])
      (.ok (.transferred 0), ⟨[1], 0⟩) := by
    refine converses_write.mpr ?_
    exact (ends_of_settles ⟨[], rfl, nofun, rfl⟩ rfl _).mpr rfl
  have atEnd := h 3 ⟨[1], 0⟩ _ [.ok 0] (by simp) converses
  simp [AtEnd] at atEnd

end Socket

end LocalSocket
