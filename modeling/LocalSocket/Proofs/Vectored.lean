import LocalSocket.Proofs.Conversation
import LocalSocket.Proofs.Windows

/-!
# Transfers over several windows

A transfer over several windows is one transfer over what remains of them,
joined in their order.  The system is asked for, or offered, just those bytes;
what it delivers fills the windows one after the other, and what it accepts is
taken from them one after the other.

Positions are the exception.  Once the system has counted bytes, every window is
left where the transfer has placed it, also one that was positioned beyond its
end and had no part in the transfer: it is then at its end.
-/

namespace LocalSocket

/-! ## What comes of an answer -/

namespace Socket

open Window

variable {α β γ : Type} {fd : Fd} {exchanges : List Exchange}

def received (buffers : β) (pass : Bytes → β) :
    Except OsError Bytes → Except OsError IoStatus × β
  | .ok [] => (.ok .endOfStream, buffers)
  | .ok data => (.ok (.transferred data.length), pass data)
  | .error error => (idle error, buffers)

def sent (buffers : β) (advance : Nat → β) :
    Except OsError Nat → Except OsError IoStatus × β
  | .ok count => (.ok (.transferred count), advance count)
  | .error error => (idle error, buffers)

theorem received_of_ne_nil {buffers : β} {pass : Bytes → β} {data : Bytes}
    (h : data ≠ []) : received buffers pass (.ok data) =
      (.ok (.transferred data.length), pass data) := by
  cases data with
  | nil => exact absurd rfl h
  | cons byte rest => rfl

theorem map_received (f : β → γ) {buffers : β} {pass : Bytes → β}
    {pass' : Bytes → γ} {answer : Except OsError Bytes}
    (h : ∀ data, answer = .ok data → pass' data = f (pass data)) :
    received (f buffers) pass' answer =
      (received buffers pass answer).map id f := by
  match answer with
  | .ok [] => rfl
  | .ok (byte :: rest) => simp [received, h _ rfl]
  | .error error => rfl

theorem map_sent (f : β → γ) {buffers : β} {advance : Nat → β}
    {advance' : Nat → γ} {answer : Except OsError Nat}
    (h : ∀ count, answer = .ok count → advance' count = f (advance count)) :
    sent (f buffers) advance' answer =
      (sent buffers advance answer).map id f := by
  match answer with
  | .ok count => simp [sent, h _ rfl]
  | .error error => rfl

/-- What may come of a transfer with these answers.  The system is not asked
about windows that are exhausted. -/
def Ends (exhausted : Bool) (buffers : β)
    (told : Except OsError α → Except OsError IoStatus × β)
    (answers : List (Except OsError α)) (result : Except OsError IoStatus × β) :
    Prop :=
  if exhausted = true then
    answers = [] ∧ result = (.ok (.transferred 0), buffers)
  else ∃ answer, Settles answers answer ∧ result = told answer

theorem ends_map (f : β → γ) {exhausted : Bool} {buffers : β}
    {told : Except OsError α → Except OsError IoStatus × β}
    {told' : Except OsError α → Except OsError IoStatus × γ}
    {answers : List (Except OsError α)} {result : Except OsError IoStatus × γ}
    (h : ∀ answer ∈ answers, told' answer = (told answer).map id f) :
    Ends exhausted (f buffers) told' answers result ↔
      ∃ onward, Ends exhausted buffers told answers (result.1, onward) ∧
        result.2 = f onward := by
  unfold Ends
  split
  · constructor
    · rintro ⟨rfl, rfl⟩
      exact ⟨buffers, ⟨rfl, rfl⟩, rfl⟩
    · rintro ⟨onward, ⟨rfl, hresult⟩, honward⟩
      obtain ⟨hstatus, rfl⟩ := Prod.mk.inj hresult
      exact ⟨rfl, Prod.ext hstatus honward⟩
  · constructor
    · rintro ⟨answer, settles, rfl⟩
      rw [h answer settles.mem]
      exact ⟨(told answer).2, ⟨answer, settles, rfl⟩, rfl⟩
    · rintro ⟨onward, ⟨answer, settles, hresult⟩, honward⟩
      refine ⟨answer, settles, ?_⟩
      rw [h answer settles.mem, ← hresult]
      exact Prod.ext rfl honward

theorem converses_transfer {exhausted : Bool} {buffers : β} {request : Call}
    {told : request.Answer → Except OsError IoStatus × β}
    {result : Except OsError IoStatus × β} :
    (if exhausted = true then pure (.ok (.transferred 0), buffers)
      else Program.retry request >>= fun answer =>
        pure (told answer)).Converses exchanges result ↔
      ∃ answers, exchanges = request.exchanges answers ∧
        Ends exhausted buffers told answers result := by
  unfold Ends
  split
  · rw [Program.converses_pure]
    constructor
    · rintro ⟨rfl, rfl⟩
      exact ⟨[], rfl, rfl, rfl⟩
    · rintro ⟨answers, rfl, rfl, rfl⟩
      exact ⟨rfl, rfl⟩
  · rw [Program.converses_bind]
    simp only [Program.converses_retry, Program.converses_pure]
    constructor
    · rintro ⟨_, answer, _, rfl, ⟨answers, rfl, settles⟩, rfl, rfl⟩
      exact ⟨answers, by simp, answer, settles, rfl⟩
    · rintro ⟨answers, rfl, answer, settles, rfl⟩
      exact ⟨_, answer, [], by simp, ⟨answers, rfl, settles⟩, rfl, rfl⟩

theorem read_eq (window : Window) : Socket.read fd window =
    if window.isExhausted = true then pure (.ok (.transferred 0), window)
    else Program.retry (.read fd window.room) >>= fun answer =>
      pure (received window window.pass answer) := by
  rw [Socket.read]
  congr 2
  funext answer
  match answer with
  | .ok [] | .ok (byte :: rest) | .error error => rfl

theorem write_eq (window : Window) : Socket.write fd window =
    if window.isExhausted = true then pure (.ok (.transferred 0), window)
    else Program.retry (.write fd window.remaining) >>= fun answer =>
      pure (sent window window.advance answer) := by
  rw [Socket.write]
  congr 2
  funext answer
  cases answer <;> rfl

theorem readMany_eq (windows : List Window) : Socket.readMany fd windows =
    if windows.all isExhausted = true then
      pure (.ok (.transferred 0), windows)
    else Program.retry (.readMany fd (windows.map room)) >>= fun answer =>
      pure (received windows (passAll windows) answer) := by
  rw [Socket.readMany]
  congr 2
  funext answer
  match answer with
  | .ok [] | .error error => rfl
  | .ok (byte :: rest) => simp only [received, ← advanceAll_fillAll]

theorem writeMany_eq (windows : List Window) : Socket.writeMany fd windows =
    if windows.all isExhausted = true then
      pure (.ok (.transferred 0), windows)
    else Program.retry (.writeMany fd (windows.map remaining)) >>= fun answer =>
      pure (sent windows (advanceAll windows) answer) := by
  rw [Socket.writeMany]
  congr 2
  funext answer
  cases answer <;> rfl

end Socket

/-! ## Windows joined into one -/

namespace Window

variable {window : Window} {windows : List Window} {data : Bytes}

/-- The buffer fits into memory. -/
def Fits (window : Window) : Prop :=
  window.buffer.length < UInt64.size

/-- What stands where something remained of windows before a transfer. -/
def inside (windows onward : List Window) : Bytes :=
  (List.zipWith (fun window onward => onward.buffer.drop window.start) windows
    onward).flatten

/-- How far windows have moved on in all. -/
def moved (windows onward : List Window) : Nat :=
  total (List.zipWith (fun window onward => onward.start - window.start) windows
    onward)

/-- Windows as a single one over what remained of them before a transfer. -/
def joined (windows onward : List Window) : Window :=
  ⟨inside windows onward, UInt64.ofNat (moved windows onward)⟩

/-- What remains of windows, as a single one. -/
def join (windows : List Window) : Window := ⟨remainingAll windows, 0⟩

@[simp] theorem inside_cons {onward : Window} {windows' : List Window} :
    inside (window :: windows) (onward :: windows') =
      onward.buffer.drop window.start ++ inside windows windows' := rfl

@[simp] theorem moved_cons {onward : Window} {windows' : List Window} :
    moved (window :: windows) (onward :: windows') =
      onward.start - window.start + moved windows windows' := rfl

theorem moved_self (windows : List Window) : moved windows windows = 0 := by
  induction windows with
  | nil => rfl
  | cons window rest ih => simp [ih]

theorem joined_self (windows : List Window) :
    joined windows windows = join windows := by
  rw [joined, moved_self, inside, List.zipWith_self]
  rfl

theorem start_join (windows : List Window) : (join windows).start = 0 := by
  simp [join, start]

theorem remaining_join (windows : List Window) :
    (join windows).remaining = remainingAll windows := by
  rw [remaining, start_join]
  rfl

theorem room_join (windows : List Window) :
    (join windows).room = roomAll windows := by
  rw [← length_remaining, remaining_join, length_remainingAll]

theorem room_eq_zero : window.room = 0 ↔ window.isExhausted = true := by
  have := window.start_le
  rw [isExhausted, beq_iff_eq, room]
  omega

theorem roomAll_eq_zero :
    roomAll windows = 0 ↔ windows.all isExhausted = true := by
  induction windows with
  | nil => simp
  | cons window rest ih =>
      rw [roomAll_cons, Nat.add_eq_zero_iff, ih, room_eq_zero, List.all_cons,
        Bool.and_eq_true]

theorem isExhausted_join (windows : List Window) :
    (join windows).isExhausted = windows.all isExhausted := by
  rw [Bool.eq_iff_iff, ← room_eq_zero, room_join, roomAll_eq_zero]

theorem Fits.position_advance (fits : window.Fits) {count : Nat}
    (h : count ≤ window.room) :
    (window.advance count).position.toNat = window.start + count := by
  have hsize : UInt64.size = 18446744073709551616 := rfl
  have hstart := window.start_le
  rw [Fits] at fits
  rw [room] at h
  simp only [advance, UInt64.toNat_ofNat']
  omega

theorem Fits.position_pass (fits : window.Fits)
    (h : data.length ≤ window.room) :
    (window.pass data).position.toNat = window.start + data.length := by
  have hfits : (window.fill data).Fits := by rwa [Fits, length_fill]
  have h' : data.length ≤ (window.fill data).room := by rwa [room_fill]
  rw [pass, hfits.position_advance h', start_fill]

theorem Fits.start_pass (fits : window.Fits) (h : data.length ≤ window.room) :
    (window.pass data).start = window.start + data.length := by
  have hstart := window.start_le
  rw [start, fits.position_pass h, length_pass]
  rw [room] at h
  omega

/-- What has been passed stands at the start of what remained. -/
theorem drop_start_pass (h : data.length ≤ window.room) :
    (window.pass data).buffer.drop window.start =
      data ++ window.remaining.drop data.length := by
  have hstart : (window.buffer.take window.start).length = window.start :=
    List.length_take_of_le window.start_le
  simp only [pass, advance, fill, List.take_of_length_le h, List.append_assoc]
  rw [List.drop_left' hstart, remaining, List.drop_drop]

theorem take_start_pass (window : Window) (data : Bytes) :
    (window.pass data).buffer.take window.start =
      window.buffer.take window.start := by
  have hstart : (window.buffer.take window.start).length = window.start :=
    List.length_take_of_le window.start_le
  simp only [pass, advance, fill, List.append_assoc]
  exact List.take_left' hstart

/-- An earlier window is full before a later one receives anything. -/
theorem inside_passAll (h : data.length ≤ roomAll windows) :
    inside windows (passAll windows data) =
      data ++ (remainingAll windows).drop data.length := by
  induction windows generalizing data with
  | nil =>
      obtain rfl : data = [] := by simpa using h
      rfl
  | cons window rest ih =>
      have hrest : (data.drop window.room).length ≤ roomAll rest := by
        rw [roomAll_cons] at h
        rw [List.length_drop]
        omega
      rw [passAll, inside_cons, ih hrest,
        drop_start_pass (List.length_take_le _ _), remainingAll_cons,
        List.drop_append, length_remaining, List.length_take, List.length_drop]
      by_cases hle : data.length ≤ window.room
      · rw [Nat.min_eq_right hle, List.take_of_length_le hle,
          List.drop_of_length_le hle, List.nil_append, List.append_assoc]
      · have hfull : window.remaining.length ≤ data.length := by
          rw [length_remaining]
          omega
        rw [Nat.min_eq_left (by omega), List.drop_of_length_le hfull,
          ← length_remaining, List.drop_length, List.append_nil,
          ← List.append_assoc, List.take_append_drop, List.nil_append]

theorem moved_passAll (fits : ∀ window ∈ windows, window.Fits)
    (h : data.length ≤ roomAll windows) :
    moved windows (passAll windows data) = data.length := by
  induction windows generalizing data with
  | nil =>
      obtain rfl : data = [] := by simpa using h
      rfl
  | cons window rest ih =>
      obtain ⟨hwindow, hfits⟩ := List.forall_mem_cons.mp fits
      rw [roomAll_cons] at h
      have hrest : (data.drop window.room).length ≤ roomAll rest := by
        rw [List.length_drop]
        omega
      rw [passAll, moved_cons, ih hfits hrest,
        hwindow.start_pass (List.length_take_le _ _), List.length_take,
        List.length_drop]
      omega

/-- What passes through windows passes through what remains of them. -/
theorem joined_passAll (fits : ∀ window ∈ windows, window.Fits)
    (h : data.length ≤ roomAll windows) :
    joined windows (passAll windows data) = (join windows).pass data := by
  have hroom : data.length ≤ (join windows).room := by rwa [room_join]
  rw [joined, inside_passAll h, moved_passAll fits h, pass, advance, start_fill,
    start_join, fill, start_join, List.take_of_length_le hroom]
  simp [join]

theorem joined_advanceAll (fits : ∀ window ∈ windows, window.Fits) {count : Nat}
    (h : count ≤ roomAll windows) :
    joined windows (advanceAll windows count) =
      (join windows).advance count := by
  have hlength : ((remainingAll windows).take count).length = count := by
    rw [List.length_take, length_remainingAll]
    omega
  have hle : ((remainingAll windows).take count).length ≤ roomAll windows := by
    rwa [hlength]
  rw [advanceAll_eq, joined_passAll fits hle, pass, hlength, ← remaining_join,
    fill_remaining]

/-! ## What each window has its part in -/

theorem getElem?_passAll (windows : List Window) (data : Bytes) (index : Nat) :
    (passAll windows data)[index]? = windows[index]?.map fun window =>
      window.pass
        ((data.drop (roomAll (windows.take index))).take window.room) := by
  induction windows generalizing data index with
  | nil => rfl
  | cons window rest ih =>
      cases index with
      | zero => rfl
      | succ index =>
          rw [passAll, List.getElem?_cons_succ, ih, List.getElem?_cons_succ,
            List.take_succ_cons, roomAll_cons, List.drop_drop]

/-- How many of the bytes that pass through windows pass through the one at an
index.  It comes after those before it. -/
def share (windows : List Window) (count index : Nat) (window : Window) : Nat :=
  min window.room (count - roomAll (windows.take index))

theorem getElem?_advanceAll (windows : List Window) (count index : Nat) :
    (advanceAll windows count)[index]? = windows[index]?.map fun window =>
      window.advance (share windows count index window) := by
  induction windows generalizing count index with
  | nil => rfl
  | cons window rest ih =>
      cases index with
      | zero => simp [advanceAll, share, Nat.min_comm]
      | succ index =>
          have hcount : count - min count window.room -
              roomAll (rest.take index) =
                count - (window.room + roomAll (rest.take index)) := by omega
          simp only [advanceAll, List.getElem?_cons_succ, ih, share,
            List.take_succ_cons, roomAll_cons, hcount]

/-- Every window ends up where its part of the bytes ends. -/
def Places (windows : List Window) (count : Nat) (onward : List Window) :
    Prop :=
  ∀ index window, windows[index]? = some window →
    ∃ window', onward[index]? = some window' ∧
      window'.position.toNat = window.start + share windows count index window

theorem passAll_places (fits : ∀ window ∈ windows, window.Fits) :
    Places windows data.length (passAll windows data) := by
  intro index window h
  refine ⟨_, by rw [getElem?_passAll, h]; rfl, ?_⟩
  rw [(fits window (List.mem_of_getElem? h)).position_pass
    (List.length_take_le _ _), List.length_take, List.length_drop, share]

theorem advanceAll_places (fits : ∀ window ∈ windows, window.Fits)
    (count : Nat) : Places windows count (advanceAll windows count) := by
  intro index window h
  refine ⟨_, by rw [getElem?_advanceAll, h]; rfl, ?_⟩
  exact (fits window (List.mem_of_getElem? h)).position_advance
    (Nat.min_le_left _ _)

theorem Places.position {count : Nat} {onward : List Window}
    (places : Places windows count onward) {index : Nat}
    (h : windows[index]? = some window)
    (within : window.position.toNat ≤ window.buffer.length) :
    ∃ window', onward[index]? = some window' ∧ window'.position.toNat =
      window.position.toNat + share windows count index window := by
  obtain ⟨window', honward, position⟩ := places index window h
  rw [start, Nat.min_eq_left within] at position
  exact ⟨window', honward, position⟩

theorem crossed_advance (fits : window.Fits) {count : Nat}
    (h : count ≤ window.room) :
    crossed window (window.advance count) = window.remaining.take count := by
  have hbuffer : (window.advance count).buffer = window.buffer := rfl
  rw [crossed, fits.position_advance h, hbuffer, List.drop_take, remaining]
  by_cases within : window.position.toNat ≤ window.buffer.length
  · rw [start, Nat.min_eq_left within, Nat.add_sub_cancel_left]
  · have hstart : window.start = window.buffer.length := by
      rw [start]
      omega
    rw [hstart, List.drop_length, List.drop_of_length_le (by omega)]
    simp

theorem crossedAll_advanceAll (fits : ∀ window ∈ windows, window.Fits)
    (count : Nat) : crossedAll windows (advanceAll windows count) =
      (remainingAll windows).take count := by
  induction windows generalizing count with
  | nil => simp [crossedAll, remainingAll]
  | cons window rest ih =>
      obtain ⟨hwindow, hfits⟩ := List.forall_mem_cons.mp fits
      have ih := ih hfits (count - min count window.room)
      rw [crossedAll] at ih ⊢
      have hcount : count - min count window.room = count - window.room := by
        omega
      rw [advanceAll, List.zipWith_cons_cons, List.flatten_cons, ih,
        crossed_advance hwindow (Nat.min_le_right _ _), remainingAll_cons,
        List.take_append, length_remaining, hcount, ← List.take_take,
        List.take_of_length_le (Nat.le_of_eq window.length_remaining)]

/-- Nothing changes outside of what remained of the windows. -/
def SameOutside (windows onward : List Window) : Prop :=
  List.Forall₂ (fun window onward =>
    onward.buffer.length = window.buffer.length ∧
      onward.buffer.take window.start = window.buffer.take window.start)
    windows onward

theorem passAll_sameOutside (windows : List Window) (data : Bytes) :
    SameOutside windows (passAll windows data) := by
  induction windows generalizing data with
  | nil => exact .nil
  | cons window rest ih =>
      exact .cons ⟨length_pass _ _, take_start_pass _ _⟩ (ih _)

end Window

/-! ## One transfer -/

namespace Socket

open Window

variable {fd : Fd} {window : Window} {windows : List Window}
  {exchanges : List Exchange}

theorem converses_read {answers : List (Except OsError Bytes)}
    {result : Except OsError IoStatus × Window} :
    (Socket.read fd window).Converses
        ((Call.read fd window.room).exchanges answers) result ↔
      Ends window.isExhausted window (received window window.pass) answers
        result := by
  rw [read_eq]
  exact converses_transfer.trans Call.exists_exchanges_eq

theorem converses_write {answers : List (Except OsError Nat)}
    {result : Except OsError IoStatus × Window} :
    (Socket.write fd window).Converses
        ((Call.write fd window.remaining).exchanges answers) result ↔
      Ends window.isExhausted window (sent window window.advance) answers
        result := by
  rw [write_eq]
  exact converses_transfer.trans Call.exists_exchanges_eq

theorem converses_readMany {answers : List (Except OsError Bytes)}
    {result : Except OsError IoStatus × List Window} :
    (Socket.readMany fd windows).Converses
        ((Call.readMany fd (windows.map room)).exchanges answers) result ↔
      Ends (windows.all isExhausted) windows
        (received windows (passAll windows)) answers result := by
  rw [readMany_eq]
  exact converses_transfer.trans Call.exists_exchanges_eq

theorem converses_writeMany {answers : List (Except OsError Nat)}
    {result : Except OsError IoStatus × List Window} :
    (Socket.writeMany fd windows).Converses
        ((Call.writeMany fd (windows.map remaining)).exchanges answers) result ↔
      Ends (windows.all isExhausted) windows
        (sent windows (advanceAll windows)) answers result := by
  rw [writeMany_eq]
  exact converses_transfer.trans Call.exists_exchanges_eq

theorem exchanges_of_readMany {result : Except OsError IoStatus × List Window}
    (h : (Socket.readMany fd windows).Converses exchanges result) :
    ∃ answers : List (Except OsError Bytes), exchanges =
      (Call.readMany fd (windows.map room)).exchanges answers := by
  rw [readMany_eq] at h
  obtain ⟨answers, hexchanges, _⟩ := converses_transfer.mp h
  exact ⟨answers, hexchanges⟩

theorem exchanges_of_writeMany {result : Except OsError IoStatus × List Window}
    (h : (Socket.writeMany fd windows).Converses exchanges result) :
    ∃ answers : List (Except OsError Nat), exchanges =
      (Call.writeMany fd (windows.map remaining)).exchanges answers := by
  rw [writeMany_eq] at h
  obtain ⟨answers, hexchanges, _⟩ := converses_transfer.mp h
  exact ⟨answers, hexchanges⟩

/-- The bytes have come in through the windows, the first windows first. -/
structure Receives (windows : List Window) (data : Bytes)
    (onward : List Window) : Prop where
  inside : inside windows onward =
    data ++ (remainingAll windows).drop data.length
  outside : SameOutside windows onward
  moves : ∀ index window, windows[index]? = some window →
    window.position.toNat ≤ window.buffer.length →
      ∃ window', onward[index]? = some window' ∧ window'.position.toNat =
        window.position.toNat + share windows data.length index window

/-- So many bytes have been taken from the windows, the first ones first. -/
structure Gives (windows : List Window) (count : Nat) (onward : List Window) :
    Prop where
  buffers : onward.map buffer = windows.map buffer
  crossed : crossedAll windows onward = (remainingAll windows).take count
  moves : ∀ index window, windows[index]? = some window →
    window.position.toNat ≤ window.buffer.length →
      ∃ window', onward[index]? = some window' ∧ window'.position.toNat =
        window.position.toNat + share windows count index window

/-- Reading into the windows is reading into what remains of them. -/
structure ReadsAsOne (fd : Fd) (windows : List Window) : Prop where
  asks : ∀ {exchanges result},
    (Socket.readMany fd windows).Converses exchanges result → ∃ answers,
      exchanges = (Call.readMany fd (windows.map room)).exchanges answers
  agrees : ∀ {answers : List (Except OsError Bytes)} {outcome whole},
    (∀ data, .ok data ∈ answers → data.length ≤ roomAll windows) →
    ((Socket.read fd (join windows)).Converses
        ((Call.read fd (roomAll windows)).exchanges answers)
        (outcome, whole) ↔
      ∃ onward, (Socket.readMany fd windows).Converses
        ((Call.readMany fd (windows.map room)).exchanges answers)
        (outcome, onward) ∧ whole = joined windows onward)
  delivers : ∀ {answers : List (Except OsError Bytes)} {data : Bytes},
    Settles answers (.ok data) → data ≠ [] → data.length ≤ roomAll windows →
      ∃ onward, (∀ result, (Socket.readMany fd windows).Converses
        ((Call.readMany fd (windows.map room)).exchanges answers) result ↔
          result = (.ok (.transferred data.length), onward)) ∧
        Receives windows data onward
  single : ∀ {window : Window}, windows = [window] →
    ∀ {answers : List (Except OsError Bytes)} {outcome onward},
      (∀ data, .ok data ∈ answers → data.length ≤ window.room) →
      ((Socket.readMany fd [window]).Converses
          ((Call.readMany fd [window.room]).exchanges answers)
          (outcome, onward) ↔
        ∃ window', (Socket.read fd window).Converses
          ((Call.read fd window.room).exchanges answers) (outcome, window') ∧
            onward = [window'])

/-- Writing from the windows is writing what remains of them. -/
structure WritesAsOne (fd : Fd) (windows : List Window) : Prop where
  asks : ∀ {exchanges result},
    (Socket.writeMany fd windows).Converses exchanges result →
      ∃ parts answers, parts.flatten = remainingAll windows ∧
        exchanges = (Call.writeMany fd parts).exchanges answers
  agrees : ∀ {answers : List (Except OsError Nat)} {outcome whole},
    (∀ count, .ok count ∈ answers → count ≤ roomAll windows) →
    ((Socket.write fd (join windows)).Converses
        ((Call.write fd (remainingAll windows)).exchanges answers)
        (outcome, whole) ↔
      ∃ onward, (Socket.writeMany fd windows).Converses
        ((Call.writeMany fd (windows.map remaining)).exchanges answers)
        (outcome, onward) ∧ whole = joined windows onward)
  takes : ∀ {answers : List (Except OsError Nat)} {count : Nat},
    Settles answers (.ok count) → remainingAll windows ≠ [] →
    count ≤ (remainingAll windows).length →
      ∃ onward, (∀ result, (Socket.writeMany fd windows).Converses
        ((Call.writeMany fd (windows.map remaining)).exchanges answers)
          result ↔ result = (.ok (.transferred count), onward)) ∧
        Gives windows count onward
  single : ∀ {window : Window}, windows = [window] →
    ∀ {answers : List (Except OsError Nat)} {outcome onward},
      (∀ count, .ok count ∈ answers → count ≤ window.room) →
      ((Socket.writeMany fd [window]).Converses
          ((Call.writeMany fd [window.remaining]).exchanges answers)
          (outcome, onward) ↔
        ∃ window', (Socket.write fd window).Converses
          ((Call.write fd window.remaining).exchanges answers)
          (outcome, window') ∧ onward = [window'])

/-- What comes of an answer that settles a transfer is all that may come of
it. -/
theorem ends_of_settles {exhausted : Bool} {buffers : β}
    {told : Except OsError α → Except OsError IoStatus × β}
    {answers : List (Except OsError α)} {answer : Except OsError α}
    (settles : Settles answers answer) (h : exhausted = false)
    (result : Except OsError IoStatus × β) :
    Ends exhausted buffers told answers result ↔ result = told answer := by
  rw [Ends, if_neg (by simp [h])]
  constructor
  · rintro ⟨other, settles', rfl⟩
    rw [settles.unique settles']
  · rintro rfl
    exact ⟨answer, settles, rfl⟩

theorem readsAsOne (fits : ∀ window ∈ windows, window.Fits) :
    ReadsAsOne fd windows where
  asks := exchanges_of_readMany
  agrees := by
    intro answers outcome whole faithful
    have hread : (Socket.read fd (join windows)).Converses
      ((Call.read fd (join windows).room).exchanges answers)
      (outcome, whole) ↔ _ := converses_read
    rw [room_join, isExhausted_join, ← joined_self] at hread
    simp only [converses_readMany]
    rw [← joined_self, hread]
    refine ends_map (joined windows) fun answer hanswer => ?_
    refine map_received (joined windows) fun data hdata => ?_
    rw [joined_self, joined_passAll fits (faithful data (hdata ▸ hanswer))]
  delivers := by
    intro answers data settles hdata hle
    have hroom : 0 < data.length := List.length_pos_iff.mpr hdata
    have unexhausted : windows.all isExhausted = false := by
      rw [← Bool.not_eq_true, ← roomAll_eq_zero]
      omega
    refine ⟨passAll windows data, fun result => ?_, inside_passAll hle,
      passAll_sameOutside windows data, fun index window h within =>
        (passAll_places fits).position h within⟩
    rw [converses_readMany, ends_of_settles settles unexhausted,
      received_of_ne_nil hdata]
  single := by
    rintro window rfl answers outcome onward faithful
    have hmany : (Socket.readMany fd [window]).Converses
      ((Call.readMany fd ([window].map room)).exchanges answers)
      (outcome, onward) ↔ _ := converses_readMany
    rw [List.map_singleton] at hmany
    simp only [converses_read, hmany]
    have hall : [window].all isExhausted = window.isExhausted := by simp
    rw [hall]
    refine ends_map (fun window => [window]) fun answer hanswer => ?_
    refine map_received (fun window => [window]) fun data hdata => ?_
    have hle := faithful data (hdata ▸ hanswer)
    rw [passAll, List.take_of_length_le hle]
    rfl

theorem writesAsOne (fits : ∀ window ∈ windows, window.Fits) :
    WritesAsOne fd windows where
  asks h := by
    obtain ⟨answers, hexchanges⟩ := exchanges_of_writeMany h
    exact ⟨windows.map remaining, answers, rfl, hexchanges⟩
  agrees := by
    intro answers outcome whole faithful
    have hwrite : (Socket.write fd (join windows)).Converses
      ((Call.write fd (join windows).remaining).exchanges answers)
      (outcome, whole) ↔ _ := converses_write
    rw [remaining_join, isExhausted_join, ← joined_self] at hwrite
    simp only [converses_writeMany]
    rw [← joined_self, hwrite]
    refine ends_map (joined windows) fun answer hanswer => ?_
    refine map_sent (joined windows) fun count hcount => ?_
    rw [joined_self,
      joined_advanceAll fits (faithful count (hcount ▸ hanswer))]
  takes := by
    intro answers count settles hremaining hle
    have unexhausted : windows.all isExhausted = false := by
      rw [← Bool.not_eq_true, ← roomAll_eq_zero, ← length_remainingAll]
      exact fun h => hremaining (List.length_eq_zero_iff.mp h)
    refine ⟨advanceAll windows count, fun result => ?_,
      buffer_advanceAll windows count, crossedAll_advanceAll fits count,
      fun index window h within =>
        (advanceAll_places fits count).position h within⟩
    rw [converses_writeMany, ends_of_settles settles unexhausted, sent]
  single := by
    rintro window rfl answers outcome onward faithful
    have hmany : (Socket.writeMany fd [window]).Converses
      ((Call.writeMany fd ([window].map remaining)).exchanges answers)
      (outcome, onward) ↔ _ := converses_writeMany
    rw [List.map_singleton] at hmany
    have hall : [window].all isExhausted = window.isExhausted := by simp
    rw [hmany, hall]
    simp only [converses_write]
    refine ends_map (fun window => [window]) fun answer hanswer => ?_
    refine map_sent (fun window => [window]) fun count hcount => ?_
    have hle := faithful count (hcount ▸ hanswer)
    rw [advanceAll, Nat.min_eq_left hle]
    rfl

/-- A transfer to or from many windows is one to or from what remains of them,
one after the other.  With a single window it is the plain one. -/
theorem transfers_as_one (fits : ∀ window ∈ windows, window.Fits) (fd : Fd) :
    ReadsAsOne fd windows ∧ WritesAsOne fd windows :=
  ⟨readsAsOne fits, writesAsOne fits⟩

/-- Seven bytes of room, in front of which and between which there are windows
without any. -/
theorem transfers_as_one_around_exhausted :
    let windows : List Window :=
      [⟨[9], 4⟩, ⟨[1, 2], 0⟩, ⟨[], 0⟩, ⟨[3, 4, 5, 6, 7, 8], 1⟩]
    (∀ window ∈ windows, window.Fits) ∧
      (∃ onward, (∀ result, (Socket.readMany 3 windows).Converses
        ((Call.readMany 3 (windows.map room)).exchanges
          [.error (.code Errno.interrupted), .ok [20, 21, 22]]) result ↔
          result = (.ok (.transferred 3), onward)) ∧
        Receives windows [20, 21, 22] onward) := by
  have fits : ∀ window ∈ ([⟨[9], 4⟩, ⟨[1, 2], 0⟩, ⟨[], 0⟩,
      ⟨[3, 4, 5, 6, 7, 8], 1⟩] : List Window), window.Fits := by
    simp [Fits, UInt64.size]
  have settles : Settles [.error (.code Errno.interrupted),
      .ok ([20, 21, 22] : Bytes)] (.ok [20, 21, 22]) :=
    ⟨[.error (.code Errno.interrupted)], rfl, by decide, rfl⟩
  exact ⟨fits,
    (transfers_as_one fits 3).1.delivers settles (by simp) (by decide)⟩

/-! ## Positions -/

/-- Without a count from the system windows stay as they are.  With one, each of
them moves on by its part, but those that were positioned beyond their end are
then at their end. -/
def Leaves (windows : List Window) (exchanges : List Exchange)
    (outcome : Except OsError IoStatus) (onward : List Window) : Prop :=
  (onward = windows ∧
    (exchanges = [] ∨ ∀ count, outcome ≠ .ok (.transferred count))) ∨
  ∃ count, exchanges ≠ [] ∧ outcome = .ok (.transferred count) ∧
    onward.length = windows.length ∧
    ∀ index window, windows[index]? = some window →
      ∃ window', onward[index]? = some window' ∧ window'.position.toNat =
        if window.position.toNat ≤ window.buffer.length then
          window.position.toNat + share windows count index window
        else window.buffer.length

theorem leaves_of_places {count : Nat} {onward : List Window}
    (places : Places windows count onward)
    (same : onward.length = windows.length) (asked : exchanges ≠ []) :
    Leaves windows exchanges (.ok (.transferred count)) onward := by
  refine .inr ⟨count, asked, rfl, same, fun index window h => ?_⟩
  split
  · exact places.position h ‹_›
  · rename_i beyond
    have hstart : window.start = window.buffer.length := by
      rw [start]
      omega
    have hshare : share windows count index window = 0 := by
      rw [share, room, hstart, Nat.sub_self, Nat.zero_min]
    obtain ⟨window', honward, position⟩ := places index window h
    rw [hstart, hshare] at position
    exact ⟨window', honward, position⟩

theorem leaves_of_idle (error : OsError) :
    Leaves windows exchanges (idle error) windows := by
  refine .inl ⟨rfl, .inr fun count => ?_⟩
  rw [idle]
  split <;> exact nofun

theorem leaves_of_ends {exhausted : Bool} (request : Call)
    {told : request.Answer → Except OsError IoStatus × List Window}
    {answers : List request.Answer}
    {result : Except OsError IoStatus × List Window}
    (ends : Ends exhausted windows told answers result)
    (htold : ∀ answer, Settles answers answer → Leaves windows
      (request.exchanges answers) (told answer).1 (told answer).2) :
    Leaves windows (request.exchanges answers) result.1 result.2 := by
  rw [Ends] at ends
  split at ends
  · obtain ⟨rfl, rfl⟩ := ends
    exact .inl ⟨rfl, .inl rfl⟩
  · obtain ⟨answer, settles, rfl⟩ := ends
    exact htold answer settles

/-- A transfer over several windows moves each of them by its part, as long as
they are positioned within their buffers. -/
theorem transfers_leave (fits : ∀ window ∈ windows, window.Fits) (fd : Fd)
    {outcome : Except OsError IoStatus} {onward : List Window}
    (h : (Socket.readMany fd windows).Converses exchanges (outcome, onward) ∨
      (Socket.writeMany fd windows).Converses exchanges (outcome, onward)) :
    Leaves windows exchanges outcome onward := by
  obtain h | h := h
  · obtain ⟨answers, rfl⟩ := exchanges_of_readMany h
    refine leaves_of_ends (.readMany fd (windows.map room))
      (converses_readMany.mp h) fun answer settles => ?_
    match answer with
    | .ok [] => exact .inl ⟨rfl, .inr fun _ => nofun⟩
    | .ok (byte :: rest) =>
        exact leaves_of_places (passAll_places fits) (length_passAll _ _)
          settles.exchanges_ne_nil
    | .error error => exact leaves_of_idle error
  · obtain ⟨answers, rfl⟩ := exchanges_of_writeMany h
    refine leaves_of_ends (.writeMany fd (windows.map remaining))
      (converses_writeMany.mp h) fun answer settles => ?_
    match answer with
    | .ok count =>
        exact leaves_of_places (advanceAll_places fits count)
          (length_advanceAll _ _) settles.exchanges_ne_nil
    | .error error => exact leaves_of_idle error

section Behind

/-- A write of two bytes, next to a window positioned beyond its end. -/
theorem converses_behind : (Socket.writeMany 3
      [⟨[1, 2], 0⟩, ⟨[3], 5⟩]).Converses
    ((Call.writeMany 3 [[1, 2], []]).exchanges [.ok 2])
    (.ok (.transferred 2), [⟨[1, 2], 2⟩, ⟨[3], 1⟩]) := by
  refine converses_writeMany.mpr ?_
  exact (ends_of_settles ⟨[], rfl, nofun, rfl⟩ rfl _).mpr rfl

theorem fits_behind :
    ∀ window ∈ ([⟨[1, 2], 0⟩, ⟨[3], 5⟩] : List Window), window.Fits := by
  simp [Fits, UInt64.size]

theorem transfers_leave_behind :
    (∀ window ∈ ([⟨[1, 2], 0⟩, ⟨[3], 5⟩] : List Window), window.Fits) ∧
    Leaves [⟨[1, 2], 0⟩, ⟨[3], 5⟩]
      ((Call.writeMany 3 [[1, 2], []]).exchanges [.ok 2])
      (.ok (.transferred 2)) [⟨[1, 2], 2⟩, ⟨[3], 1⟩] :=
  ⟨fits_behind, transfers_leave fits_behind 3 (.inr converses_behind)⟩

/-- The window that gave nothing has been moved back. -/
theorem position_moved_back : ¬∀ (fd : Fd) (windows onward : List Window)
    (exchanges : List Exchange) (outcome : Except OsError IoStatus),
    (∀ window ∈ windows, window.Fits) →
    (Socket.writeMany fd windows).Converses exchanges (outcome, onward) →
    List.Forall₂ (fun window onward =>
      window.position.toNat ≤ onward.position.toNat) windows onward := by
  intro h
  have forward := h 3 _ _ _ _ fits_behind converses_behind
  simp at forward

end Behind

end Socket

end LocalSocket
