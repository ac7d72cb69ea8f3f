import LocalSocket.Window
import Mathlib.Data.List.Basic

/-!
# Bytes that pass through windows

Filling the start of the remaining part and moving on behind it is a single
step, `pass`. Passing bytes in portions is passing them at once, and between
where a window was and where it is then stand the bytes that have passed.
Sending is a special case: it passes the bytes that are there already.
-/

namespace LocalSocket

namespace Window

/-- The position is in the buffer, and the buffer fits into memory. -/
structure IsSound (window : Window) : Prop where
  within : window.position.toNat ≤ window.buffer.length
  fits : window.buffer.length < UInt64.size

def pass (window : Window) (data : Bytes) : Window :=
  (window.fill data).advance data.length

/-- What stands between the position of a window and where it has moved on
to. -/
def crossed (window onward : Window) : Bytes :=
  (onward.buffer.take onward.position.toNat).drop window.position.toNat

/-- A window that has moved on, with nothing changed but what it has crossed. -/
structure Follows (onward window : Window) : Prop where
  sound : onward.IsSound
  forward : window.position.toNat ≤ onward.position.toNat
  length : onward.buffer.length = window.buffer.length
  before : onward.buffer.take window.position.toNat =
    window.buffer.take window.position.toNat
  beyond : onward.buffer.drop onward.position.toNat =
    window.buffer.drop onward.position.toNat

variable {window : Window} {data more : Bytes}

theorem IsSound.start_eq (h : window.IsSound) :
    window.start = window.position.toNat :=
  Nat.min_eq_left h.within

theorem IsSound.room_eq (h : window.IsSound) :
    window.room = window.buffer.length - window.position.toNat := by
  rw [room, h.start_eq]

theorem IsSound.remaining_eq (h : window.IsSound) :
    window.remaining = window.buffer.drop window.position.toNat := by
  rw [remaining, h.start_eq]

theorem length_fill (window : Window) (data : Bytes) :
    (window.fill data).buffer.length = window.buffer.length := by
  have hstart := window.start_le
  simp only [fill, room, List.length_append, List.length_take, List.length_drop]
  omega

theorem start_fill (window : Window) (data : Bytes) :
    (window.fill data).start = window.start := by
  rw [start, length_fill]
  rfl

theorem room_fill (window : Window) (data : Bytes) :
    (window.fill data).room = window.room := by
  rw [room, start_fill, length_fill, room]

theorem length_pass (window : Window) (data : Bytes) :
    (window.pass data).buffer.length = window.buffer.length := by
  simp only [pass, advance, length_fill]

theorem IsSound.length_before (sound : window.IsSound) :
    (window.buffer.take window.position.toNat).length =
    window.position.toNat := by
  rw [List.length_take]
  exact Nat.min_eq_left sound.within

theorem IsSound.length_stored (sound : window.IsSound) (data : Bytes) :
    (window.buffer.take window.position.toNat ++ data).length =
      window.position.toNat + data.length := by
  rw [List.length_append, sound.length_before]

section Sound

variable (sound : window.IsSound) (hdata : data.length ≤ window.room)

include sound hdata

theorem position_pass :
    (window.pass data).position.toNat =
    window.position.toNat + data.length := by
  have hfits := sound.fits
  have hwithin := sound.within
  have hroom := sound.room_eq
  have hsize : UInt64.size = 18446744073709551616 := rfl
  simp only [pass, advance, start_fill, sound.start_eq, UInt64.toNat_ofNat']
  omega

theorem buffer_pass : (window.pass data).buffer =
    window.buffer.take window.position.toNat ++ data ++
      window.buffer.drop (window.position.toNat + data.length) := by
  simp only [pass, advance, fill, sound.start_eq, List.take_of_length_le hdata]

theorem IsSound.pass : (window.pass data).IsSound := by
  have hroom := sound.room_eq
  have hwithin := sound.within
  constructor
  · rw [position_pass sound hdata, length_pass]
    omega
  · rw [length_pass]
    exact sound.fits

theorem room_pass : (window.pass data).room = window.room - data.length := by
  rw [(sound.pass hdata).room_eq, position_pass sound hdata, length_pass,
    sound.room_eq]
  omega

theorem crossed_pass : crossed window (window.pass data) = data := by
  rw [crossed, position_pass sound hdata, buffer_pass sound hdata,
    List.take_left' (sound.length_stored data)]
  exact List.drop_left' sound.length_before

theorem pass_follows : (window.pass data).Follows window := by
  refine ⟨sound.pass hdata, ?_, length_pass _ _, ?_, ?_⟩
  · rw [position_pass sound hdata]
    omega
  · rw [buffer_pass sound hdata, List.append_assoc]
    exact List.take_left' sound.length_before
  · rw [position_pass sound hdata, buffer_pass sound hdata]
    exact List.drop_left' (sound.length_stored data)

end Sound

theorem IsSound.pass_nil (sound : window.IsSound) :
    window.pass [] = window := by
  have hposition : UInt64.ofNat window.position.toNat = window.position :=
    UInt64.ofNat_toNat
  simp [Window.pass, advance, sound.start_eq, hposition, fill]

theorem pass_pass (sound : window.IsSound)
    (h : data.length + more.length ≤ window.room) :
    (window.pass data).pass more = window.pass (data ++ more) := by
  have hdata : data.length ≤ window.room := by omega
  have hmore : more.length ≤ (window.pass data).room := by
    rw [room_pass sound hdata]
    omega
  have hboth : (data ++ more).length ≤ window.room := by
    rw [List.length_append]
    exact h
  -- the positions add up, and the second part is written right behind the first
  have hposition :
      ((window.pass data).pass more).position =
      (window.pass (data ++ more)).position := by
    apply UInt64.toNat_inj.mp
    rw [position_pass (sound.pass hdata) hmore, position_pass sound hdata,
      position_pass sound hboth, List.length_append]
    omega
  have hbuffer : ((window.pass data).pass more).buffer =
      (window.pass (data ++ more)).buffer := by
    rw [buffer_pass (sound.pass hdata) hmore, position_pass sound hdata,
      buffer_pass sound hdata, buffer_pass sound hboth,
      List.take_left' (sound.length_stored data), ← List.drop_drop,
      List.drop_left' (sound.length_stored data), List.drop_drop,
      List.length_append]
    simp [Nat.add_assoc]
  cases hfirst : (window.pass data).pass more
  cases hboth' : window.pass (data ++ more)
  rw [hfirst, hboth'] at hposition hbuffer
  cases hposition
  cases hbuffer
  rfl

theorem fill_remaining (window : Window) (count : Nat) :
    window.fill (window.remaining.take count) = window := by
  have hlength : (window.remaining.take count).length ≤ window.room := by
    rw [List.length_take, length_remaining]
    omega
  have hbuffer :
      window.buffer.take window.start ++ window.remaining.take count ++
      window.buffer.drop (window.start + (window.remaining.take count).length) =
        window.buffer := by
    have hdrop : window.buffer.drop
        (window.start + (window.remaining.take count).length) =
        window.remaining.drop (window.remaining.take count).length := by
      rw [remaining, List.drop_drop]
    have hsplit := List.take_append_drop count window.remaining
    rw [hdrop, List.length_take, List.append_assoc]
    by_cases hcount : count ≤ window.remaining.length
    · rw [Nat.min_eq_left hcount, hsplit, remaining, List.take_append_drop]
    · have hle : window.remaining.length ≤ count := by omega
      rw [Nat.min_eq_right hle, List.take_of_length_le hle, List.drop_length,
        List.append_nil, remaining, List.take_append_drop]
  simp only [fill, List.take_of_length_le hlength, hbuffer]

/-! ## Several windows -/

def roomAll (windows : List Window) : Nat :=
  total (windows.map room)

def remainingAll (windows : List Window) : Bytes :=
  windows.flatMap remaining

/-- Passes each window its share of `data`, the first windows first. -/
def passAll : List Window → Bytes → List Window
  | [], _ => []
  | window :: rest, data =>
      window.pass (data.take window.room) ::
        passAll rest (data.drop window.room)

/-- What stands between the positions of windows and where they have moved on
to. -/
def crossedAll (windows onward : List Window) : Bytes :=
  (List.zipWith crossed windows onward).flatten

@[simp] theorem roomAll_nil : roomAll [] = 0 := rfl

@[simp] theorem roomAll_cons (window : Window) (rest : List Window) :
    roomAll (window :: rest) = window.room + roomAll rest := rfl

@[simp] theorem remainingAll_cons (window : Window) (rest : List Window) :
    remainingAll (window :: rest) = window.remaining ++ remainingAll rest := by
  simp [remainingAll]

theorem length_remainingAll (windows : List Window) :
    (remainingAll windows).length = roomAll windows := by
  induction windows with
  | nil => rfl
  | cons window rest ih =>
      rw [remainingAll_cons, List.length_append, length_remaining, ih,
        roomAll_cons]

theorem roomAll_append (windows more : List Window) :
    roomAll (windows ++ more) = roomAll windows + roomAll more := by
  rw [← length_remainingAll, ← length_remainingAll windows,
    ← length_remainingAll more, remainingAll, List.flatMap_append,
    List.length_append]
  rfl

theorem roomAll_of_isExhausted {windows : List Window}
    (h : ∀ window ∈ windows, window.isExhausted = true) :
    roomAll windows = 0 := by
  induction windows with
  | nil => rfl
  | cons window rest ih =>
      obtain ⟨hwindow, hrest⟩ := List.forall_mem_cons.mp h
      have hroom : window.room = 0 := by
        rw [room, eq_of_beq hwindow]
        exact Nat.sub_self _
      rw [roomAll_cons, hroom, ih hrest]

theorem passAll_append (windows more : List Window) (data : Bytes) :
    passAll (windows ++ more) data =
      passAll windows (data.take (roomAll windows)) ++
        passAll more (data.drop (roomAll windows)) := by
  induction windows generalizing data with
  | nil => simp [passAll]
  | cons window rest ih =>
      have hshare : (data.take (window.room + roomAll rest)).take window.room =
          data.take window.room := by
        rw [List.take_take, Nat.min_eq_left (Nat.le_add_right _ _)]
      have hrest : (data.take (window.room + roomAll rest)).drop window.room =
          (data.drop window.room).take (roomAll rest) := by
        rw [List.drop_take, Nat.add_sub_cancel_left]
      rw [List.cons_append, passAll, ih, roomAll_cons, passAll, hshare, hrest,
        List.drop_drop, List.cons_append]

theorem advanceAll_fillAll (windows : List Window) (data : Bytes) :
    advanceAll (fillAll windows data) data.length = passAll windows data := by
  induction windows generalizing data with
  | nil => rfl
  | cons window rest ih =>
      have hshare : min data.length window.room =
          (data.take window.room).length := by
        rw [List.length_take]
        omega
      have hrest : data.length - (data.take window.room).length =
          (data.drop window.room).length := by
        rw [List.length_take, List.length_drop]
        omega
      simp only [fillAll, advanceAll, passAll, room_fill, hshare, hrest, ih]
      rfl

theorem length_passAll (windows : List Window) (data : Bytes) :
    (passAll windows data).length = windows.length := by
  rw [← advanceAll_fillAll, length_advanceAll, length_fillAll]

/-- To advance is to pass what remains. -/
theorem advanceAll_eq (windows : List Window) (count : Nat) :
    advanceAll windows count = passAll windows
      ((remainingAll windows).take count) := by
  induction windows generalizing count with
  | nil => rfl
  | cons window rest ih =>
      have hshare :
          ((window.remaining ++ remainingAll rest).take count).take
            window.room =
          window.remaining.take count := by
        rw [List.take_take, Nat.min_comm, ← List.take_take,
          List.take_left' window.length_remaining]
      have hrest :
          ((window.remaining ++ remainingAll rest).take count).drop
            window.room =
          (remainingAll rest).take (count - window.room) := by
        rw [List.drop_take, List.drop_left' window.length_remaining]
      have hcount : count - min count window.room = count - window.room := by
        omega
      rw [remainingAll_cons, passAll, hshare, hrest, advanceAll, hcount, ih,
        pass, fill_remaining, List.length_take, length_remaining]

theorem buffer_advanceAll (windows : List Window) (count : Nat) :
    (advanceAll windows count).map buffer = windows.map buffer := by
  induction windows generalizing count with
  | nil => rfl
  | cons window rest ih => simp [advanceAll, advance, ih]

theorem buffer_passAll {windows : List Window} {data : Bytes}
    (h : data <+: remainingAll windows) :
    (passAll windows data).map buffer = windows.map buffer := by
  rw [List.prefix_iff_eq_take.mp h, ← advanceAll_eq, buffer_advanceAll]

section SoundAll

variable {windows : List Window} (sound : ∀ window ∈ windows, window.IsSound)

include sound

theorem passAll_nil : passAll windows [] = windows := by
  induction windows with
  | nil => rfl
  | cons window rest ih =>
      obtain ⟨hwindow, hrest⟩ := List.forall_mem_cons.mp sound
      simp [passAll, hwindow.pass_nil, ih hrest]

theorem isSound_passAll (data : Bytes) :
    ∀ window ∈ passAll windows data, window.IsSound := by
  induction windows generalizing data with
  | nil => exact sound
  | cons window rest ih =>
      obtain ⟨hwindow, hrest⟩ := List.forall_mem_cons.mp sound
      rw [passAll, List.forall_mem_cons]
      exact ⟨hwindow.pass (List.length_take_le _ _), ih hrest _⟩

theorem passAll_passAll {data more : Bytes}
    (h : data.length + more.length ≤ roomAll windows) :
    passAll (passAll windows data) more = passAll windows (data ++ more) := by
  induction windows generalizing data more with
  | nil => rfl
  | cons window rest ih =>
      obtain ⟨hwindow, hrest⟩ := List.forall_mem_cons.mp sound
      have hshare : (data.take window.room).length ≤ window.room :=
        List.length_take_le _ _
      -- what the first portion leaves of this window is filled by the second
      have hroom : (window.pass (data.take window.room)).room =
          window.room - data.length := by
        rw [room_pass hwindow hshare, List.length_take]
        omega
      rw [roomAll_cons] at h
      have hfirst : (data.take window.room).length +
          (more.take (window.room - data.length)).length ≤ window.room := by
        rw [List.length_take, List.length_take]
        omega
      have hlater : (data.drop window.room).length +
          (more.drop (window.room - data.length)).length ≤ roomAll rest := by
        rw [List.length_drop, List.length_drop]
        omega
      simp only [passAll, hroom, pass_pass hwindow hfirst, ih hrest hlater,
        List.take_append, List.drop_append]

theorem crossedAll_passAll {data : Bytes} (h : data.length ≤ roomAll windows) :
    crossedAll windows (passAll windows data) = data := by
  induction windows generalizing data with
  | nil =>
      have hnil : data = [] := by simpa using h
      rw [hnil]
      rfl
  | cons window rest ih =>
      obtain ⟨hwindow, hrest⟩ := List.forall_mem_cons.mp sound
      have hlater : (data.drop window.room).length ≤ roomAll rest := by
        rw [List.length_drop]
        rw [roomAll_cons] at h
        omega
      have hih := ih hrest hlater
      rw [crossedAll] at hih ⊢
      rw [passAll, List.zipWith_cons_cons, List.flatten_cons, hih,
        crossed_pass hwindow (List.length_take_le _ _), List.take_append_drop]

theorem passAll_follows (data : Bytes) :
    List.Forall₂ Follows (passAll windows data) windows := by
  induction windows generalizing data with
  | nil => exact .nil
  | cons window rest ih =>
      obtain ⟨hwindow, hrest⟩ := List.forall_mem_cons.mp sound
      exact .cons (pass_follows hwindow (List.length_take_le _ _)) (ih hrest _)

theorem remainingAll_passAll (data : Bytes) :
    remainingAll (passAll windows data) =
      (remainingAll windows).drop data.length := by
  induction windows generalizing data with
  | nil => simp [passAll, remainingAll]
  | cons window rest ih =>
      obtain ⟨hwindow, hrest⟩ := List.forall_mem_cons.mp sound
      have hshare : (data.take window.room).length ≤ window.room :=
        List.length_take_le _ _
      have hremaining : (window.pass (data.take window.room)).remaining =
          window.remaining.drop data.length := by
        rw [(hwindow.pass hshare).remaining_eq,
          (pass_follows hwindow hshare).beyond, position_pass hwindow hshare,
          hwindow.remaining_eq, List.drop_drop, List.length_take]
        by_cases hle : data.length ≤ window.room
        · rw [Nat.min_eq_right hle]
        · have hend : window.buffer.length ≤
              window.position.toNat + window.room := by
            rw [hwindow.room_eq]
            omega
          rw [Nat.min_eq_left (by omega), List.drop_eq_nil_of_le hend,
            List.drop_eq_nil_of_le]
          omega
      rw [passAll, remainingAll_cons, remainingAll_cons, hremaining, ih hrest,
        List.length_drop, List.drop_append, length_remaining]

theorem roomAll_passAll (data : Bytes) :
    roomAll (passAll windows data) = roomAll windows - data.length := by
  rw [← length_remainingAll, remainingAll_passAll sound, List.length_drop,
    length_remainingAll]

end SoundAll

end Window

end LocalSocket
