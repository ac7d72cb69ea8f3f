import LocalSocket.Bytes

/-!
# Windows

A window is a buffer with a position.  Transfers work on the remaining part,
from the position to the end, and advance the position by what they moved.
Positions may lie beyond the end; nothing remains then.

Several windows are one transfer over the concatenation of their remaining
parts.
-/

namespace LocalSocket

structure Window where
  buffer : Bytes
  position : UInt64
  deriving DecidableEq, Repr

namespace Window

def start (window : Window) : Nat :=
  min window.position.toNat window.buffer.length

def remaining (window : Window) : Bytes :=
  window.buffer.drop window.start

def room (window : Window) : Nat :=
  window.buffer.length - window.start

def isExhausted (window : Window) : Bool :=
  window.start == window.buffer.length

def advance (window : Window) (count : Nat) : Window :=
  { window with position := UInt64.ofNat (window.start + count) }

/-- Writes `data` over the start of the remaining part; what does not fit is
dropped. -/
def fill (window : Window) (data : Bytes) : Window :=
  let data := data.take window.room
  { window with
    buffer := window.buffer.take window.start ++ data ++
      window.buffer.drop (window.start + data.length) }

theorem length_remaining (window : Window) :
    window.remaining.length = window.room := by
  simp [remaining, room]

theorem start_le (window : Window) : window.start ≤ window.buffer.length :=
  Nat.min_le_right _ _

/-! ## Several windows -/

def advanceAll : List Window → Nat → List Window
  | [], _ => []
  | window :: rest, count =>
      let taken := min count window.room
      window.advance taken :: advanceAll rest (count - taken)

/-- Writes `data` over the remaining parts in order; an earlier part is full
before a later one receives anything. -/
def fillAll : List Window → Bytes → List Window
  | [], _ => []
  | window :: rest, data =>
      window.fill (data.take window.room) ::
        fillAll rest (data.drop window.room)

theorem length_advanceAll (windows : List Window) (count : Nat) :
    (advanceAll windows count).length = windows.length := by
  induction windows generalizing count with
  | nil => rfl
  | cons window rest ih => simp [advanceAll, ih]

theorem length_fillAll (windows : List Window) (data : Bytes) :
    (fillAll windows data).length = windows.length := by
  induction windows generalizing data with
  | nil => rfl
  | cons window rest ih => simp [fillAll, ih]

end Window

end LocalSocket
