import LocalSocket.Call

/-!
# The state of a channel

What the threads that use a channel share: two flags that any thread may read,
fields that are only touched while the state lock is held, and three locks.
-/

namespace LocalSocket

/-- The lifecycle of a channel, in ascending order. -/
inductive Lifecycle where
  /-- No socket has been created. -/
  | uninitialized
  | unconnected
  /-- A connection attempt is under way. -/
  | connecting
  | connected
  /-- Closed, but the descriptor is still in use; its last user releases it. -/
  | killPending
  /-- The descriptor has been released. -/
  | killed
  deriving DecidableEq, Repr

namespace Lifecycle

def rank : Lifecycle → Int
  | uninitialized => -1
  | unconnected => 0
  | connecting => 1
  | connected => 2
  | killPending => 3
  | killed => 4

def name : Lifecycle → String
  | uninitialized => "Uninitialized"
  | unconnected => "Unconnected"
  | connecting => "Connecting"
  | connected => "Connected"
  | killPending => "KillPending"
  | killed => "Killed"

end Lifecycle

inductive Direction where
  | input | output
  deriving DecidableEq, Repr

structure Fields where
  state : Lifecycle
  /-- The descriptor, until its release has been started. -/
  holder : Option Fd
  localAddress : Option Address := none
  remoteAddress : Option Address := none
  inputOpen : Bool := true
  outputOpen : Bool := true
  /-- The thread inside a call that reads, connects or polls. -/
  reader : Option Thread := none
  /-- The thread inside a call that writes. -/
  writer : Option Thread := none
  /-- How many selectors hold a registration. -/
  registrations : Nat := 0
  deriving DecidableEq, Repr

namespace Fields

def uninitialized : Fields where
  state := .uninitialized
  holder := none

/-- The threads inside a call on the descriptor, the reader first. -/
def threads (fields : Fields) : List Thread :=
  fields.reader.toList ++ fields.writer.toList

def isUsed (fields : Fields) : Bool :=
  !fields.threads.isEmpty || fields.registrations != 0

def slot (fields : Fields) : Direction → Option Thread
  | .input => fields.reader
  | .output => fields.writer

def setSlot (fields : Fields) (direction : Direction) (thread : Option Thread) :
    Fields :=
  match direction with
  | .input => { fields with reader := thread }
  | .output => { fields with writer := thread }

def isDirectionOpen (fields : Fields) : Direction → Bool
  | .input => fields.inputOpen
  | .output => fields.outputOpen

def shutDirection (fields : Fields) : Direction → Fields
  | .input => { fields with inputOpen := false }
  | .output => { fields with outputOpen := false }

section ShutDirection

variable (fields : Fields) (direction : Direction)

@[simp] theorem shutDirection_state :
    (fields.shutDirection direction).state = fields.state := by
  cases direction <;> rfl

@[simp] theorem shutDirection_holder :
    (fields.shutDirection direction).holder = fields.holder := by
  cases direction <;> rfl

@[simp] theorem shutDirection_reader :
    (fields.shutDirection direction).reader = fields.reader := by
  cases direction <;> rfl

@[simp] theorem shutDirection_writer :
    (fields.shutDirection direction).writer = fields.writer := by
  cases direction <;> rfl

@[simp] theorem shutDirection_registrations :
    (fields.shutDirection direction).registrations = fields.registrations := by
  cases direction <;> rfl

end ShutDirection

section SetSlot

variable (fields : Fields) (direction : Direction) (thread : Option Thread)

@[simp] theorem setSlot_state :
    (fields.setSlot direction thread).state = fields.state := by
  cases direction <;> rfl

@[simp] theorem setSlot_holder :
    (fields.setSlot direction thread).holder = fields.holder := by
  cases direction <;> rfl

@[simp] theorem setSlot_registrations :
    (fields.setSlot direction thread).registrations = fields.registrations := by
  cases direction <;> rfl

theorem slot_setSlot (other : Direction) :
    (fields.setSlot direction thread).slot other =
      if other = direction then thread else fields.slot other := by
  cases direction <;> cases other <;> rfl

end SetSlot

end Fields

/-- The locks of a channel, in the order in which they may be taken. -/
inductive Lock where
  /-- Held while reading, polling and connecting. -/
  | read
  /-- Held while writing and connecting. -/
  | write
  /-- Held while the fields are in use. -/
  | state
  deriving DecidableEq, Repr

def Direction.lock : Direction → Lock
  | .input => .read
  | .output => .write

structure Locks where
  read : Option Thread := none
  write : Option Thread := none
  state : Option Thread := none
  deriving DecidableEq, Repr

namespace Locks

def holder (locks : Locks) : Lock → Option Thread
  | .read => locks.read
  | .write => locks.write
  | .state => locks.state

def setHolder (locks : Locks) (lock : Lock) (thread : Option Thread) : Locks :=
  match lock with
  | .read => { locks with read := thread }
  | .write => { locks with write := thread }
  | .state => { locks with state := thread }

theorem holder_setHolder (locks : Locks) (lock other : Lock)
    (thread : Option Thread) :
    (locks.setHolder lock thread).holder other =
      if other = lock then thread else locks.holder other := by
  cases lock <;> cases other <;> rfl

variable {locks : Locks} {lock : Lock} {thread holder : Thread}

/-- Taking a free lock leaves the others with those who hold them. -/
theorem holder_of_taken (free : locks.holder lock = none) (other : Lock)
    (held : locks.holder other = some holder) :
    (locks.setHolder lock (some thread)).holder other = some holder := by
  rw [holder_setHolder, if_neg]
  · exact held
  · rintro rfl
    cases free.symm.trans held

/-- Giving up a lock leaves those of the other threads with them. -/
theorem holder_of_given (taken : locks.holder lock = some thread)
    (apart : holder ≠ thread) (other : Lock)
    (held : locks.holder other = some holder) :
    (locks.setHolder lock none).holder other = some holder := by
  rw [holder_setHolder, if_neg]
  · exact held
  · rintro rfl
    exact apart (Option.some.inj (held.symm.trans taken))

end Locks

structure Channel where
  isOpen : Bool
  isBlocking : Bool
  fields : Fields
  locks : Locks := {}
  deriving DecidableEq, Repr

namespace Channel

def uninitialized : Channel where
  isOpen := false
  isBlocking := true
  fields := .uninitialized

/-- A channel that owns the descriptor `fd`. -/
def owning (fd : Fd) (state : Lifecycle) (blocking : Bool) : Channel where
  isOpen := true
  isBlocking := blocking
  fields := { state := state, holder := some fd }

end Channel

end LocalSocket
