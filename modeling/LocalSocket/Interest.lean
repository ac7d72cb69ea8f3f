/-!
# Interest and events

A selector is told which operations a program is interested in, waits for the
matching events on the descriptor, and is told by the events which operations
are ready.
-/

namespace LocalSocket

structure Interest where
  bits : UInt8
  deriving DecidableEq, Repr

abbrev Events := Int16

namespace Events

def readable : Events := 0x1
def writable : Events := 0x4
def error : Events := 0x8
def hangUp : Events := 0x10
def invalid : Events := 0x20

def meets (events mask : Events) : Bool :=
  events &&& mask != 0

end Events

namespace Interest

def read : Interest := ⟨1⟩
def write : Interest := ⟨4⟩
def connect : Interest := ⟨8⟩
def none : Interest := ⟨0⟩

def union (a b : Interest) : Interest := ⟨a.bits ||| b.bits⟩
def inter (a b : Interest) : Interest := ⟨a.bits &&& b.bits⟩

def isEmpty (interest : Interest) : Bool :=
  interest.bits == 0

def contains (interest other : Interest) : Bool :=
  interest.bits &&& other.bits == other.bits

def text (interest : Interest) : String :=
  let names :=
    [(read, "READ"), (write, "WRITE"), (connect, "CONNECT")].filterMap
      fun (operation, name) =>
      if interest.contains operation then some name else Option.none
  if names.isEmpty then "(none)" else String.intercalate "|" names

/-- The events to wait for.  Connecting and writing both wait until the
descriptor is writable. -/
def events (interest : Interest) : Events :=
  (if interest.contains read then Events.readable else 0) |||
    (if interest.contains write || interest.contains connect then
      Events.writable else 0)

end Interest

end LocalSocket
