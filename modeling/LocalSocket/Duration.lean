/-!
# Durations

A span of time in whole seconds and nanoseconds, and its conversions to the
millisecond counts that system calls and option values use.
-/

namespace LocalSocket

structure Duration where
  seconds : Nat
  nanos : Nat
  deriving DecidableEq, Repr

def intMax : Nat := 0x7fffffff

namespace Duration

def zero : Duration := ⟨0, 0⟩

def ofMillis (millis : Nat) : Duration :=
  ⟨millis / 1000, millis % 1000 * 1000000⟩

def toNanos (duration : Duration) : Nat :=
  duration.seconds * 1000000000 + duration.nanos

def toMillis (duration : Duration) : Nat :=
  duration.toNanos / 1000000

/-- The milliseconds to wait for: rounded up, so that a short wait is still a
wait, and at most the largest value that a system call takes. -/
def timeoutMillis (duration : Duration) : Nat :=
  min ((duration.toNanos + 999999) / 1000000) intMax

theorem toMillis_ofMillis (millis : Nat) :
    (ofMillis millis).toMillis = millis := by
  simp only [ofMillis, toMillis, toNanos]
  omega

end Duration

end LocalSocket
