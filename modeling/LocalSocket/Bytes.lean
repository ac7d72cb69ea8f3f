/-!
# Byte strings

Paths, records and transferred data are finite byte strings.  They are kept as
lists, so that "the remaining part", "written over" and "concatenated" are the
list operations of the same meaning.
-/

namespace LocalSocket

abbrev Bytes := List UInt8

def total (sizes : List Nat) : Nat :=
  sizes.foldr (· + ·) 0

namespace Bytes

def ofString (text : String) : Bytes :=
  text.toList.flatMap String.utf8EncodeChar

def zeros (count : Nat) : Bytes :=
  List.replicate count 0

/-- `bytes` extended with zeros to `size`; longer strings are returned as they
are. -/
def padTo (size : Nat) (bytes : Bytes) : Bytes :=
  bytes ++ zeros (size - bytes.length)

@[simp] theorem length_zeros (count : Nat) : (zeros count).length = count := by
  simp [zeros]

theorem length_padTo {size : Nat} {bytes : Bytes} (h : bytes.length ≤ size) :
    (padTo size bytes).length = size := by
  simp [padTo]; omega

end Bytes

end LocalSocket
