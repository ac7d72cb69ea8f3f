import LocalSocket.Bytes

/-!
# Reading bytes as UTF-8

A byte string is read as a list of pieces: characters, and ill-formed sequences
in between.  An ill-formed sequence is as long as some well-formed sequence
could still have continued it, which is the unit that one replacement character
stands for.
-/

namespace LocalSocket.Text

inductive Piece where
  | char (c : Char)
  | illFormed (bytes : Bytes)
  deriving DecidableEq, Repr

namespace Piece

def toChar : Piece → Char
  | .char c => c
  | .illFormed _ => '\uFFFD'

def char? : Piece → Option Char
  | .char c => some c
  | .illFormed _ => none

end Piece

/-- What a lead byte announces: how many bytes follow, the bounds of the first
of them, and the bits that the lead byte itself contributes. -/
structure Lead where
  following : Nat
  low : UInt8
  high : UInt8
  bits : Nat
  deriving DecidableEq, Repr

/-- `none` for a byte that starts no sequence.  The narrowed bounds exclude
overlong forms, surrogates, and values above `0x10ffff`. -/
def lead? (byte : UInt8) : Option Lead :=
  let value := byte.toNat
  if value < 0x80 then some ⟨0, 0x80, 0xbf, value⟩
  else if value < 0xc2 then none
  else if value < 0xe0 then some ⟨1, 0x80, 0xbf, value - 0xc0⟩
  else if value = 0xe0 then some ⟨2, 0xa0, 0xbf, 0⟩
  else if value = 0xed then some ⟨2, 0x80, 0x9f, 0xd⟩
  else if value < 0xf0 then some ⟨2, 0x80, 0xbf, value - 0xe0⟩
  else if value = 0xf0 then some ⟨3, 0x90, 0xbf, 0⟩
  else if value < 0xf4 then some ⟨3, 0x80, 0xbf, value - 0xf0⟩
  else if value = 0xf4 then some ⟨3, 0x80, 0x8f, 4⟩
  else none

/-- The longest run of bytes, at most `count`, that can follow a lead byte whose
next byte is bounded by `low` and `high`. -/
def continuation : Nat → UInt8 → UInt8 → Bytes → Bytes
  | 0, _, _, _ => []
  | _ + 1, _, _, [] => []
  | count + 1, low, high, byte :: rest =>
      if low ≤ byte ∧ byte ≤ high then
        byte :: continuation count 0x80 0xbf rest
      else
        []

def codePoint (bits : Nat) (following : Bytes) : Nat :=
  following.foldl (fun value byte => value * 64 + byte.toNat % 64) bits

def pieces : Bytes → List Piece
  | [] => []
  | byte :: rest =>
      match lead? byte with
      | none => .illFormed [byte] :: pieces rest
      | some lead =>
          let tail := continuation lead.following lead.low lead.high rest
          if tail.length = lead.following then
            .char (Char.ofNat (codePoint lead.bits tail)) ::
              pieces (rest.drop tail.length)
          else
            .illFormed (byte :: tail) :: pieces (rest.drop tail.length)
  termination_by bytes => bytes.length
  decreasing_by all_goals grind

def lossy (bytes : Bytes) : String :=
  String.ofList ((pieces bytes).map Piece.toChar)

def utf8? (bytes : Bytes) : Option String :=
  ((pieces bytes).mapM Piece.char?).map String.ofList

end LocalSocket.Text
