import LocalSocket.Text.Utf8

/-!
# Reading what was written as UTF-8, and writing what was read

Well-formed bytes are those that some text is written as.  Reading gives that
text back, and whatever is read, also from ill-formed bytes, is made of pieces
that together are the bytes again.
-/

namespace LocalSocket

namespace Text

/-- A byte after the lead byte of a sequence carries six bits. -/
def follower (value : Nat) : UInt8 :=
  UInt8.ofNat (value % 64 + 0x80)

theorem toNat_follower (value : Nat) :
    (follower value).toNat = value % 64 + 0x80 := by
  simp [follower]
  omega

@[simp] theorem continuation_zero (low high : UInt8) (rest : Bytes) :
    continuation 0 low high rest = [] := by
  simp [continuation]

theorem continuation_cons {low high byte : UInt8} (count : Nat) (rest : Bytes)
    (bounds : low.toNat ≤ byte.toNat ∧ byte.toNat ≤ high.toNat) :
    continuation (count + 1) low high (byte :: rest) =
      byte :: continuation count 0x80 0xbf rest := by
  simp [continuation, UInt8.le_iff_toNat_le, bounds]

theorem continuation_follower (count value : Nat) (rest : Bytes) :
    continuation (count + 1) 0x80 0xbf (follower value :: rest) =
      follower value :: continuation count 0x80 0xbf rest := by
  apply continuation_cons
  have := toNat_follower value
  simp
  omega

/-- What a complete run of following bytes begins with. -/
theorem continuation_complete {low high : UInt8} {count : Nat} {bytes : Bytes}
    (complete : (continuation (count + 1) low high bytes).length = count + 1) :
    ∃ byte rest, bytes = byte :: rest ∧
      low.toNat ≤ byte.toNat ∧ byte.toNat ≤ high.toNat ∧
      continuation (count + 1) low high bytes =
        byte :: continuation count 0x80 0xbf rest ∧
      (continuation count 0x80 0xbf rest).length = count := by
  cases bytes with
  | nil => simp [continuation] at complete
  | cons byte rest =>
      rw [continuation] at complete ⊢
      split at complete
      · rename_i bounds
        simp only [UInt8.le_iff_toNat_le] at bounds
        exact ⟨byte, rest, rfl, bounds.1, bounds.2,
          by simp [UInt8.le_iff_toNat_le, bounds], by simpa using complete⟩
      · simp at complete

@[simp] theorem codePoint_nil (bits : Nat) : codePoint bits [] = bits := by
  simp [codePoint]

@[simp] theorem codePoint_cons (bits : Nat) (byte : UInt8) (rest : Bytes) :
    codePoint bits (byte :: rest) =
      codePoint (bits * 64 + byte.toNat % 64) rest := by
  simp [codePoint]

theorem follower_mod (value : Nat) :
    (follower value).toNat % 64 = value % 64 := by
  rw [toNat_follower]
  omega

/-!
## What was written is read back
-/

theorem lead?_one {value : Nat} (high : value < 0x80) :
    lead? (UInt8.ofNat value) = some ⟨0, 0x80, 0xbf, value⟩ := by
  have : (UInt8.ofNat value).toNat = value := by simp; omega
  simp only [lead?, this]
  grind

theorem lead?_two {value : Nat} (low : 0x80 ≤ value) (high : value < 0x800) :
    lead? (UInt8.ofNat (value / 64 + 0xc0)) =
      some ⟨1, 0x80, 0xbf, value / 64⟩ := by
  have : (UInt8.ofNat (value / 64 + 0xc0)).toNat = value / 64 + 0xc0 := by
    simp; omega
  simp only [lead?, this]
  grind

/-- The bounds that keep overlong forms and surrogates out let the second byte
of every character through. -/
theorem lead?_three {value : Nat} (low : 0x800 ≤ value)
    (high : value < 0x10000) (scalar : value < 0xd800 ∨ 0xdfff < value) :
    ∃ low high, lead? (UInt8.ofNat (value / 4096 + 0xe0)) =
        some ⟨2, low, high, value / 4096⟩ ∧
      low.toNat ≤ value / 64 % 64 + 0x80 ∧
      value / 64 % 64 + 0x80 ≤ high.toNat := by
  have : (UInt8.ofNat (value / 4096 + 0xe0)).toNat = value / 4096 + 0xe0 := by
    simp; omega
  simp only [lead?, this]
  obtain overlong | surrogate | plain : value / 4096 = 0 ∨ value / 4096 = 13 ∨
      (value / 4096 ≠ 0 ∧ value / 4096 ≠ 13) := by omega
  · exact ⟨0xa0, 0xbf, by grind⟩
  · exact ⟨0x80, 0x9f, by grind⟩
  · exact ⟨0x80, 0xbf, by grind⟩

theorem lead?_four {value : Nat} (low : 0x10000 ≤ value)
    (high : value < 0x110000) :
    ∃ low high, lead? (UInt8.ofNat (value / 262144 + 0xf0)) =
        some ⟨3, low, high, value / 262144⟩ ∧
      low.toNat ≤ value / 4096 % 64 + 0x80 ∧
      value / 4096 % 64 + 0x80 ≤ high.toNat := by
  have : (UInt8.ofNat (value / 262144 + 0xf0)).toNat =
      value / 262144 + 0xf0 := by
    simp; omega
  simp only [lead?, this]
  obtain overlong | last | plain : value / 262144 = 0 ∨ value / 262144 = 4 ∨
      (value / 262144 ≠ 0 ∧ value / 262144 ≠ 4) := by omega
  · exact ⟨0x90, 0xbf, by grind⟩
  · exact ⟨0x80, 0x8f, by grind⟩
  · exact ⟨0x80, 0xbf, by grind⟩

theorem pieces_sequence {byte : UInt8} {lead : Lead} {tail rest : Bytes}
    {c : Char} (announced : lead? byte = some lead)
    (run : continuation lead.following lead.low lead.high (tail ++ rest) = tail)
    (complete : tail.length = lead.following)
    (value : codePoint lead.bits tail = c.toNat) :
    pieces (byte :: tail ++ rest) = .char c :: pieces rest := by
  rw [List.cons_append, pieces]
  simp [announced, run, complete, value]

theorem Char.toNat_lt (c : Char) :
    c.toNat < 0xd800 ∨ 0xdfff < c.toNat ∧ c.toNat < 0x110000 :=
  c.valid

theorem utf8EncodeChar_eq (c : Char) :
    String.utf8EncodeChar c =
      if c.toNat < 0x80 then [UInt8.ofNat c.toNat]
      else if c.toNat < 0x800 then
        [UInt8.ofNat (c.toNat / 64 + 0xc0), follower c.toNat]
      else if c.toNat < 0x10000 then
        [UInt8.ofNat (c.toNat / 4096 + 0xe0), follower (c.toNat / 64),
          follower c.toNat]
      else
        [UInt8.ofNat (c.toNat / 262144 + 0xf0), follower (c.toNat / 4096),
          follower (c.toNat / 64), follower c.toNat] := by
  have valid := Char.toNat_lt c
  simp only [String.utf8EncodeChar, follower, Char.toNat] at *
  have two (small : c.val.toNat < 0x800) :
      c.val.toNat / 64 % 32 = c.val.toNat / 64 := by omega
  have three (small : c.val.toNat < 0x10000) :
      c.val.toNat / 4096 % 16 = c.val.toNat / 4096 := by omega
  have four : c.val.toNat / 262144 % 8 = c.val.toNat / 262144 := by omega
  grind

theorem pieces_utf8EncodeChar (c : Char) (rest : Bytes) :
    pieces (String.utf8EncodeChar c ++ rest) = .char c :: pieces rest := by
  have valid := Char.toNat_lt c
  rw [utf8EncodeChar_eq]
  split
  case isTrue one =>
    exact pieces_sequence (lead?_one one) (by simp) rfl (by simp)
  split
  case isTrue two =>
    apply pieces_sequence (lead?_two (by omega) two)
    · simp [continuation_follower]
    · rfl
    · simp [follower_mod]
      omega
  split
  case isTrue three =>
    obtain ⟨low, high, announced, bounds⟩ :=
      lead?_three (by omega) three (by omega)
    apply pieces_sequence announced
    · simp [continuation_cons, continuation_follower, toNat_follower, bounds]
    · rfl
    · simp [follower_mod]
      omega
  case isFalse =>
    obtain ⟨low, high, announced, bounds⟩ :=
      lead?_four (by omega : 0x10000 ≤ c.toNat) (by omega)
    apply pieces_sequence announced
    · simp [continuation_cons, continuation_follower, toNat_follower, bounds]
    · rfl
    · simp [follower_mod]
      omega

theorem pieces_append_chars (chars : List Char) (rest : Bytes) :
    pieces (chars.flatMap String.utf8EncodeChar ++ rest) =
      chars.map .char ++ pieces rest := by
  induction chars with
  | nil => simp
  | cons c chars ih => simp [pieces_utf8EncodeChar, ih]

theorem pieces_ofString (text : String) :
    pieces (Bytes.ofString text) = text.toList.map .char := by
  have := pieces_append_chars text.toList []
  simpa [Bytes.ofString, pieces] using this

theorem lossy_ofString (text : String) :
    lossy (Bytes.ofString text) = text := by
  have : Piece.toChar ∘ Piece.char = id := rfl
  simp [lossy, pieces_ofString, this]

/-!
## What is read is made of the bytes
-/

/-- The bytes that a piece stands for. -/
def Piece.bytes : Piece → Bytes
  | .char c => String.utf8EncodeChar c
  | .illFormed bytes => bytes

/-- What the bounds of a lead byte leave of the first byte after it. -/
structure Lead.Announces (lead : Lead) (byte : UInt8) : Prop where
  one : lead.following = 0 → byte.toNat < 0x80 ∧ lead.bits = byte.toNat
  two : lead.following = 1 → 0xc2 ≤ byte.toNat ∧ byte.toNat < 0xe0 ∧
    lead.bits = byte.toNat - 0xc0
  three : lead.following = 2 → 0xe0 ≤ byte.toNat ∧ byte.toNat < 0xf0 ∧
    lead.bits = byte.toNat - 0xe0 ∧
    (lead.bits = 0 → 0xa0 ≤ lead.low.toNat) ∧
    (lead.bits = 13 → lead.high.toNat ≤ 0x9f)
  four : lead.following = 3 → 0xf0 ≤ byte.toNat ∧ byte.toNat < 0xf5 ∧
    lead.bits = byte.toNat - 0xf0 ∧
    (lead.bits = 0 → 0x90 ≤ lead.low.toNat) ∧
    (lead.bits = 4 → lead.high.toNat ≤ 0x8f)
  short : lead.following ≤ 3
  low : 0x80 ≤ lead.low.toNat
  high : lead.high.toNat ≤ 0xbf

theorem announces_of_lead? {byte : UInt8} {lead : Lead}
    (announced : lead? byte = some lead) : lead.Announces byte := by
  simp only [lead?] at announced
  repeat' split at announced
  all_goals cases announced
  all_goals constructor
  all_goals simp
  all_goals omega

theorem Char.toNat_ofNat {value : Nat}
    (valid : value < 0xd800 ∨ 0xdfff < value ∧ value < 0x110000) :
    (Char.ofNat value).toNat = value := by
  rw [Char.ofNat, dif_pos (show value.isValidChar from valid)]
  rfl

theorem follower_eq {byte : UInt8} (bounds : 0x80 ≤ byte.toNat ∧
    byte.toNat ≤ 0xbf) {value : Nat} (bits : value % 64 = byte.toNat % 64) :
    follower value = byte := by
  apply UInt8.toNat_inj.mp
  rw [toNat_follower]
  omega

theorem lead_eq (byte : UInt8) {value : Nat} (h : value = byte.toNat) :
    UInt8.ofNat value = byte := by
  rw [h, UInt8.ofNat_toNat]

variable {byte second third fourth : UInt8}

theorem utf8EncodeChar_one (small : byte.toNat < 0x80) :
    String.utf8EncodeChar (Char.ofNat byte.toNat) = [byte] := by
  rw [utf8EncodeChar_eq, Char.toNat_ofNat (by omega), if_pos small,
    UInt8.ofNat_toNat]

theorem utf8EncodeChar_two (lead : 0xc2 ≤ byte.toNat ∧ byte.toNat < 0xe0)
    (next : 0x80 ≤ second.toNat ∧ second.toNat ≤ 0xbf) :
    String.utf8EncodeChar (Char.ofNat
        ((byte.toNat - 0xc0) * 64 + second.toNat % 64)) = [byte, second] := by
  rw [utf8EncodeChar_eq, Char.toNat_ofNat (by omega), if_neg (by omega),
    if_pos (by omega), lead_eq byte (by omega),
    follower_eq next (by omega)]

theorem utf8EncodeChar_three (lead : 0xe0 ≤ byte.toNat ∧ byte.toNat < 0xf0)
    (next : 0x80 ≤ second.toNat ∧ second.toNat ≤ 0xbf)
    (overlong : byte.toNat = 0xe0 → 0xa0 ≤ second.toNat)
    (surrogate : byte.toNat = 0xed → second.toNat ≤ 0x9f)
    (last : 0x80 ≤ third.toNat ∧ third.toNat ≤ 0xbf) :
    String.utf8EncodeChar (Char.ofNat
        (((byte.toNat - 0xe0) * 64 + second.toNat % 64) * 64 +
          third.toNat % 64)) = [byte, second, third] := by
  rw [utf8EncodeChar_eq, Char.toNat_ofNat (by omega), if_neg (by omega),
    if_neg (by omega), if_pos (by omega), lead_eq byte (by omega),
    follower_eq next (by omega), follower_eq last (by omega)]

theorem utf8EncodeChar_four (lead : 0xf0 ≤ byte.toNat ∧ byte.toNat < 0xf5)
    (next : 0x80 ≤ second.toNat ∧ second.toNat ≤ 0xbf)
    (overlong : byte.toNat = 0xf0 → 0x90 ≤ second.toNat)
    (large : byte.toNat = 0xf4 → second.toNat ≤ 0x8f)
    (inner : 0x80 ≤ third.toNat ∧ third.toNat ≤ 0xbf)
    (last : 0x80 ≤ fourth.toNat ∧ fourth.toNat ≤ 0xbf) :
    String.utf8EncodeChar (Char.ofNat
        ((((byte.toNat - 0xf0) * 64 + second.toNat % 64) * 64 +
          third.toNat % 64) * 64 + fourth.toNat % 64)) =
      [byte, second, third, fourth] := by
  rw [utf8EncodeChar_eq, Char.toNat_ofNat (by omega), if_neg (by omega),
    if_neg (by omega), if_neg (by omega), lead_eq byte (by omega),
    follower_eq next (by omega), follower_eq inner (by omega),
    follower_eq last (by omega)]

/-- A complete sequence is what its character is written as. -/
theorem utf8EncodeChar_of_complete {lead : Lead} {rest : Bytes}
    (announced : lead? byte = some lead)
    (complete : (continuation lead.following lead.low lead.high rest).length =
      lead.following) :
    String.utf8EncodeChar (Char.ofNat (codePoint lead.bits
        (continuation lead.following lead.low lead.high rest))) =
      byte :: continuation lead.following lead.low lead.high rest := by
  obtain ⟨one, two, three, four, short, low, high⟩ :=
    announces_of_lead? announced
  obtain ⟨following, lowest, highest, bits⟩ := lead
  simp only at *
  have lowest_rest : (0x80 : UInt8).toNat = 0x80 := rfl
  have highest_rest : (0xbf : UInt8).toNat = 0xbf := rfl
  match following with
  | 0 =>
      obtain ⟨small, rfl⟩ := one rfl
      simp only [continuation_zero, codePoint_nil]
      exact utf8EncodeChar_one small
  | 1 =>
      obtain ⟨_, _, value⟩ := two rfl
      obtain ⟨second, rest, rfl, _, _, run, _⟩ := continuation_complete complete
      rw [run, value]
      simp only [continuation_zero, codePoint_nil, codePoint_cons]
      apply utf8EncodeChar_two <;> omega
  | 2 =>
      obtain ⟨_, _, value, overlong, surrogate⟩ := three rfl
      obtain ⟨second, rest, rfl, _, _, run, complete⟩ :=
        continuation_complete complete
      obtain ⟨third, rest, rfl, _, _, run', _⟩ := continuation_complete complete
      rw [run, run', value]
      simp only [continuation_zero, codePoint_nil, codePoint_cons]
      apply utf8EncodeChar_three <;> omega
  | 3 =>
      obtain ⟨_, _, value, overlong, large⟩ := four rfl
      obtain ⟨second, rest, rfl, _, _, run, complete⟩ :=
        continuation_complete complete
      obtain ⟨third, rest, rfl, _, _, run', complete⟩ :=
        continuation_complete complete
      obtain ⟨fourth, rest, rfl, _, _, run'', _⟩ :=
        continuation_complete complete
      rw [run, run', run'', value]
      simp only [continuation_zero, codePoint_nil, codePoint_cons]
      apply utf8EncodeChar_four <;> omega
  | following + 4 => omega

theorem continuation_append_drop (count : Nat) (low high : UInt8)
    (bytes : Bytes) :
    continuation count low high bytes ++
        bytes.drop (continuation count low high bytes).length = bytes := by
  fun_induction continuation count low high bytes <;> simp_all

/-- Reading loses nothing. -/
theorem flatMap_bytes_pieces (bytes : Bytes) :
    (pieces bytes).flatMap Piece.bytes = bytes := by
  induction bytes using pieces.induct with
  | case1 => simp [pieces]
  | case2 byte rest unknown ih => simp [pieces, unknown, Piece.bytes, ih]
  | case3 byte rest lead announced tail complete ih =>
      have written := utf8EncodeChar_of_complete announced complete
      have kept := continuation_append_drop lead.following lead.low lead.high
        rest
      rw [pieces, announced]
      simp only [tail] at complete ih
      simp [complete] at ih kept
      simp [complete, written, Piece.bytes, ih, kept]
  | case4 byte rest lead announced tail incomplete ih =>
      have kept := continuation_append_drop lead.following lead.low lead.high
        rest
      rw [pieces, announced]
      simp only [tail] at incomplete ih
      simp [incomplete, Piece.bytes, ih, kept]

theorem mapM_char?_eq_some {read : List Piece} {chars : List Char} :
    read.mapM Piece.char? = some chars ↔ read = chars.map .char := by
  induction read generalizing chars with
  | nil => cases chars <;> simp
  | cons piece read ih =>
      cases piece <;> cases chars <;>
        simp [Piece.char?, Option.bind_eq_some_iff, ih]
      grind

theorem utf8?_eq_some {bytes : Bytes} {text : String} :
    utf8? bytes = some text ↔ Bytes.ofString text = bytes := by
  simp only [utf8?, Option.map_eq_some_iff, mapM_char?_eq_some]
  constructor
  · rintro ⟨chars, only, rfl⟩
    rw [← flatMap_bytes_pieces bytes, only]
    simp [Bytes.ofString, Piece.bytes, List.flatMap_map]
  · rintro rfl
    exact ⟨text.toList, pieces_ofString text, String.ofList_toList⟩

end Text

namespace Bytes

/-- Some text is written as these bytes. -/
def IsUtf8 (bytes : Bytes) : Prop :=
  ∃ text, ofString text = bytes

theorem isUtf8_iff {bytes : Bytes} :
    bytes.IsUtf8 ↔ ofString (Text.lossy bytes) = bytes := by
  constructor
  · rintro ⟨text, rfl⟩
    rw [Text.lossy_ofString]
  · exact fun kept => ⟨_, kept⟩

instance (bytes : Bytes) : Decidable bytes.IsUtf8 :=
  decidable_of_iff _ isUtf8_iff.symm

end Bytes

namespace Text

theorem lossy_eq_empty {bytes : Bytes} : lossy bytes = "" ↔ bytes = [] := by
  constructor
  · intro empty
    have none : pieces bytes = [] := by
      simpa [lossy, ← String.toList_inj] using empty
    simpa [none] using (flatMap_bytes_pieces bytes).symm
  · rintro rfl
    simp [lossy, pieces]

theorem utf8EncodeChar_ascii {c : Char} (ascii : c.toNat < 0x80) :
    String.utf8EncodeChar c = [UInt8.ofNat c.toNat] := by
  rw [utf8EncodeChar_eq, if_pos ascii]

/-- An ASCII character is never read from anything but its own byte. -/
theorem head?_lossy {c : Char} (ascii : c.toNat < 0x80) (bytes : Bytes) :
    (lossy bytes).toList.head? = some c ↔
      bytes.head? = some (UInt8.ofNat c.toNat) := by
  constructor
  · intro first
    have whole := flatMap_bytes_pieces bytes
    cases read : pieces bytes with
    | nil => simp [lossy, read] at first
    | cons piece rest =>
        cases piece with
        | char d =>
            obtain rfl : d = c := by
              simpa [lossy, read, Piece.toChar] using first
            rw [← whole, read]
            simp [Piece.bytes, utf8EncodeChar_ascii ascii]
        | illFormed bytes =>
            obtain rfl : '\uFFFD' = c := by
              simpa [lossy, read, Piece.toChar] using first
            contradiction
  · intro first
    obtain ⟨rest, rfl⟩ := List.head?_eq_some_iff.mp first
    have := pieces_utf8EncodeChar c rest
    simp [utf8EncodeChar_ascii ascii] at this
    simp [lossy, this, Piece.toChar]

end Text

end LocalSocket
