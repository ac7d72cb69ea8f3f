import LocalSocket.Address.Text
import LocalSocket.Proofs.Utf8

/-!
# Which addresses survive being written and read

The texts of the three kinds of address overlap: a path may begin with "@", a
text may begin with NUL, and "(unnamed)" is a path like any other.  What is read
from the text of an address always has that text again, whether or not it is the
address that was written.
-/

namespace LocalSocket.Address

open Text (lossy lossy_ofString lossy_eq_empty head?_lossy)

theorem ofString_eq_nil {s : String} : Bytes.ofString s = [] ↔ s = "" := by
  rw [← lossy_eq_empty, lossy_ofString]

theorem head?_ofString {c : Char} (ascii : c.toNat < 0x80) (s : String) :
    (Bytes.ofString s).head? = some (UInt8.ofNat c.toNat) ↔
      s.toList.head? = some c := by
  rw [← head?_lossy ascii, lossy_ofString]

/-- The three forms of address, each with its text. -/
inductive Form (address : Address) : Prop where
  | unnamed (path : address.path = []) (text : address.text = "(unnamed)")
  | abstract (name : Bytes) (path : address.path = 0 :: name)
      (text : address.text = "@" ++ lossy name)
  | file (path : address.path ≠ []) (first : address.path.head? ≠ some 0)
      (text : address.text = lossy address.path)

theorem form (address : Address) : address.Form := by
  obtain ⟨path⟩ := address
  match path with
  | [] => exact .unnamed rfl rfl
  | 0 :: name => exact .abstract name rfl rfl
  | byte :: rest =>
      by_cases zero : byte = 0
      · subst zero
        exact .abstract rest rfl rfl
      · exact .file (by simp) (by simpa using zero) (by simp [text, zero])

theorem abstractName?_eq_none {path : Bytes} (first : path.head? ≠ some 0) :
    abstractName? ⟨path⟩ = none := by
  cases path with
  | nil => rfl
  | cons byte rest =>
      have plain : byte ≠ 0 := by simpa using first
      simp [abstractName?, plain]

theorem text_abstract (name : Bytes) : text ⟨0 :: name⟩ = "@" ++ lossy name :=
  rfl

theorem text_ne_empty (address : Address) : address.text ≠ "" := by
  cases address.form with
  | unnamed path text => simp [text]
  | abstract name path text => simp [text]
  | file path first text => simpa [text, lossy_eq_empty] using path

/-- No address is written as a text that begins with NUL. -/
theorem head?_text (address : Address) :
    address.text.toList.head? ≠ some '\x00' := by
  cases address.form with
  | unnamed path text => simp [text]
  | abstract name path text => simp [text]
  | file path first text =>
      rw [text, ne_eq, head?_lossy (by decide)]
      exact first

/-- Reading tells three forms of text apart. -/
theorem parse_cases (s : String) :
    (s = "" ∧ parse s = .error .empty) ∨
    (∃ name, s = "@" ++ name ∧ parse s = .ok ⟨0 :: Bytes.ofString name⟩) ∨
    (s ≠ "" ∧ s.toList.head? ≠ some '@' ∧
      parse s = .ok ⟨Bytes.ofString s⟩) := by
  obtain ⟨chars, rfl⟩ : ∃ chars, s = String.ofList chars :=
    ⟨s.toList, String.ofList_toList.symm⟩
  simp only [parse, Bytes.ofString, ← String.toList_inj, String.toList_ofList]
  cases chars with
  | nil => simp [parseChars]
  | cons c rest =>
      by_cases at_sign : c = '@'
      · subst at_sign
        exact .inr (.inl ⟨String.ofList rest, by simp,
          by simp [parseChars, ofAbstractName]⟩)
      · exact .inr (.inr ⟨by simp, by simpa using at_sign,
          by simp [parseChars, at_sign]⟩)

theorem parse_at (name : String) :
    parse ("@" ++ name) = .ok ⟨0 :: Bytes.ofString name⟩ := by
  simp [parse, parseChars, ofAbstractName, Bytes.ofString]

theorem text_ofString {s : String} (named : s ≠ "")
    (first : s.toList.head? ≠ some '\x00') :
    text ⟨Bytes.ofString s⟩ = s := by
  cases form ⟨Bytes.ofString s⟩ with
  | unnamed path text => exact absurd (ofString_eq_nil.mp path) named
  | abstract name path text =>
      simp only at path
      have zero := head?_ofString (c := '\x00') (by decide) s
      simp [path, first] at zero
  | file path first text => rw [text, lossy_ofString]

theorem text_of_parse {s : String} {address : Address}
    (first : s.toList.head? ≠ some '\x00') (read : parse s = .ok address) :
    address.text = s := by
  obtain ⟨rfl, refused⟩ | ⟨name, rfl, accepted⟩ | ⟨named, -, accepted⟩ :=
    parse_cases s
  · simp [refused] at read
  · obtain rfl : ⟨0 :: Bytes.ofString name⟩ = address := by
      simpa [accepted] using read
    rw [text_abstract, lossy_ofString]
  · obtain rfl : ⟨Bytes.ofString s⟩ = address := by
      simpa [accepted] using read
    exact text_ofString named first

theorem parse_isOk {s : String} (named : s ≠ "") :
    ∃ address, parse s = .ok address := by
  obtain ⟨empty, -⟩ | ⟨name, -, accepted⟩ | ⟨-, -, accepted⟩ := parse_cases s
  · contradiction
  · exact ⟨_, accepted⟩
  · exact ⟨_, accepted⟩

/-- A text that begins with NUL is a name in the abstract namespace as well, and
is written in its other form. -/
theorem parse_text_of_parse {s : String} {address : Address}
    (read : parse s = .ok address) : parse address.text = .ok address := by
  by_cases first : s.toList.head? = some '\x00'
  · obtain ⟨rest, split⟩ := List.head?_eq_some_iff.mp first
    obtain rfl : ⟨0 :: rest.flatMap String.utf8EncodeChar⟩ = address := by
      have zero : String.utf8EncodeChar '\x00' = [0] := rfl
      simpa [parse, split, parseChars, zero] using read
    have written := parse_at (String.ofList rest)
    have kept := lossy_ofString (String.ofList rest)
    simp only [Bytes.ofString, String.toList_ofList] at written kept
    rw [text_abstract, kept, written]
  · rw [text_of_parse first read, read]

/-- What an address must be for its text to be read as the same address. -/
def IsTextual (address : Address) : Prop :=
  address.isUnnamed = false ∧
  (address.abstractName?.getD address.path).IsUtf8 ∧
  ¬ (address.isFile = true ∧ address.path.head? = some 0x40)

theorem path_of_parse_text {address read : Address}
    (accepted : parse address.text = .ok read) :
    read.path = address.path ↔ address.IsTextual := by
  obtain ⟨path⟩ := address
  cases form ⟨path⟩ with
  | unnamed empty text =>
      obtain rfl : path = [] := empty
      have plain : parse "(unnamed)" = .ok ⟨Bytes.ofString "(unnamed)"⟩ := rfl
      obtain rfl : ⟨Bytes.ofString "(unnamed)"⟩ = read := by
        simpa [text, plain] using accepted
      simp [IsTextual, isUnnamed, ofString_eq_nil]
  | abstract name zero text =>
      obtain rfl : path = 0 :: name := zero
      rw [text, parse_at] at accepted
      obtain rfl : ⟨0 :: Bytes.ofString (lossy name)⟩ = read := by
        simpa using accepted
      simp [IsTextual, isUnnamed, isFile, abstractName?, Bytes.isUtf8_iff]
  | file named first text =>
      simp only at named first text
      have plain_path := abstractName?_eq_none first
      have at_sign := head?_lossy (c := '@') (by decide) path
      obtain ⟨empty, -⟩ | ⟨name, split, plain⟩ | ⟨-, other, plain⟩ :=
        parse_cases (lossy path)
      · exact absurd (lossy_eq_empty.mp empty) named
      · have begins : path.head? = some 0x40 := at_sign.mp (by simp [split])
        obtain rfl : ⟨0 :: Bytes.ofString name⟩ = read := by
          simpa [text, plain] using accepted
        have differs : 0 :: Bytes.ofString name ≠ path := by
          rintro rfl
          simp at first
        simp [IsTextual, isFile, isUnnamed, plain_path, named, begins, differs]
      · have begins : path.head? ≠ some 0x40 := fun h => other (at_sign.mpr h)
        obtain rfl : ⟨Bytes.ofString (lossy path)⟩ = read := by
          simpa [text, plain] using accepted
        simp [IsTextual, isUnnamed, plain_path, named, begins, Bytes.isUtf8_iff]

/-- Every address is written as a text that can be read; what is read has that
text as well, and is the same address exactly for those with a name or path in
UTF-8 that is not a file's beginning with "@".  Every text but the empty one is
read, and what was read is read again from its own text. -/
theorem text_read_back :
    (∀ address : Address, address.text ≠ "" ∧
      ∃ read, parse address.text = .ok read ∧ read.text = address.text ∧
        (read.path = address.path ↔ address.IsTextual)) ∧
    ∀ s : String, (parse s = .error .empty ↔ s = "") ∧
      (s = "" ∨ ∃ read, parse s = .ok read ∧ parse read.text = .ok read) := by
  constructor
  · intro address
    have named := address.text_ne_empty
    obtain ⟨read, accepted⟩ := parse_isOk named
    exact ⟨named, read, accepted, text_of_parse address.head?_text accepted,
      path_of_parse_text accepted⟩
  · intro s
    by_cases named : s = ""
    · subst named
      simp [parse, parseChars]
    · obtain ⟨read, accepted⟩ := parse_isOk named
      exact ⟨by simp [accepted, named],
        .inr ⟨read, accepted, parse_text_of_parse accepted⟩⟩

end LocalSocket.Address
