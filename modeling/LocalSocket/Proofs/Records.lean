import LocalSocket.Channel.Connect

/-!
# Records stand for paths

The three forms of an address share one record of fixed size and are told apart
by its length and its first byte.  A path is encoded if the record can hold it
whole, with a NUL byte behind it unless it is an abstract name; decoding the
record gives the path again, byte for byte.
-/

namespace LocalSocket.Record

/-- The paths that a record can hold: none at all, an abstract name with its NUL
byte in front, or the path of a file, which leaves room for a NUL byte. -/
def Fits (path : Bytes) : Prop :=
  path = [] ∨ (path.head? = some 0 ∧ path.length ≤ 108) ∨
    (0 ∉ path ∧ path.length ≤ 107)

def lengthFor (path : Bytes) : Nat :=
  if path = [] then 2
  else if path.head? = some 0 then 2 + path.length
  else 110

/-! ## The path field -/

theorem path_holding {path : Bytes} (length : Nat) (h : path.length ≤ 108) :
    (holding path length).path = path ++ Bytes.zeros (108 - path.length) := by
  simp only [holding, Bytes.padTo, pathSize]
  rw [List.take_of_length_le h]

/-- An abstract name ends where the record does. -/
theorem used_holding_exact {path : Bytes} (h : path.length ≤ 108) :
    (holding path (pathOffset + path.length)).used = path := by
  rw [used, path_holding _ h]
  exact List.take_left' (by simp [holding])

/-- The record of a file is used up to its end, NUL bytes included. -/
theorem used_holding_full {path : Bytes} (h : path.length ≤ 108) :
    (holding path fullLength).used =
      path ++ Bytes.zeros (108 - path.length) := by
  have hpath := path_holding fullLength h
  have hsize := (holding path fullLength).length_path
  rw [used, ← hpath]
  exact List.take_of_length_le (by rw [hsize]; simp [holding, fullLength])

theorem takeWhile_terminated {path : Bytes} (h : 0 ∉ path) (count : Nat) :
    (path ++ Bytes.zeros count).takeWhile (· ≠ 0) = path := by
  have hpath : ∀ byte ∈ path, decide (byte ≠ 0) = true := by
    intro byte hmem
    simp only [decide_eq_true_eq]
    rintro rfl
    exact h hmem
  rw [List.takeWhile_append_of_pos hpath]
  cases count <;> simp [Bytes.zeros, List.replicate_succ]

/-! ## Encoding and decoding -/

/-- What there is to say of the record of a path. -/
structure StandsFor (record : Record) (path : Bytes) : Prop where
  decoded : record.toAddress = ⟨path⟩
  length : record.length = lengthFor path
  padded : record.path = path ++ Bytes.zeros (108 - path.length)
  /-- The path of a file has a NUL byte behind it. -/
  terminated : path ≠ [] → path.head? ≠ some 0 →
    record.path[path.length]? = some 0

theorem unnamed_standsFor : unnamed.StandsFor [] := ⟨rfl, rfl, rfl, nofun⟩

theorem abstract_standsFor {name : Bytes} (h : (0 :: name).length ≤ 108) :
    (holding (0 :: name) (pathOffset + (0 :: name).length)).StandsFor
      (0 :: name) where
  decoded := by
    rw [toAddress, used_holding_exact h]
    rfl
  length := by simp [holding, lengthFor, pathOffset]
  padded := path_holding _ h
  terminated := fun _ hhead => absurd rfl hhead

theorem toAddress_of_used {record : Record} {path : Bytes} {count : Nat}
    (hhead : path.head? ≠ some 0) (hnul : 0 ∉ path)
    (hused : record.used = path ++ Bytes.zeros count) (hne : path ≠ []) :
    record.toAddress = ⟨path⟩ := by
  have hwhile := takeWhile_terminated hnul count
  rw [← hused] at hwhile
  rw [toAddress]
  split
  · rename_i name hname
    rw [hname, eq_comm] at hused
    cases path with
    | nil => exact absurd rfl hne
    | cons byte rest =>
        obtain rfl : byte = 0 := List.head_eq_of_cons_eq hused
        exact absurd rfl hhead
  · rw [hwhile]

theorem file_standsFor {path : Bytes} (hhead : path.head? ≠ some 0)
    (hnul : 0 ∉ path) (h : path.length ≤ 107) (hne : path ≠ []) :
    (holding path fullLength).StandsFor path := by
  have hle : path.length ≤ 108 := by omega
  have hpadded := path_holding fullLength hle
  refine ⟨toAddress_of_used hhead hnul (used_holding_full hle) hne, ?_, hpadded,
    fun _ _ => ?_⟩
  · simp [holding, lengthFor, hne, hhead, fullLength, pathOffset, pathSize]
  · obtain ⟨rest, hrest⟩ : ∃ rest, 108 - path.length = rest + 1 :=
      ⟨107 - path.length, by omega⟩
    rw [hpadded, hrest]
    simp [Bytes.zeros, List.replicate_succ]

theorem ofAddress_abstract (name : Bytes) :
    ofAddress ⟨0 :: name⟩ =
      if (0 :: name).length ≤ 108 then
        .ok (holding (0 :: name) (pathOffset + (0 :: name).length))
      else .error .abstractNameTooLong := by
  by_cases h : (0 :: name).length ≤ 108
  · rw [if_pos h]
    exact if_neg (Nat.not_lt.mpr h)
  · rw [if_neg h]
    exact if_pos (Nat.lt_of_not_le h)

theorem ofAddress_file {path : Bytes} (hne : path ≠ [])
    (hhead : path.head? ≠ some 0) :
    ofAddress ⟨path⟩ =
      if 0 ∈ path then .error .containsNul
      else if path.length ≤ 107 then .ok (holding path fullLength)
      else .error .pathTooLong := by
  rw [ofAddress]
  split
  · rename_i hpath
    exact absurd hpath hne
  · rename_i hpath
    exact absurd (congrArg List.head? hpath) hhead
  · by_cases hnul : 0 ∈ path
    · simp [hnul]
    · by_cases h : path.length ≤ 107
      · have hnot : ¬path.length ≥ pathSize := by
          simp only [pathSize]
          omega
        simp [hnul, h, hnot]
      · have hlong : path.length ≥ pathSize := by
          simp only [pathSize]
          omega
        simp [hnul, h, hlong]

/-- A path that fits is encoded in the record that stands for it, and any other
is refused. -/
theorem ofAddress_cases (path : Bytes) :
    (Fits path ∧ ∃ record, ofAddress ⟨path⟩ = .ok record ∧
      record.StandsFor path) ∨
      (¬Fits path ∧ ∃ fault, ofAddress ⟨path⟩ = .error fault) := by
  by_cases hne : path = []
  · subst hne
    exact .inl ⟨.inl rfl, unnamed, rfl, unnamed_standsFor⟩
  by_cases hhead : path.head? = some 0
  · obtain ⟨name, rfl⟩ := List.head?_eq_some_iff.mp hhead
    rw [ofAddress_abstract]
    by_cases h : (0 :: name).length ≤ 108
    · rw [if_pos h]
      exact .inl ⟨.inr (.inl ⟨rfl, h⟩), _, rfl, abstract_standsFor h⟩
    · rw [if_neg h]
      refine .inr ⟨?_, _, rfl⟩
      rintro (hempty | ⟨-, hlength⟩ | ⟨hnul, -⟩)
      · exact hne hempty
      · exact h hlength
      · exact hnul (by simp)
  · rw [ofAddress_file hne hhead]
    by_cases hnul : 0 ∈ path
    · rw [if_pos hnul]
      refine .inr ⟨?_, _, rfl⟩
      rintro (hempty | ⟨hzero, -⟩ | ⟨hnot, -⟩)
      · exact hne hempty
      · exact hhead hzero
      · exact hnot hnul
    · rw [if_neg hnul]
      by_cases h : path.length ≤ 107
      · rw [if_pos h]
        exact .inl ⟨.inr (.inr ⟨hnul, h⟩), _, rfl,
          file_standsFor hhead hnul h hne⟩
      · rw [if_neg h]
        refine .inr ⟨?_, _, rfl⟩
        rintro (hempty | ⟨hzero, -⟩ | ⟨-, hlength⟩)
        · exact hne hempty
        · exact hhead hzero
        · exact h hlength

theorem encode_run (address : Address) :
    (Channel.encode address).run =
      pure ((ofAddress address).mapError (.invalidPath address.path)) := by
  rw [Channel.encode]
  cases ofAddress address <;> rfl

/-- An address is encoded if and only if its path fits, and is refused along
with its path otherwise.  The record stands for the path: decoded, it is the
path again; it has the length that goes with the form of the address; and its
path field holds the path and zeros behind it.  No two paths have one record. -/
theorem record_stands_for_path (path : Bytes) :
    ((∃ record, (Channel.encode ⟨path⟩).run = pure (.ok record)) ↔
        Fits path) ∧
      (¬Fits path → ∃ fault, (Channel.encode ⟨path⟩).run =
        pure (.error (.invalidPath path fault))) ∧
      ∀ record, (Channel.encode ⟨path⟩).run = pure (.ok record) →
        record.StandsFor path ∧
        ∀ other, (Channel.encode ⟨other⟩).run = pure (.ok record) →
          other = path := by
  have hok : ∀ path record,
      (Channel.encode ⟨path⟩).run = pure (.ok record) →
        Fits path ∧ record.StandsFor path := by
    intro path record h
    rw [encode_run] at h
    obtain ⟨hfits, record', hrecord, stands⟩ | ⟨_, fault, hfault⟩ :=
      ofAddress_cases path
    · rw [hrecord] at h
      cases h
      exact ⟨hfits, stands⟩
    · rw [hfault] at h
      cases h
  refine ⟨⟨fun ⟨record, h⟩ => (hok path record h).1, fun hfits => ?_⟩,
    fun hnot => ?_, fun record h => ⟨(hok path record h).2,
      fun other hother => ?_⟩⟩
  · obtain ⟨_, record, hrecord, _⟩ | ⟨hnot, _⟩ := ofAddress_cases path
    · exact ⟨record, by rw [encode_run, hrecord]; rfl⟩
    · exact absurd hfits hnot
  · obtain ⟨hfits, _⟩ | ⟨_, fault, hfault⟩ := ofAddress_cases path
    · exact absurd hfits hnot
    · exact ⟨fault, by rw [encode_run, hfault]; rfl⟩
  · have hdecoded := (hok other record hother).2.decoded
    rw [(hok path record h).2.decoded] at hdecoded
    exact (Address.mk.inj hdecoded).symm

/-- An abstract name that fills the record, with a NUL byte inside. -/
theorem longest_name_stands :
    Fits (0 :: 97 :: 0 :: Bytes.zeros 105) ∧
      ∃ record : Record,
        (Channel.encode ⟨0 :: 97 :: 0 :: Bytes.zeros 105⟩).run =
          pure (.ok record) ∧
        record.toAddress = ⟨0 :: 97 :: 0 :: Bytes.zeros 105⟩ ∧
        record.length = 110 := by
  have represented := record_stands_for_path (0 :: 97 :: 0 :: Bytes.zeros 105)
  have hfits : Fits (0 :: 97 :: 0 :: Bytes.zeros 105) := .inr (.inl (by decide))
  obtain ⟨record, hrecord⟩ := represented.1.mpr hfits
  obtain ⟨stands, _⟩ := represented.2.2 record hrecord
  exact ⟨hfits, record, hrecord, stands.decoded, stands.length⟩

end LocalSocket.Record
