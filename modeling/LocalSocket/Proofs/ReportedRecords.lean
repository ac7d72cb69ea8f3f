import LocalSocket.Proofs.Records
import Mathlib.Data.List.TakeWhile

/-!
# Records that the system has filled in

The system reports an address by filling in a record.  The length it reports may
be anything: less than the family takes, in the middle of the path, or beyond
the end of the record.  Decoding looks at no more of the path field than the
length covers, and of a path at no more than comes before its NUL byte.

What it finds can be passed to the system again, unless it fills the path field
without a NUL byte.
-/

namespace LocalSocket.Record

variable {record other : Record}

/-- How many bytes of the path field the reported length covers. -/
def covered (record : Record) : Nat :=
  min (record.length - 2) 108

theorem covered_le (record : Record) : record.covered ≤ record.path.length := by
  rw [record.length_path]
  exact Nat.min_le_right _ _

theorem used_eq_take (record : Record) :
    record.used = record.path.take record.covered := by
  have hsize : record.path.length = 108 := record.length_path
  rw [used, covered, ← hsize, ← List.take_take, List.take_length]
  rfl

theorem length_used (record : Record) :
    record.used.length = record.covered := by
  rw [used_eq_take, List.length_take, Nat.min_eq_left record.covered_le]

/-- Records that agree as far as the length covers are in the same use. -/
theorem used_congr (same : other.covered = record.covered)
    (agree : ∀ index < record.covered,
      other.path[index]? = record.path[index]?) :
    other.used = record.used := by
  rw [used_eq_take, used_eq_take, same]
  refine List.ext_getElem? fun index => ?_
  by_cases h : index < record.covered
  · rw [List.getElem?_take_of_lt h, List.getElem?_take_of_lt h, agree index h]
  · rw [List.getElem?_take_eq_none (by omega),
      List.getElem?_take_eq_none (by omega)]

/-! ## Decoding -/

theorem path_toAddress_of_abstract (h : record.used.head? = some 0) :
    record.toAddress.path = record.used := by
  obtain ⟨name, hname⟩ := List.head?_eq_some_iff.mp h
  rw [toAddress, hname]
  rfl

theorem path_toAddress_of_file (h : record.used.head? ≠ some 0) :
    record.toAddress.path = record.used.takeWhile (· ≠ 0) := by
  rw [toAddress]
  split
  · rename_i name hname
    exact absurd (congrArg List.head? hname) h
  · rfl

/-- The address is the beginning of the path field. -/
theorem path_toAddress_prefix (record : Record) :
    record.toAddress.path <+: record.used := by
  by_cases h : record.used.head? = some 0
  · exact ⟨[], by rw [List.append_nil, path_toAddress_of_abstract h]⟩
  · rw [path_toAddress_of_file h]
    exact List.takeWhile_prefix _

theorem toAddress_congr (h : other.used = record.used) :
    other.toAddress = record.toAddress := by
  rw [toAddress, toAddress, h]

theorem toAddress_congr_of_file (h : record.used.head? ≠ some 0)
    (hother : other.used.head? ≠ some 0)
    (same : other.used.takeWhile (· ≠ 0) = record.used.takeWhile (· ≠ 0)) :
    other.toAddress = record.toAddress := by
  have hpath : other.toAddress.path = record.toAddress.path := by
    rw [path_toAddress_of_file h, path_toAddress_of_file hother, same]
  exact congrArg Address.mk hpath

/-! ## Encoding again -/

theorem not_mem_path_toAddress (h : record.used.head? ≠ some 0) :
    0 ∉ record.toAddress.path := by
  rw [path_toAddress_of_file h]
  intro hmem
  simpa using List.mem_takeWhile_imp hmem

theorem length_path_toAddress (record : Record) :
    record.toAddress.path.length ≤ 108 :=
  Nat.le_trans record.path_toAddress_prefix.length_le
    (record.length_used ▸ Nat.min_le_right _ _)

/-- The path field is all path, with no NUL byte behind it. -/
def IsUnterminated (record : Record) : Prop :=
  110 ≤ record.length ∧ 0 ∉ record.path

theorem IsUnterminated.path_toAddress (h : record.IsUnterminated) :
    record.toAddress.path = record.path := by
  obtain ⟨hlength, hnul⟩ := h
  have hcovered : record.covered = record.path.length := by
    rw [record.length_path, covered, pathSize]
    omega
  have hused : record.used = record.path := by
    rw [used_eq_take, hcovered, List.take_length]
  have hhead : record.used.head? ≠ some 0 := fun h =>
    hnul (hused ▸ List.mem_of_mem_head? h)
  rw [path_toAddress_of_file hhead, hused, List.takeWhile_eq_self_iff]
  intro byte hmem
  simp only [ne_eq, decide_eq_true_eq]
  rintro rfl
  exact hnul hmem

/-- A path of 108 bytes is the whole path field, which then has no NUL byte. -/
theorem isUnterminated_of_length (h : record.used.head? ≠ some 0)
    (hlength : record.toAddress.path.length = 108) : record.IsUnterminated := by
  have start := record.path_toAddress_prefix
  have hused := record.length_used
  have hcovered : record.covered = 108 := by
    have := start.length_le
    rw [covered] at hused ⊢
    omega
  have hpath : record.toAddress.path = record.path := by
    rw [start.eq_of_length (by omega), used_eq_take, hcovered]
    exact List.take_of_length_le (Nat.le_of_eq record.length_path)
  refine ⟨?_, hpath ▸ not_mem_path_toAddress h⟩
  rw [covered] at hcovered
  omega

theorem fits_toAddress_iff : Fits record.toAddress.path ↔
    ¬record.IsUnterminated := by
  constructor
  · rintro fits unterminated
    have hpath := unterminated.path_toAddress
    have hlength := congrArg List.length hpath
    rw [record.length_path, pathSize] at hlength
    obtain hempty | ⟨hhead, -⟩ | ⟨-, hshort⟩ := fits
    · simp [hempty] at hlength
    · exact unterminated.2 (hpath ▸ List.mem_of_mem_head? hhead)
    · omega
  · intro terminated
    have hle := record.length_path_toAddress
    by_cases hhead : record.used.head? = some 0
    · refine .inr (.inl ⟨?_, hle⟩)
      rw [path_toAddress_of_abstract hhead, hhead]
    · refine .inr (.inr ⟨not_mem_path_toAddress hhead, ?_⟩)
      have hne : record.toAddress.path.length ≠ 108 :=
        fun h => terminated (isUnterminated_of_length hhead h)
      omega

/-- However the system has filled in a record, decoding reads the part of the
path field that the reported length covers, and its result is the beginning of
that part.  What is not covered makes no difference to it, nor does, unless the
first byte is NUL, what comes behind the first NUL byte.  The address can be
encoded again but for a path that takes up the whole field, and the record then
stands for the same bytes. -/
theorem reported_record_decoded (record : Record) :
    (record.used.length = min (record.length - 2) 108 ∧
      record.used <+: record.path ∧ record.toAddress.path <+: record.used) ∧
    (∀ other : Record,
      min (other.length - 2) 108 = min (record.length - 2) 108 →
      (∀ index < min (record.length - 2) 108,
        other.path[index]? = record.path[index]?) →
      other.toAddress = record.toAddress) ∧
    (record.used.head? ≠ some 0 → ∀ other : Record,
      other.used.head? ≠ some 0 →
      other.used.takeWhile (· ≠ 0) = record.used.takeWhile (· ≠ 0) →
      other.toAddress = record.toAddress) ∧
    ((∃ again, ofAddress record.toAddress = .ok again) ↔
      ¬(110 ≤ record.length ∧ 0 ∉ record.path)) ∧
    ∀ again, ofAddress record.toAddress = .ok again →
      again.toAddress = record.toAddress := by
  refine ⟨⟨record.length_used, ?_, record.path_toAddress_prefix⟩,
    fun other same agree => toAddress_congr (used_congr same agree),
    fun h other hother same => toAddress_congr_of_file h hother same, ?_⟩
  · rw [used_eq_take]
    exact List.take_prefix _ _
  obtain ⟨fits, again, hagain, stands⟩ | ⟨unfit, fault, hfault⟩ :=
    ofAddress_cases record.toAddress.path
  · refine ⟨iff_of_true ⟨again, hagain⟩ (fits_toAddress_iff.mp fits), ?_⟩
    intro again' h
    obtain rfl : again = again' := Except.ok.inj (hagain.symm.trans h)
    exact stands.decoded
  · have failed : ∀ again, ofAddress record.toAddress ≠ .ok again := by
      intro again h
      cases hfault.symm.trans h
    exact ⟨iff_of_false (fun ⟨again, h⟩ => failed again h)
      fun terminated => unfit (fits_toAddress_iff.mpr terminated),
      fun again h => absurd h (failed again)⟩

/-- The same path, once with its NUL byte and more behind it, in a record that
is said to be longer than it is, and once cut off by the length. -/
theorem path_decoded_twice :
    (holding [47, 97, 0, 98] 200).used.head? ≠ some 0 ∧
      (holding [47, 97, 7, 7] 4).toAddress =
        (holding [47, 97, 0, 98] 200).toAddress ∧
      ∃ again, ofAddress (holding [47, 97, 0, 98] 200).toAddress = .ok again ∧
        again.toAddress = ⟨[47, 97]⟩ := by
  have decoded := reported_record_decoded (holding [47, 97, 0, 98] 200)
  have hhead : (holding [47, 97, 0, 98] 200).used.head? ≠ some 0 := by decide
  obtain ⟨again, hagain⟩ := decoded.2.2.2.1.mpr (by decide)
  exact ⟨hhead, decoded.2.2.1 hhead (holding [47, 97, 7, 7] 4) (by decide)
    (by decide), again, hagain, decoded.2.2.2.2 again hagain⟩

end LocalSocket.Record
