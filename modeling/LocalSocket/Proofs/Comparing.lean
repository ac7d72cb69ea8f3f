import LocalSocket.Address.Components
import LocalSocket.Address.Record

/-!
# What addresses have in common that compare as equal

Addresses are compared as paths.  That is enough to keep the three kinds of
addresses apart, but not two names in the abstract namespace: to the system all
their bytes matter, to the comparison only what is essential of them as paths.

Names without anything that the comparison passes over are the same only byte
for byte.
-/

namespace LocalSocket

namespace Path

/-- The comparison does not pass over the part, unless it comes first. -/
def counts (part : Bytes) : Bool :=
  part ≠ [] ∧ part ≠ dot

/-- All that the comparison looks at in a name. -/
def essentials (name : Bytes) : List Bytes :=
  (parts name).take 1 ++ ((parts name).drop 1).filter counts

/-- There is nothing in the name that the comparison passes over. -/
def IsPlain (name : Bytes) : Prop :=
  ∀ part ∈ (parts name).drop 1, counts part = true

instance (name : Bytes) : Decidable (IsPlain name) :=
  inferInstanceAs (Decidable (∀ part ∈ (parts name).drop 1, _))

def componentOf (part : Bytes) : Component :=
  if part = dotDot then .parent else .name part

theorem componentOf_injective : Function.Injective componentOf := by
  intro part part' h
  unfold componentOf at h
  split at h <;> split at h
  · exact ‹part = _›.trans ‹part' = _›.symm
  · cases h
  · cases h
  · exact Component.name.inj h

theorem counts_iff {part : Bytes} :
    counts part = true ↔ ¬(part = [] ∨ part = dot) := by
  simp [counts]

theorem component?_eq (part : Bytes) :
    component? part =
      if counts part then some (componentOf part) else none := by
  unfold component? componentOf
  by_cases h : part = [] ∨ part = dot
  · rw [if_pos h, if_neg (mt counts_iff.mp (not_not_intro h))]
  · rw [if_neg h, if_pos (counts_iff.mpr h), apply_ite some]

theorem filterMap_component? (rest : List Bytes) :
    rest.filterMap component? = (rest.filter counts).map componentOf := by
  induction rest with
  | nil => rfl
  | cons part rest ih =>
      rw [List.filterMap_cons, component?_eq, ih]
      by_cases h : counts part = true <;> simp [h]

theorem parts_cons (byte : UInt8) (path : Bytes) :
    ∃ first rest, parts path = first :: rest ∧ parts (byte :: path) =
      if byte = slash then [] :: first :: rest
      else (byte :: first) :: rest := by
  obtain ⟨first, rest, h⟩ :=
    List.exists_cons_of_ne_nil (List.splitOn_ne_nil slash path)
  refine ⟨first, rest, h, ?_⟩
  rw [parts, List.splitOn_cons_eq_if_modifyHead, h]
  simp

theorem eq_of_parts_eq {path path' : Bytes} (h : parts path = parts path') :
    path = path' := by
  have joined : ∀ path : Bytes, [slash].intercalate (parts path) = path :=
    fun _ => List.intercalate_splitOn slash
  rw [← joined path, h, joined path']

theorem IsPlain.essentials_eq {name : Bytes} (plain : IsPlain name) :
    essentials name = parts name := by
  rw [essentials, List.filter_eq_self.mpr plain, List.take_append_drop]

/-- The first component tells what a path starts with. -/
theorem components_cons (byte : UInt8) (path : Bytes) :
    ∃ first rest, parts path = first :: rest ∧ components (byte :: path) =
      if byte = slash then
        .root :: ((first :: rest).filter counts).map componentOf
      else (if byte :: first = dot then .current
        else componentOf (byte :: first)) ::
          (rest.filter counts).map componentOf := by
  obtain ⟨first, rest, hpath, h⟩ := parts_cons byte path
  refine ⟨first, rest, hpath, ?_⟩
  rw [components, h]
  by_cases hslash : byte = slash
  · simp only [hslash, List.head?_cons, filterMap_component?]
    rfl
  · have hhead : (byte :: path).head? ≠ some slash := by simpa using hslash
    simp only [if_neg hslash, if_neg hhead, filterMap_component?]
    by_cases hdot : byte :: first = dot
    · simp only [if_pos hdot, List.singleton_append]
    · have hcounts : counts (byte :: first) = true := by simp [counts, hdot]
      simp only [if_neg hdot, component?_eq, if_pos hcounts, Option.toList_some,
        List.singleton_append]

theorem components_zero_cons (name : Bytes) :
    ∃ first rest, parts name = first :: rest ∧ components (0 :: name) =
      .name (0 :: first) :: (rest.filter counts).map componentOf := by
  obtain ⟨first, rest, hname, h⟩ := components_cons 0 name
  refine ⟨first, rest, hname, ?_⟩
  -- what starts with a NUL byte is neither "." nor ".."
  have hdot : (0 :: first : Bytes) ≠ dot := by simp [dot]
  have hdotDot : (0 :: first : Bytes) ≠ dotDot := by simp [dotDot]
  rw [h, if_neg (by decide), if_neg hdot, componentOf, if_neg hdotDot]

theorem zero_of_components {byte : UInt8} {path name : Bytes}
    {rest : List Component}
    (h : components (byte :: path) = .name (0 :: name) :: rest) : byte = 0 := by
  obtain ⟨first, others, -, hcomponents⟩ := components_cons byte path
  rw [hcomponents] at h
  by_cases hslash : byte = slash
  · rw [if_pos hslash] at h
    cases h
  rw [if_neg hslash] at h
  by_cases hdot : byte :: first = dot
  · rw [if_pos hdot] at h
    cases h
  rw [if_neg hdot, componentOf] at h
  by_cases hdotDot : byte :: first = dotDot
  · rw [if_pos hdotDot] at h
    cases h
  · rw [if_neg hdotDot] at h
    cases h
    rfl

end Path

namespace Component

theorem eq_of_rank_of_bytes {component component' : Component}
    (hrank : component.rank = component'.rank)
    (hbytes : component.bytes = component'.bytes) : component = component' := by
  cases component <;> cases component' <;> simp_all [rank, bytes]

theorem compare_eq_iff {component component' : Component} :
    compare component component' = .eq ↔ component = component' := by
  have hcompare : compare component component' =
    (compare component.rank component'.rank).then
      (compare component.bytes component'.bytes) := rfl
  rw [hcompare, Ordering.then_eq_eq, Std.compare_eq_iff_eq,
    Std.compare_eq_iff_eq]
  constructor
  · exact fun h => eq_of_rank_of_bytes h.1 h.2
  · rintro rfl
    exact ⟨rfl, rfl⟩

instance : Std.LawfulEqOrd Component where
  compare_self := compare_eq_iff.mpr rfl
  eq_of_compare := compare_eq_iff.mp

end Component

namespace Address

open LocalSocket.Path

variable {a b : Address} {name name' : Bytes}

/-! ## Kinds of addresses -/

structure SameKind (a b : Address) : Prop where
  unnamed : a.isUnnamed = b.isUnnamed
  named : a.abstractName?.isSome = b.abstractName?.isSome
  file : a.isFile = b.isFile

theorem same_iff : same a b = true ↔ a.components = b.components := by
  simp [same]

theorem isUnnamed_iff : a.isUnnamed = true ↔ a.components = [] := by
  match a with
  | ⟨[]⟩ => exact iff_of_true rfl rfl
  | ⟨byte :: path⟩ =>
      obtain ⟨first, rest, -, h⟩ := components_cons byte path
      simp only [isUnnamed, Address.components, h]
      split <;> simp

theorem abstractName?_eq_some :
    a.abstractName? = some name ↔ a = ofAbstractName name := by
  constructor
  · unfold abstractName?
    split
    · rename_i bytes hpath
      intro h
      cases h
      exact congrArg Address.mk hpath
    · exact nofun
  · rintro rfl
    rfl

theorem isSome_abstractName?_iff : a.abstractName?.isSome = true ↔
    ∃ name rest, a.components = .name (0 :: name) :: rest := by
  constructor
  · intro h
    obtain ⟨name, h⟩ := Option.isSome_iff_exists.mp h
    obtain ⟨first, rest, -, hcomponents⟩ := components_zero_cons name
    rw [abstractName?_eq_some.mp h]
    exact ⟨first, _, hcomponents⟩
  · rintro ⟨name, rest, h⟩
    match a with
    | ⟨[]⟩ => cases h
    | ⟨byte :: path⟩ =>
        obtain rfl := zero_of_components h
        rfl

theorem sameKind_of_same (h : same a b = true) : SameKind a b := by
  have hcomponents := same_iff.mp h
  have unnamed : a.isUnnamed = b.isUnnamed := by
    rw [Bool.eq_iff_iff, isUnnamed_iff, isUnnamed_iff, hcomponents]
  have named : a.abstractName?.isSome = b.abstractName?.isSome := by
    rw [Bool.eq_iff_iff, isSome_abstractName?_iff, isSome_abstractName?_iff,
      hcomponents]
  refine ⟨unnamed, named, ?_⟩
  rw [isFile, isFile, unnamed, ← Option.not_isSome, named, Option.not_isSome]

/-! ## Names -/

theorem same_ofAbstractName :
    same (ofAbstractName name) (ofAbstractName name') = true ↔
      essentials name = essentials name' := by
  obtain ⟨first, rest, hname, h⟩ := components_zero_cons name
  obtain ⟨first', rest', hname', h'⟩ := components_zero_cons name'
  rw [same_iff, Address.components, Address.components, ofAbstractName,
    ofAbstractName, h, h', essentials, essentials, hname, hname']
  simp [List.map_inj_right fun _ _ h => componentOf_injective h]

theorem eq_of_same (plain : IsPlain name) (plain' : IsPlain name')
    (h : same (ofAbstractName name) (ofAbstractName name') = true) :
    name = name' := by
  rw [same_ofAbstractName, plain.essentials_eq, plain'.essentials_eq] at h
  exact eq_of_parts_eq h

/-! ## Sets of addresses -/

theorem order_eq_iff : order a b = .eq ↔ same a b = true := by
  rw [order, Std.compare_eq_iff_eq, same_iff]

theorem distinct_of_pairwise {addresses : List Address}
    (h : addresses.Pairwise fun a b => same a b = false) :
    distinct addresses = addresses := by
  induction h with
  | nil => rfl
  | @cons address rest differs _ ih =>
      rw [distinct, ih]
      refine congrArg (address :: ·) (List.filter_eq_self.mpr ?_)
      intro other hmem
      rw [differs other hmem, Bool.not_false]

theorem distinct_ofAbstractName {names : List Bytes} (nodup : names.Nodup)
    (plain : ∀ name ∈ names, IsPlain name) :
    distinct (names.map ofAbstractName) = names.map ofAbstractName := by
  refine distinct_of_pairwise (List.pairwise_map.mpr ?_)
  refine List.Pairwise.imp_of_mem ?_ nodup
  intro name name' hmem hmem' hne
  rw [← Bool.not_eq_true]
  exact fun h => hne (eq_of_same (plain name hmem) (plain name' hmem') h)

/-- Addresses that compare as equal are of one kind.  If they are names, they
agree in all that is essential of them, and plain names agree byte for byte: of
these no two have different records, and none goes missing among others. -/
theorem addresses_told_apart :
    (∀ a b, same a b = true → SameKind a b) ∧
    (∀ a b, order a b = .eq ↔ same a b = true) ∧
    (∀ a b name name', a.abstractName? = some name →
      b.abstractName? = some name' →
        (same a b = true ↔ essentials name = essentials name')) ∧
    ∀ names : List Bytes, (∀ name ∈ names, IsPlain name) →
      (∀ name ∈ names, ∀ name' ∈ names,
        same (ofAbstractName name) (ofAbstractName name') = true →
          name = name' ∧ Record.ofAddress (ofAbstractName name) =
            Record.ofAddress (ofAbstractName name')) ∧
      (names.Nodup →
        distinct (names.map ofAbstractName) = names.map ofAbstractName) := by
  refine ⟨fun _ _ => sameKind_of_same, fun _ _ => order_eq_iff, ?names,
    fun names plain => ⟨?same, ?distinct⟩⟩
  case names =>
    intro a b name name' ha hb
    rw [abstractName?_eq_some.mp ha, abstractName?_eq_some.mp hb,
      same_ofAbstractName]
  case same =>
    intro name hmem name' hmem' h
    obtain rfl := eq_of_same (plain name hmem) (plain name' hmem') h
    exact ⟨rfl, rfl⟩
  case distinct => exact fun nodup => distinct_ofAbstractName nodup plain

/-- Three names that are one another's beginnings. -/
theorem plain_names_told_apart :
    (∀ name ∈ ([[0x78], [0x78, 0], [0x78, 0x2f, 0x79]] : List Bytes),
      IsPlain name) ∧
    (distinct (([[0x78], [0x78, 0], [0x78, 0x2f, 0x79]] : List Bytes).map
      ofAbstractName)).length = 3 := by
  have plain : ∀ name ∈ ([[0x78], [0x78, 0], [0x78, 0x2f, 0x79]] :
      List Bytes), IsPlain name := by decide
  refine ⟨plain, ?_⟩
  rw [(addresses_told_apart.2.2.2 _ plain).2 (by decide)]
  rfl

/-- Names that differ in a slash at their end, and so do their records. -/
theorem names_taken_for_one : ¬∀ a b name name',
    same a b = true → a.abstractName? = some name →
    b.abstractName? = some name' →
      name = name' ∧ Record.ofAddress a = Record.ofAddress b := by
  intro h
  have hsame : same (ofAbstractName [0x78]) (ofAbstractName [0x78, 0x2f]) =
    true := by decide
  have := (h _ _ _ _ hsame rfl rfl).1
  cases this

end Address

end LocalSocket
