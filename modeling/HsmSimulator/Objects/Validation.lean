import HsmSimulator.Crypto.Derivation

/-!
# Accepted templates

A validation loop accepts a template exactly where the types of the entries are distinct
and each entry is accepted on its own.  An accepted template is a map from types to values:
what is read from it does not depend on the order of its entries.  The two loops of the
module are compared entry by entry.
-/

namespace HsmSimulator

open Checks

/-! ## The loop -/

/-- A template without duplicates whose entries are each accepted. -/
structure AcceptedEntries (validate : Attribute → Except Rv Unit) (entries : List Attribute) :
    Prop where
  distinct : (entries.map Attribute.type).Nodup
  valid : ∀ entry ∈ entries, validate entry = .ok ()

theorem validateEntries_eq_ok_iff {validate : Attribute → Except Rv Unit} {seen : List Nat}
    {entries : List Attribute} :
    validateEntries validate seen entries = .ok () ↔
      AcceptedEntries validate entries ∧ ∀ entry ∈ entries, entry.type ∉ seen := by
  induction entries generalizing seen with
  | nil => simp [validateEntries, show AcceptedEntries validate [] from ⟨by simp, by simp⟩]
  | cons entry rest ih =>
      simp only [validateEntries, bind_eq_ok_iff, require_eq_ok_iff, ih]
      constructor
      · rintro ⟨_, isNew, _, valid, accepted, unseen⟩
        refine ⟨⟨?_, ?_⟩, ?_⟩
        · rw [List.map_cons, List.nodup_cons]
          refine ⟨?_, accepted.distinct⟩
          intro member
          rcases List.mem_map.mp member with ⟨other, listed, same⟩
          exact unseen other listed (by simp [same])
        · rw [List.forall_mem_cons]
          exact ⟨valid, accepted.valid⟩
        · rw [List.forall_mem_cons]
          exact ⟨isNew, fun other member listed =>
            unseen other member (List.mem_cons_of_mem _ listed)⟩
      · rintro ⟨accepted, unseen⟩
        rcases List.forall_mem_cons.mp unseen with ⟨isNew, restUnseen⟩
        rcases List.forall_mem_cons.mp accepted.valid with ⟨valid, restValid⟩
        have distinct := accepted.distinct
        rw [List.map_cons, List.nodup_cons] at distinct
        refine ⟨(), isNew, (), valid, ⟨distinct.2, restValid⟩, ?_⟩
        intro other member listed
        rcases List.mem_cons.mp listed with same | listed
        · exact distinct.1 (List.mem_map.mpr ⟨other, member, same⟩)
        · exact restUnseen other member listed

/-- The validation accepts exactly the templates whose types are distinct and whose
entries are each valid. -/
theorem validateCreationTemplate_eq_ok_iff {attributes : Template} :
    validateCreationTemplate attributes = .ok () ↔ attributes.isMissing = false ∧
      AcceptedEntries validateCreationAttribute attributes.toList := by
  simp only [validateCreationTemplate, bind_eq_ok_iff, require_eq_ok_iff,
    validateEntries_eq_ok_iff, List.not_mem_nil, not_false_eq_true, implies_true, and_true]
  exact ⟨fun ⟨_, present, accepted⟩ => ⟨present, accepted⟩,
    fun ⟨present, accepted⟩ => ⟨(), present, accepted⟩⟩

/-- Two loops that agree on every entry agree. -/
theorem validateEntries_congr {first second : Attribute → Except Rv Unit}
    {entries : List Attribute} (same : ∀ entry ∈ entries, first entry = second entry)
    (seen : List Nat) :
    validateEntries first seen entries = validateEntries second seen entries := by
  induction entries generalizing seen with
  | nil => rfl
  | cons entry rest ih =>
      rcases List.forall_mem_cons.mp same with ⟨here, others⟩
      simp only [validateEntries, here, ih others]

theorem AcceptedEntries.mono {strict lenient : Attribute → Except Rv Unit}
    {entries : List Attribute} (accepted : AcceptedEntries strict entries)
    (weaker : ∀ entry, strict entry = .ok () → lenient entry = .ok ()) :
    AcceptedEntries lenient entries :=
  ⟨accepted.distinct, fun entry member => weaker entry (accepted.valid entry member)⟩

/-! ## Order of the entries -/

/-- The same entries in another order. -/
inductive Template.Reordered : Template → Template → Prop
  | null (count : Nat) : Reordered (.null count) (.null count)
  | entries {first second : List Attribute} : first.Perm second →
      Reordered (.entries first) (.entries second)

namespace Template.Reordered

variable {first second : Template}

theorem perm (reordered : Reordered first second) : first.toList.Perm second.toList := by
  cases reordered with
  | null count => exact .refl _
  | entries perm => exact perm

theorem isMissing (reordered : Reordered first second) : first.isMissing = second.isMissing := by
  cases reordered <;> rfl

end Template.Reordered

theorem AcceptedEntries.perm {validate : Attribute → Except Rv Unit}
    {entries other : List Attribute} (accepted : AcceptedEntries validate entries)
    (perm : entries.Perm other) : AcceptedEntries validate other :=
  ⟨(perm.map _).nodup_iff.mp accepted.distinct,
    fun entry member => accepted.valid entry (perm.mem_iff.mpr member)⟩

/-- Acceptance does not depend on the order. -/
theorem validateEntries_ok_perm {validate : Attribute → Except Rv Unit}
    {entries other : List Attribute} (perm : entries.Perm other) :
    validateEntries validate [] entries = .ok () ↔ validateEntries validate [] other = .ok () := by
  simp only [validateEntries_eq_ok_iff, List.not_mem_nil, not_false_eq_true, implies_true, and_true]
  exact ⟨fun accepted => accepted.perm perm, fun accepted => accepted.perm perm.symm⟩

section

variable {entries other : List Attribute} (distinct : (entries.map Attribute.type).Nodup)
  (perm : entries.Perm other)

include distinct

/-- Without duplicates the first entry of a type is the entry of that type. -/
theorem find?_type_eq_some_iff {type : Nat} {entry : Attribute} :
    entries.find? (fun entry => entry.type = type) = some entry ↔
      entry ∈ entries ∧ entry.type = type := by
  constructor
  · intro found
    exact ⟨List.mem_of_find?_eq_some found, by simpa using List.find?_some found⟩
  · rintro ⟨member, rfl⟩
    cases found : entries.find? fun listed => listed.type = entry.type with
    | none => simpa using List.find?_eq_none.mp found entry member
    | some listed =>
        have same : listed.type = entry.type := by simpa using List.find?_some found
        rw [List.inj_on_of_nodup_map distinct (List.mem_of_find?_eq_some found) member same]

include perm

theorem find?_type_perm (type : Nat) :
    entries.find? (fun entry => entry.type = type) =
      other.find? fun entry => entry.type = type := by
  ext entry
  rw [find?_type_eq_some_iff distinct,
    find?_type_eq_some_iff ((perm.map _).nodup_iff.mp distinct), perm.mem_iff]

/-- A fold that may exchange entries of different types does not depend on the order. -/
theorem foldl_type_perm {σ : Type} {update : σ → Attribute → σ}
    (exchange : ∀ state first second, first.type ≠ second.type →
      update (update state first) second = update (update state second) first) (state : σ) :
    entries.foldl update state = other.foldl update state := by
  refine perm.foldl_eq' ?_ state
  intro first firstListed second secondListed state
  by_cases same : first.type = second.type
  · rw [List.inj_on_of_nodup_map distinct firstListed secondListed same]
  · exact exchange state first second same

end

section

variable {first second : Template} (reordered : first.Reordered second)
  (distinct : (first.toList.map Attribute.type).Nodup)

include reordered distinct

theorem templateBytes_reordered (type : Nat) :
    templateBytes first type = templateBytes second type := by
  rw [templateBytes, templateBytes, find?_type_perm distinct reordered.perm]

theorem templateString_reordered (type : Nat) (fallback : Bytes) :
    templateString first type fallback = templateString second type fallback := by
  rw [templateString, templateString, templateBytes_reordered reordered distinct]

theorem templateUnsigned_reordered (type : Nat) :
    templateUnsigned first type = templateUnsigned second type := by
  rw [templateUnsigned, templateUnsigned, templateBytes_reordered reordered distinct]

theorem isTokenTemplate_reordered (fallback : Bool) :
    isTokenTemplate first fallback = isTokenTemplate second fallback := by
  rw [isTokenTemplate, isTokenTemplate, templateBytes_reordered reordered distinct]

theorem applyPolicyTemplate_reordered (policy : OrderedMap Nat Bool) :
    applyPolicyTemplate policy first = applyPolicyTemplate policy second := by
  refine foldl_type_perm distinct reordered.perm ?_ policy
  intro current entry other different
  by_cases isPolicy : isPolicyAttribute entry.type = true
  · by_cases otherIsPolicy : isPolicyAttribute other.type = true
    · simp only [isPolicy, otherIsPolicy, if_true]
      exact OrderedMap.insert_comm current different _ _
    · simp only [isPolicy, otherIsPolicy, if_true, Bool.false_eq_true, if_false]
  · simp only [isPolicy, Bool.false_eq_true, if_false]

theorem derivationToken_reordered : derivationToken first = derivationToken second := by
  refine foldl_type_perm distinct reordered.perm ?_ false
  intro token entry other different
  by_cases isToken : entry.type = ckaToken
  · have otherIsNot : other.type ≠ ckaToken := fun same => different (isToken.trans same.symm)
    simp only [isToken, otherIsNot, if_true, if_false]
  · simp only [isToken, if_false]

end

/-! ## What an accepted template holds -/

/-- A boolean that may be read. -/
def Buffer.IsBoolean (value : Buffer) : Prop :=
  ∃ flag : Bool, value = .bytes [if flag then 1 else 0]

/-- An integer that may be read. -/
def Buffer.IsUlong (value : Buffer) : Prop :=
  ∃ content, value = .bytes content ∧ content.length = sizeofCkUlong

/-- Every entry that is read without a test has a value of the right size behind it. -/
structure ReadableEntries (entries : List Attribute) : Prop where
  boolean : ∀ entry ∈ entries, isPolicyAttribute entry.type = true ∨ entry.type = ckaToken →
    entry.value.IsBoolean
  ulong : ∀ entry ∈ entries, ulongAttributes.contains entry.type = true → entry.value.IsUlong

theorem isBoolean_content_iff {value : Buffer} :
    isBoolean value.content = true ↔ value.IsBoolean := by
  constructor
  · intro boolean
    cases value with
    | null length => contradiction
    | bytes content =>
        match content, boolean with
        | [byte], boolean =>
            simp only [Buffer.content, isBoolean, Bool.or_eq_true, decide_eq_true_eq] at boolean
            rcases boolean with rfl | rfl
            · exact ⟨false, rfl⟩
            · exact ⟨true, rfl⟩
  · rintro ⟨flag, rfl⟩
    cases flag <;> rfl

theorem isUlong_iff {value : Buffer} :
    value.isNull = false ∧ value.length = sizeofCkUlong ↔ value.IsUlong := by
  constructor
  · rintro ⟨present, length⟩
    cases value with
    | null length => contradiction
    | bytes content => exact ⟨content, rfl, length⟩
  · rintro ⟨content, rfl, length⟩
    exact ⟨rfl, length⟩

theorem AcceptedEntries.readable {entries : List Attribute}
    (accepted : AcceptedEntries validateCreationAttribute entries) : ReadableEntries entries := by
  constructor
  · intro entry member isBooleanType
    have valid := accepted.valid entry member
    have isType : (isPolicyAttribute entry.type || decide (entry.type = ckaToken)) = true := by
      simpa using isBooleanType
    simp only [validateCreationAttribute, isType, if_true, bind_eq_ok_iff,
      require_eq_ok_iff] at valid
    exact isBoolean_content_iff.mp valid.choose_spec.2
  · intro entry member isUlongType
    have valid := accepted.valid entry member
    have notBoolean : (isPolicyAttribute entry.type || decide (entry.type = ckaToken)) = false := by
      simp only [ulongAttributes, List.contains_iff_mem, List.mem_cons, List.not_mem_nil,
        or_false] at isUlongType
      rcases isUlongType with same | same | same | same | same <;> rw [same] <;> decide
    simp only [validateCreationAttribute, notBoolean, isUlongType, if_true, Bool.false_eq_true,
      if_false, bind_eq_ok_iff, require_eq_ok_iff] at valid
    exact isUlong_iff.mp valid.choose_spec.2

end HsmSimulator
