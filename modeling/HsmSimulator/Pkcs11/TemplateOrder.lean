import HsmSimulator.Pkcs11.Effects
import HsmSimulator.Pkcs11.Templates

/-!
# The order of a template

A template with two entries of one type is refused before anything is read from it or any
handle is taken, so what is read afterwards is the same in every order of the entries.
-/

namespace HsmSimulator

open Checks

/-- Two calls that differ in the order of the entries of their templates only. -/
inductive Call.Reordered : Call → Call → Prop
  | generateKey {sessionHandle : Nat} {mechanism : Option Mechanism}
      {first second : Template} {hasHandle : Bool} : first.Reordered second →
      Reordered (.generateKey sessionHandle mechanism first hasHandle)
        (.generateKey sessionHandle mechanism second hasHandle)
  | generateKeyPair {sessionHandle : Nat} {mechanism : Option Mechanism}
      {publicFirst publicSecond privateFirst privateSecond : Template} {hasHandles : Bool} :
      publicFirst.Reordered publicSecond → privateFirst.Reordered privateSecond →
      Reordered (.generateKeyPair sessionHandle mechanism publicFirst privateFirst hasHandles)
        (.generateKeyPair sessionHandle mechanism publicSecond privateSecond hasHandles)
  | unwrapKey {sessionHandle : Nat} {mechanism : Option Mechanism} {wrappingHandle : Nat}
      {input : Buffer} {first second : Template} {hasHandle : Bool} : first.Reordered second →
      Reordered (.unwrapKey sessionHandle mechanism wrappingHandle input first hasHandle)
        (.unwrapKey sessionHandle mechanism wrappingHandle input second hasHandle)
  | deriveKey {sessionHandle : Nat} {mechanism : Option Mechanism} {baseKey : Nat}
      {first second : Template} {hasHandle : Bool} : first.Reordered second →
      Reordered (.deriveKey sessionHandle mechanism baseKey first hasHandle)
        (.deriveKey sessionHandle mechanism baseKey second hasHandle)
  | setAttributeValue {sessionHandle objectHandle : Nat} {first second : Template} :
      first.Reordered second →
      Reordered (.setAttributeValue sessionHandle objectHandle first)
        (.setAttributeValue sessionHandle objectHandle second)

/-- The outcome of a call: equal states, and equal responses but for the error code. -/
def SameOutcome (first second : State × Response) : Prop :=
  first = second ∨ first.1 = second.1 ∧ first.2.rv ≠ .ok ∧ second.2.rv ≠ .ok

theorem SameOutcome.refused {state : State} {code other : Rv} (failed : code ≠ .ok)
    (otherFailed : other ≠ .ok) :
    SameOutcome (state, .plain code) (state, .plain other) :=
  Or.inr ⟨rfl, failed, otherFailed⟩

/-! ## Checks that look at a template -/

/-- Two checks that give the same value where they pass, and pass together. -/
def SameChecked {α : Type} (first second : Except Rv α) : Prop :=
  first = second ∨ (∀ value, first ≠ .ok value) ∧ ∀ value, second ≠ .ok value

namespace SameChecked

variable {α β : Type} {first second : Except Rv α}

theorem refl (checked : Except Rv α) : SameChecked checked checked :=
  Or.inl rfl

theorem of_ok_iff {first second : Except Rv Unit} (same : first = .ok () ↔ second = .ok ()) :
    SameChecked first second := by
  by_cases passes : first = .ok ()
  · exact Or.inl (passes.trans (same.mp passes).symm)
  · exact Or.inr ⟨fun _ => passes, fun _ otherPasses => passes (same.mpr otherPasses)⟩

/-- What follows a check may rely on it. -/
theorem bind {rest otherRest : α → Except Rv β} (same : SameChecked first second)
    (follows : ∀ value, first = .ok value → second = .ok value →
      SameChecked (rest value) (otherRest value)) :
    SameChecked (first >>= rest) (second >>= otherRest) := by
  rcases same with rfl | ⟨fails, otherFails⟩
  · cases checked : first with
    | error code => exact Or.inl rfl
    | ok value => exact follows value checked checked
  · refine Or.inr ⟨fun value passes => ?_, fun value passes => ?_⟩
    · rcases bind_eq_ok_iff.mp passes with ⟨found, passed, _⟩
      exact fails found passed
    · rcases bind_eq_ok_iff.mp passes with ⟨found, passed, _⟩
      exact otherFails found passed

theorem bind_same (checked : Except Rv α) {rest otherRest : α → Except Rv β}
    (follows : ∀ value, checked = .ok value → SameChecked (rest value) (otherRest value)) :
    SameChecked (checked >>= rest) (checked >>= otherRest) :=
  (refl checked).bind fun value passes _ => follows value passes

/-- Two checks of a call pass with one value, or both refuse the call. -/
theorem cases (same : SameChecked first second) (fails : first ≠ .error .ok)
    (otherFails : second ≠ .error .ok) :
    (∃ value, first = .ok value ∧ second = .ok value) ∨
      ∃ code other, first = .error code ∧ second = .error other ∧ code ≠ .ok ∧ other ≠ .ok := by
  have failure {checked : Except Rv α} (never : ∀ value, checked ≠ .ok value)
      (notOk : checked ≠ .error .ok) : ∃ code, checked = .error code ∧ code ≠ .ok := by
    cases checked with
    | ok value => exact (never value rfl).elim
    | error code =>
        refine ⟨code, rfl, ?_⟩
        rintro rfl
        exact notOk rfl
  by_cases passes : ∃ value, first = .ok value
  · rcases passes with ⟨value, passes⟩
    rcases same with rfl | ⟨never, _⟩
    · exact Or.inl ⟨value, passes, passes⟩
    · exact (never value passes).elim
  · push Not at passes
    have otherNever : ∀ value, second ≠ .ok value := by
      rcases same with rfl | ⟨_, otherNever⟩
      · exact passes
      · exact otherNever
    rcases failure passes fails with ⟨code, isCode, failed⟩
    rcases failure otherNever otherFails with ⟨other, isOther, otherFailed⟩
    exact Or.inr ⟨code, other, isCode, isOther, failed, otherFailed⟩

end SameChecked

section

variable {host : Host} {oracle : Oracle} {state : State} {sessionHandle : Nat}
  {mechanism : Option Mechanism} {hasHandle : Bool} {first second : Template}

theorem distinct_of_validates {attributes : Template}
    (valid : validateCreationTemplate attributes = .ok ()) :
    (attributes.toList.map Attribute.type).Nodup :=
  (validateCreationTemplate_eq_ok_iff.mp valid).2.distinct

theorem validateCreationTemplate_reordered (reordered : first.Reordered second) :
    SameChecked (validateCreationTemplate first) (validateCreationTemplate second) := by
  apply SameChecked.of_ok_iff
  rw [validateCreationTemplate_eq_ok_iff, validateCreationTemplate_eq_ok_iff, reordered.isMissing]
  exact and_congr_right fun _ =>
    ⟨fun accepted => accepted.perm reordered.perm,
      fun accepted => accepted.perm reordered.perm.symm⟩

theorem applyCreationTemplate_reordered (reordered : first.Reordered second) (object : Object)
    (fallback : Bool) :
    SameChecked (applyCreationTemplate state object sessionHandle first fallback)
      (applyCreationTemplate state object sessionHandle second fallback) := by
  refine (validateCreationTemplate_reordered reordered).bind fun _ valid _ => Or.inl ?_
  have distinct := distinct_of_validates valid
  simp only [templateUnsigned_reordered reordered distinct,
    isTokenTemplate_reordered reordered distinct, applyPolicyTemplate_reordered reordered distinct]

/-! ## Secret keys -/

theorem generateKey_reordered (reordered : first.Reordered second) :
    SameOutcome (generateKey oracle state sessionHandle mechanism first hasHandle)
      (generateKey oracle state sessionHandle mechanism second hasHandle) := by
  have lengths : SameChecked
      (generatedKeyLength state sessionHandle mechanism first hasHandle)
      (generatedKeyLength state sessionHandle mechanism second hasHandle) := by
    refine .bind_same _ fun _ _ => .bind_same _ fun _ _ => .bind_same _ fun _ _ =>
      .bind_same _ fun _ _ => ?_
    refine (validateCreationTemplate_reordered reordered).bind fun _ valid _ => Or.inl ?_
    rw [templateUnsigned_reordered reordered (distinct_of_validates valid)]
  unfold generateKey
  rcases lengths.cases (generatedKeyLength_ne_ok _ _ _ _ _)
    (generatedKeyLength_ne_ok _ _ _ _ _) with
    ⟨length, passes, otherPasses⟩ | ⟨code, other, fails, otherFails, failed, otherFailed⟩
  swap
  · rw [fails, otherFails]
    exact .refused failed otherFailed
  have distinct := distinct_of_validates (generatedKeyLength_validates passes)
  have objects : SameChecked (generatedKey oracle state sessionHandle first length)
      (generatedKey oracle state sessionHandle second length) := by
    refine .bind_same _ fun slot _ => ?_
    simp only [templateString_reordered reordered distinct]
    exact (applyCreationTemplate_reordered reordered _ true).bind fun _ _ _ => .refl _
  simp only [passes, otherPasses]
  rcases objects.cases (generatedKey_ne_ok _ _ _ _ _) (generatedKey_ne_ok _ _ _ _ _) with
    ⟨object, made, otherMade⟩ | ⟨code, other, fails, otherFails, failed, otherFailed⟩
  · rw [made, otherMade]
    exact Or.inl rfl
  · rw [fails, otherFails]
    exact .refused failed otherFailed

theorem deriveKey_reordered {baseKey : Nat} (reordered : first.Reordered second) :
    SameOutcome (deriveKey host oracle state sessionHandle mechanism baseKey first hasHandle)
      (deriveKey host oracle state sessionHandle mechanism baseKey second hasHandle) := by
  have derived : SameChecked
      (derivation host oracle state sessionHandle mechanism baseKey first hasHandle)
      (derivation host oracle state sessionHandle mechanism baseKey second hasHandle) := by
    unfold derivation
    rw [reordered.isMissing]
    refine .bind_same _ fun _ _ => .bind_same _ fun _ _ => .bind_same _ fun _ given =>
      .bind_same _ fun data _ => .bind_same _ fun _ _ => ?_
    have lengths : SameChecked (derivedLength first data.length)
        (derivedLength second data.length) := by
      refine (SameChecked.of_ok_iff (validateEntries_ok_perm reordered.perm)).bind
        fun _ valid _ => Or.inl ?_
      have distinct := (validateEntries_eq_ok_iff.mp valid).1.distinct
      simp only [templateUnsigned_reordered reordered distinct]
    refine lengths.bind fun length passes _ => Or.inl ?_
    simp only [derivedLength, bind_eq_ok_iff] at passes
    rcases passes with ⟨_, valid, _⟩
    rw [derivationToken_reordered reordered (validateEntries_eq_ok_iff.mp valid).1.distinct]
  unfold deriveKey
  rcases derived.cases (derivation_ne_ok _ _ _ _ _ _ _ _) (derivation_ne_ok _ _ _ _ _ _ _ _) with
    ⟨⟨session, slot, value⟩, passes, otherPasses⟩ |
    ⟨code, other, fails, otherFails, failed, otherFailed⟩
  swap
  · rw [fails, otherFails]
    exact .refused failed otherFailed
  have distinct :=
    (validateDerivationTemplate_eq_ok_iff.mp (derivation_validates passes)).2.distinct
  refine Or.inl ?_
  simp only [passes, otherPasses, derivedObject, derivationToken_reordered reordered distinct,
    templateString_reordered reordered distinct, applyPolicyTemplate_reordered reordered distinct]

/-! ## Key pairs -/

theorem generateKeyPair_reordered {publicFirst publicSecond privateFirst privateSecond : Template}
    (publicReordered : publicFirst.Reordered publicSecond)
    (privateReordered : privateFirst.Reordered privateSecond) :
    SameOutcome
      (generateKeyPair host oracle state sessionHandle mechanism publicFirst privateFirst hasHandle)
      (generateKeyPair host oracle state sessionHandle mechanism publicSecond privateSecond
        hasHandle) := by
  have templates : SameChecked
      (pairTemplates state sessionHandle mechanism publicFirst privateFirst hasHandle)
      (pairTemplates state sessionHandle mechanism publicSecond privateSecond hasHandle) := by
    unfold pairTemplates
    rw [publicReordered.isMissing, privateReordered.isMissing]
    refine .bind_same _ fun _ _ => .bind_same _ fun _ _ => .bind_same _ fun _ _ => ?_
    refine (validateCreationTemplate_reordered publicReordered).bind fun _ publicValid _ => ?_
    refine (validateCreationTemplate_reordered privateReordered).bind fun _ privateValid _ => ?_
    have publicDistinct := distinct_of_validates publicValid
    have privateDistinct := distinct_of_validates privateValid
    simp only [isTokenTemplate_reordered publicReordered publicDistinct,
      isTokenTemplate_reordered privateReordered privateDistinct, generationAlgorithm,
      templateUnsigned_reordered publicReordered publicDistinct]
    refine .bind_same _ fun _ _ => .bind_same _ fun _ _ => ?_
    refine (applyCreationTemplate_reordered publicReordered _ true).bind fun _ _ _ => ?_
    exact (applyCreationTemplate_reordered privateReordered _ true).bind fun _ _ _ => .refl _
  have pairs : SameChecked
      (generatedPair oracle state sessionHandle mechanism publicFirst privateFirst hasHandle)
      (generatedPair oracle state sessionHandle mechanism publicSecond privateSecond
        hasHandle) := by
    refine templates.bind ?_
    rintro ⟨algorithm, publicPolicy, privatePolicy⟩ passes _
    rcases pairTemplates_validates passes with ⟨publicValid, privateValid⟩
    have publicDistinct := distinct_of_validates publicValid
    have privateDistinct := distinct_of_validates privateValid
    refine Or.inl ?_
    simp only [generatedEvpKey, templateUnsigned_reordered publicReordered publicDistinct,
      templateBytes_reordered publicReordered publicDistinct,
      templateString_reordered publicReordered publicDistinct,
      templateString_reordered privateReordered privateDistinct]
  unfold generateKeyPair
  rcases pairs.cases (generatedPair_ne_ok _ _ _ _ _ _ _) (generatedPair_ne_ok _ _ _ _ _ _ _) with
    ⟨request, made, otherMade⟩ | ⟨code, other, fails, otherFails, failed, otherFailed⟩
  · rw [made, otherMade]
    exact Or.inl rfl
  · rw [fails, otherFails]
    exact .refused failed otherFailed

/-! ## Unwrapping -/

theorem unwrapKey_reordered {wrappingHandle : Nat} {input : Buffer}
    (reordered : first.Reordered second) :
    SameOutcome
      (unwrapKey host oracle state sessionHandle mechanism wrappingHandle input first hasHandle)
      (unwrapKey host oracle state sessionHandle mechanism wrappingHandle input second
        hasHandle) := by
  have bytes : SameChecked
      (unwrappedBytes host oracle state sessionHandle mechanism wrappingHandle input first
        hasHandle)
      (unwrappedBytes host oracle state sessionHandle mechanism wrappingHandle input second
        hasHandle) := by
    unfold unwrappedBytes
    rw [reordered.isMissing]
    refine .bind_same _ fun _ _ => .bind_same _ fun _ _ => .bind_same _ fun _ _ =>
      .bind_same _ fun _ _ => .bind_same _ fun _ _ => ?_
    exact (validateCreationTemplate_reordered reordered).bind fun _ _ _ => .refl _
  unfold unwrapKey
  rcases bytes.cases (unwrappedBytes_ne_ok _ _ _ _ _ _ _ _ _)
      (unwrappedBytes_ne_ok _ _ _ _ _ _ _ _ _) with
    ⟨raw, passes, otherPasses⟩ | ⟨code, other, fails, otherFails, failed, otherFailed⟩
  swap
  · rw [fails, otherFails]
    exact .refused failed otherFailed
  have distinct := distinct_of_validates (unwrappedBytes_validates passes)
  simp only [passes, otherPasses, templateUnsigned_reordered reordered distinct,
    templateString_reordered reordered distinct]
  split
  · split
    · exact Or.inl rfl
    · have objects (label : Bytes) : SameChecked
          (unwrappedSecret state sessionHandle first label raw)
          (unwrappedSecret state sessionHandle second label raw) := by
        refine .bind_same _ fun slot _ => ?_
        simp only [templateString_reordered reordered distinct]
        refine (applyCreationTemplate_reordered reordered _ true).bind fun _ _ _ => Or.inl ?_
        rw [templateUnsigned_reordered reordered distinct]
      rcases (objects _).cases (unwrappedSecret_ne_ok _ _ _ _ _)
          (unwrappedSecret_ne_ok _ _ _ _ _) with
        ⟨object, made, otherMade⟩ | ⟨code, other, fails, otherFails, failed, otherFailed⟩
      · rw [made, otherMade]
        exact Or.inl rfl
      · rw [fails, otherFails]
        exact .refused failed otherFailed
  · split
    · exact Or.inl rfl
    · have pairs (label : Bytes) : SameChecked
          (unwrappedPair host state sessionHandle first label raw)
          (unwrappedPair host state sessionHandle second label raw) := by
        refine .bind_same _ fun key _ => ?_
        refine (applyCreationTemplate_reordered reordered _ true).bind fun _ _ _ => Or.inl ?_
        simp only [templateString_reordered reordered distinct]
      rcases (pairs _).cases (unwrappedPair_ne_ok _ _ _ _ _ _)
          (unwrappedPair_ne_ok _ _ _ _ _ _) with
        ⟨request, made, otherMade⟩ | ⟨code, other, fails, otherFails, failed, otherFailed⟩
      · rw [made, otherMade]
        exact Or.inl rfl
      · rw [fails, otherFails]
        exact .refused failed otherFailed

/-! ## Changing attributes -/

/-- The entries `SetAttributeValue` lets through. -/
def Changeable (object : Object) (entry : Attribute) : Prop :=
  entry.type = ckaLabel ∨ entry.type = ckaId ∨ isPolicyAttribute entry.type = true ∧
    ¬((entry.type = ckaSensitive ∧ policyValue object entry.type = true ∧
          entry.boolean = false) ∨
        (entry.type = ckaExtractable ∧ policyValue object entry.type = false ∧
          entry.boolean = true))

instance (object : Object) (entry : Attribute) : Decidable (Changeable object entry) :=
  inferInstanceAs (Decidable (_ ∨ _ ∨ _ ∧ ¬_))

/-- What an entry that is let through changes. -/
def changeAttribute (changed : Object) (entry : Attribute) : Object :=
  if entry.type = ckaLabel then
    { changed with label := templateString (.entries [entry]) entry.type [] }
  else if entry.type = ckaId then
    { changed with id := templateString (.entries [entry]) entry.type [] }
  else { changed with policy := changed.policy.insert entry.type entry.boolean }

theorem changeAttributes_cons (object changed : Object) (entry : Attribute)
    (rest : List Attribute) :
    changeAttributes object changed (entry :: rest) =
      if Changeable object entry then changeAttributes object (changeAttribute changed entry) rest
      else .error .attributeReadOnly := by
  rw [changeAttributes, changeAttribute]
  by_cases isLabel : entry.type = ckaLabel
  · have allowed : Changeable object entry := Or.inl isLabel
    rw [if_pos isLabel, if_pos isLabel, if_pos allowed]
  · by_cases isId : entry.type = ckaId
    · have allowed : Changeable object entry := Or.inr (Or.inl isId)
      rw [if_neg isLabel, if_neg isLabel, if_pos isId, if_pos isId, if_pos allowed]
    · rw [if_neg isLabel, if_neg isLabel, if_neg isId, if_neg isId]
      by_cases isPolicy : isPolicyAttribute entry.type = true
      · rw [if_pos isPolicy]
        split
        · rename_i vetoed
          rw [if_neg]
          rintro (same | same | ⟨_, allowed⟩)
          · exact isLabel same
          · exact isId same
          · exact allowed vetoed
        · rename_i admitted
          have allowed : Changeable object entry := Or.inr (Or.inr ⟨isPolicy, admitted⟩)
          rw [if_pos allowed]
      · rw [if_neg isPolicy, if_neg]
        rintro (same | same | ⟨allowed, _⟩)
        · exact isLabel same
        · exact isId same
        · exact isPolicy allowed

/-- All entries have to be let through, whatever their order. -/
theorem changeAttributes_eq (object changed : Object) (entries : List Attribute) :
    changeAttributes object changed entries =
      if ∀ entry ∈ entries, Changeable object entry then
        .ok (entries.foldl changeAttribute changed)
      else .error .attributeReadOnly := by
  induction entries generalizing changed with
  | nil => simp [changeAttributes]
  | cons entry rest ih =>
      rw [changeAttributes_cons, ih, List.foldl_cons]
      simp only [List.forall_mem_cons]
      by_cases allowed : Changeable object entry
      · simp only [allowed, true_and, if_true]
      · simp only [allowed, false_and, if_false]

theorem changeAttribute_comm (changed : Object) (first second : Attribute)
    (different : first.type ≠ second.type) :
    changeAttribute (changeAttribute changed first) second =
      changeAttribute (changeAttribute changed second) first := by
  unfold changeAttribute
  by_cases isLabel : first.type = ckaLabel
  · have otherIsNot : second.type ≠ ckaLabel := fun same => different (isLabel.trans same.symm)
    simp only [isLabel, otherIsNot, if_true, if_false]
    split <;> rfl
  · by_cases isId : first.type = ckaId
    · have otherIsNot : second.type ≠ ckaId := fun same => different (isId.trans same.symm)
      rw [if_neg isLabel, if_neg isLabel, if_pos isId, if_pos isId]
      simp only [otherIsNot, if_false]
      split <;> rfl
    · simp only [isLabel, isId, if_false]
      split
      · rfl
      · split
        · rfl
        · simp only [OrderedMap.insert_comm changed.policy different]

theorem changeAttributes_perm (object : Object) {entries other : List Attribute}
    (distinct : (entries.map Attribute.type).Nodup) (perm : entries.Perm other) :
    changeAttributes object object entries = changeAttributes object object other := by
  rw [changeAttributes_eq, changeAttributes_eq,
    foldl_type_perm distinct perm changeAttribute_comm object]
  simp only [perm.mem_iff]

theorem setAttributeValue_reordered {handle : Nat} (reordered : first.Reordered second) :
    SameOutcome (setAttributeValue state oracle sessionHandle handle first)
      (setAttributeValue state oracle sessionHandle handle second) := by
  have changes : SameChecked (changedObject state sessionHandle handle first)
      (changedObject state sessionHandle handle second) := by
    refine .bind_same _ fun object _ => ?_
    refine (validateCreationTemplate_reordered reordered).bind fun _ valid _ => Or.inl ?_
    exact changeAttributes_perm object (distinct_of_validates valid) reordered.perm
  unfold setAttributeValue
  rcases changes.cases (changedObject_ne_ok _ _ _ _) (changedObject_ne_ok _ _ _ _) with
    ⟨changed, passes, otherPasses⟩ | ⟨code, other, fails, otherFails, failed, otherFailed⟩
  · rw [passes, otherPasses]
    exact Or.inl rfl
  · rw [fails, otherFails]
    exact .refused failed otherFailed

end

/-! ## All calls -/

theorem step_reordered {first second : Call} (reordered : first.Reordered second) (host : Host)
    (state : State) (oracle : Oracle) :
    SameOutcome (step host state (first, oracle)) (step host state (second, oracle)) := by
  have needs : first.needsInitialization = second.needsInitialization := by
    cases reordered <;> rfl
  unfold step
  dsimp only
  rw [needs]
  split
  · exact Or.inl rfl
  · cases reordered with
    | generateKey reordered => exact generateKey_reordered reordered
    | generateKeyPair publicReordered privateReordered =>
        exact generateKeyPair_reordered publicReordered privateReordered
    | unwrapKey reordered => exact unwrapKey_reordered reordered
    | deriveKey reordered => exact deriveKey_reordered reordered
    | setAttributeValue reordered => exact setAttributeValue_reordered reordered

/-- The order of the entries of a template decides neither whether a call succeeds nor what
it leaves, as only templates without duplicates are accepted. -/
theorem template_order_irrelevant (host : Host) (state : State) (oracle : Oracle)
    (first second : Call) (reordered : first.Reordered second) :
    ((step host state (first, oracle)).2.rv = .ok ↔
        (step host state (second, oracle)).2.rv = .ok) ∧
      ((step host state (first, oracle)).2.rv = .ok →
        (step host state (first, oracle)).2 = (step host state (second, oracle)).2) ∧
      (step host state (first, oracle)).1 = (step host state (second, oracle)).1 ∧
      ∀ attributes : Template, validateCreationTemplate attributes = .ok () ↔
        attributes.isMissing = false ∧ (attributes.toList.map Attribute.type).Nodup ∧
          ∀ entry ∈ attributes.toList, validateCreationAttribute entry = .ok () := by
  have validates (attributes : Template) : validateCreationTemplate attributes = .ok () ↔
      attributes.isMissing = false ∧ (attributes.toList.map Attribute.type).Nodup ∧
        ∀ entry ∈ attributes.toList, validateCreationAttribute entry = .ok () := by
    rw [validateCreationTemplate_eq_ok_iff]
    exact and_congr_right fun _ => ⟨fun accepted => ⟨accepted.distinct, accepted.valid⟩,
      fun ⟨distinct, valid⟩ => ⟨distinct, valid⟩⟩
  rcases step_reordered reordered host state oracle with same | ⟨sameState, failed, otherFailed⟩
  · rw [same]
    exact ⟨Iff.rfl, fun _ => rfl, rfl, validates⟩
  · exact ⟨⟨fun passes => (failed passes).elim, fun passes => (otherFailed passes).elim⟩,
      fun passes => (failed passes).elim, sameState, validates⟩

/-- An AES key whose template is given. -/
def chosenAesKey (attributes : List Attribute) : Call :=
  .generateKey 1 (some ⟨ckmAesKeyGen, .null 0⟩) (.entries attributes) true

theorem template_order_irrelevant_aesKey :
    (step .plain plainSession
        (chosenAesKey [⟨ckaLabel, .bytes [65]⟩, ⟨ckaSensitive, .bytes [1]⟩], .plain)).2.rv = .ok ∧
      (step .plain plainSession
        (chosenAesKey [⟨ckaSensitive, .bytes [1]⟩, ⟨ckaLabel, .bytes [65]⟩], .plain)).1 =
      (step .plain plainSession
        (chosenAesKey [⟨ckaLabel, .bytes [65]⟩, ⟨ckaSensitive, .bytes [1]⟩], .plain)).1 :=
  ⟨by decide, (template_order_irrelevant .plain plainSession .plain _ _
    (.generateKey (.entries (List.Perm.swap _ _ _)))).2.2.1⟩

end HsmSimulator
