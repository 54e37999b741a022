import HsmSimulator.Objects.Attributes

/-!
# What reading attributes accounts for

After a read every entry says whether its value was delivered, needs a larger buffer, or
is not available.  One path does not say so: where OpenSSL fails on a query about an EC
key, the length stays what the caller put there.
-/

namespace HsmSimulator

/-- What an object has to deliver. -/
def AttributeValue.value? : AttributeValue → Option Bytes
  | .available value => some value
  | .unavailable _ => none
  | .failed _ => none

/-- The code that goes with a value that is not there. -/
def AttributeValue.code? : AttributeValue → Option Rv
  | .available _ => none
  | .unavailable code => some code
  | .failed code => some code

/-- The situations an entry may be in after a read. -/
inductive Situation
  | delivered
  | tooSmall
  | notAvailable
  deriving DecidableEq

/-- What a situation means for an entry. -/
def InSituation (openSsl : OpenSsl) (object : Object) (query : AttributeQuery)
    (result : AttributeResult) : Situation → Prop
  | .delivered => ∃ value, (attributeValue openSsl object query.type).value? = some value ∧
      (query.hasBuffer = true → value.length ≤ query.length) ∧ result.length = value.length ∧
      result.written = if query.hasBuffer then some value else none
  | .tooSmall => ∃ value, (attributeValue openSsl object query.type).value? = some value ∧
      query.hasBuffer = true ∧ query.length < value.length ∧ result.length = value.length ∧
      result.written = none
  | .notAvailable => (attributeValue openSsl object query.type).value? = none ∧
      result.length = ckUnavailableInformation ∧ result.written = none

/-- A read accounts for every entry, in its own right. -/
structure ReadAccounted (openSsl : OpenSsl) (object : Object) (queries : List AttributeQuery) :
    Prop where
  entries : ∃ results, (readAttributes openSsl object (.entries queries)).output =
      .attributes results ∧
    List.Forall₂
      (fun query result => ∃! situation, InSituation openSsl object query result situation)
      queries results
  alone : ∃ results, (readAttributes openSsl object (.entries queries)).output =
      .attributes results ∧
    List.Forall₂ (fun query result => (readAttributes openSsl object (.entries [query])).output =
      .attributes [result]) queries results
  ok : (readAttributes openSsl object (.entries queries)).rv = .ok ↔
    ∃ results, (readAttributes openSsl object (.entries queries)).output = .attributes results ∧
      List.Forall₂ (fun query result => InSituation openSsl object query result .delivered)
        queries results
  /-- A read with a buffer of the length that was delivered to a query delivers. -/
  again : ∀ query ∈ queries, query.hasBuffer = false → ∀ result,
    (readAttributes openSsl object (.entries [query])).output = .attributes [result] →
    InSituation openSsl object query result .delivered → ∃ read,
      (readAttributes openSsl object (.entries [⟨query.type, true, result.length⟩])).output =
        .attributes [read] ∧
      InSituation openSsl object ⟨query.type, true, result.length⟩ read .delivered

/-- OpenSSL fails on the query an entry makes about an EC key. -/
def EcQueryFails (openSsl : OpenSsl) (object : Object) (type : Nat) : Prop :=
  object.keyType = ckkEc ∧ ∃ key, object.asymmetricKey = some key ∧
    (type = ckaEcParams ∧ (openSsl.groupName key).bind openSsl.groupOid = none ∨
      type = ckaEcPoint ∧ (openSsl.encodedPoint key).bind openSsl.octetString = none)

/-! ## What an object has -/

section

variable (openSsl : OpenSsl) (object : Object) (type : Nat)

theorem rsaAttribute_code :
    (rsaAttribute openSsl object type).code? ≠ some .ok ∧
      ∀ code, rsaAttribute openSsl object type ≠ .failed code := by
  unfold rsaAttribute
  dsimp only
  split <;> simp [AttributeValue.code?]

theorem ecAttribute_code : (ecAttribute openSsl object type).code? ≠ some .ok := by
  unfold ecAttribute
  split
  · simp [AttributeValue.code?]
  · split <;> simp [AttributeValue.code?]

theorem valueAttribute_code :
    (valueAttribute object).code? ≠ some .ok ∧ ∀ code, valueAttribute object ≠ .failed code := by
  unfold valueAttribute
  split
  · split <;> simp [AttributeValue.code?]
  · split <;> simp [AttributeValue.code?]

/-- A value that is not there has an error code, and only the queries about an EC key may
fail. -/
theorem attributeValue_code :
    (attributeValue openSsl object type).code? ≠ some .ok ∧
      ∀ code, attributeValue openSsl object type = .failed code →
        (type = ckaEcParams ∨ type = ckaEcPoint) ∧
          ecAttribute openSsl object type = .failed code := by
  have either {condition : Prop} [Decidable condition] {first second : AttributeValue}
      {Fails : Rv → Prop}
      (isFirst : first.code? ≠ some .ok ∧ ∀ code, first = .failed code → Fails code)
      (isSecond : second.code? ≠ some .ok ∧ ∀ code, second = .failed code → Fails code) :
      (if condition then first else second).code? ≠ some .ok ∧
        ∀ code, (if condition then first else second) = .failed code → Fails code := by
    split
    · exact isFirst
    · exact isSecond
  have available (value : Bytes) {Fails : Rv → Prop} :
      (AttributeValue.available value).code? ≠ some .ok ∧
        ∀ code, AttributeValue.available value = .failed code → Fails code := by
    simp [AttributeValue.code?]
  have unavailable {Fails : Rv → Prop} :
      (AttributeValue.unavailable .attributeTypeInvalid).code? ≠ some .ok ∧
        ∀ code, AttributeValue.unavailable .attributeTypeInvalid = .failed code → Fails code := by
    simp [AttributeValue.code?]
  unfold attributeValue
  refine either (available _) (either (available _) (either ?_ (either ?_ ?_)))
  · split
    · exact available _
    · exact unavailable
  · exact ⟨(rsaAttribute_code openSsl object type).1,
      fun code failed => ((rsaAttribute_code openSsl object type).2 code failed).elim⟩
  · by_cases isEc : type = ckaEcParams ∨ type = ckaEcPoint
    · rw [if_pos isEc]
      exact ⟨ecAttribute_code openSsl object type, fun code failed => ⟨isEc, failed⟩⟩
    · rw [if_neg isEc]
      refine either (available _) (either (available _) (either (available _)
        (either (available _) (either (either unavailable (available _)) (either ?_ unavailable)))))
      exact ⟨(valueAttribute_code object).1,
        fun code failed => ((valueAttribute_code object).2 code failed).elim⟩

theorem attributeValue_failed_iff :
    (∃ code, attributeValue openSsl object type = .failed code) ↔
      EcQueryFails openSsl object type := by
  have branch (isEc : type = ckaEcParams ∨ type = ckaEcPoint) :
      attributeValue openSsl object type = ecAttribute openSsl object type := by
    rcases isEc with rfl | rfl <;> rfl
  constructor
  · rintro ⟨code, failed⟩
    rcases (attributeValue_code openSsl object type).2 code failed with ⟨isEc, ecFailed⟩
    unfold ecAttribute at ecFailed
    split at ecFailed
    · contradiction
    · rename_i key isKey
      split at isKey
      · rename_i ecKey
        refine ⟨ecKey, key, isKey, ?_⟩
        split at ecFailed
        · contradiction
        · rename_i failure
          rcases isEc with rfl | rfl
          · exact Or.inl ⟨rfl, failure⟩
          · exact Or.inr ⟨rfl, failure⟩
      · contradiction
  · rintro ⟨ecKey, key, isKey, ⟨rfl, failure⟩ | ⟨rfl, failure⟩⟩
    · rw [branch (Or.inl rfl)]
      exact ⟨.deviceError, by simp [ecAttribute, ecKey, isKey, failure]⟩
    · rw [branch (Or.inr rfl)]
      exact ⟨.deviceError, by simp [ecAttribute, ecKey, isKey, failure, ckaEcPoint, ckaEcParams]⟩

end

/-! ## One entry -/

section

variable {openSsl : OpenSsl} {object : Object} {query : AttributeQuery}

/-- An entry is delivered exactly where its pass reports no error. -/
theorem readAttribute_ok_iff :
    (readAttribute openSsl object query).2 = .ok ↔
      InSituation openSsl object query (readAttribute openSsl object query).1 .delivered := by
  have codes := (attributeValue_code openSsl object query.type).1
  unfold readAttribute InSituation
  cases stored : attributeValue openSsl object query.type with
  | available value =>
      simp only [AttributeValue.value?, Option.some.injEq, exists_eq_left', writeAttribute]
      split
      · rename_i noBuffer
        simp [noBuffer]
      · rename_i buffer
        rw [Bool.not_eq_false] at buffer
        split
        · simp [buffer]
        · rename_i fits
          have room : value.length ≤ query.length := Nat.le_of_not_lt fits
          simp [room, buffer]
  | unavailable code =>
      rw [stored] at codes
      simpa [AttributeValue.value?, AttributeValue.code?] using codes
  | failed code =>
      rw [stored] at codes
      simpa [AttributeValue.value?, AttributeValue.code?] using codes

/-- No entry is in two situations. -/
theorem InSituation.unique {result : AttributeResult} {first second : Situation}
    (isFirst : InSituation openSsl object query result first)
    (isSecond : InSituation openSsl object query result second) : first = second := by
  cases first with
  | delivered =>
      rcases isFirst with ⟨value, isValue, room, _, written⟩
      cases second with
      | delivered => rfl
      | tooSmall =>
          rcases isSecond with ⟨other, isOther, buffer, short, _, _⟩
          cases isValue.symm.trans isOther
          have fits := room buffer
          omega
      | notAvailable =>
          cases isValue.symm.trans isSecond.1
  | tooSmall =>
      rcases isFirst with ⟨value, isValue, buffer, short, _, _⟩
      cases second with
      | delivered =>
          rcases isSecond with ⟨other, isOther, room, _, _⟩
          cases isValue.symm.trans isOther
          have fits := room buffer
          omega
      | tooSmall => rfl
      | notAvailable => cases isValue.symm.trans isSecond.1
  | notAvailable =>
      cases second with
      | delivered =>
          rcases isSecond with ⟨other, isOther, _⟩
          cases isFirst.1.symm.trans isOther
      | tooSmall =>
          rcases isSecond with ⟨other, isOther, _⟩
          cases isFirst.1.symm.trans isOther
      | notAvailable => rfl

/-- An entry is accounted for unless its query fails and its length is left as it was. -/
theorem readAttribute_accounted_iff :
    (∃! situation,
        InSituation openSsl object query (readAttribute openSsl object query).1 situation) ↔
      (EcQueryFails openSsl object query.type → query.length = ckUnavailableInformation) := by
  have unique_iff : (∃! situation,
      InSituation openSsl object query (readAttribute openSsl object query).1 situation) ↔
      ∃ situation,
        InSituation openSsl object query (readAttribute openSsl object query).1 situation :=
    ⟨fun ⟨situation, holds, _⟩ => ⟨situation, holds⟩,
      fun ⟨situation, holds⟩ => ⟨situation, holds, fun _ other => other.unique holds⟩⟩
  rw [unique_iff, ← attributeValue_failed_iff]
  by_cases passes : (readAttribute openSsl object query).2 = .ok
  · have delivered := readAttribute_ok_iff.mp passes
    refine ⟨fun _ => ?_, fun _ => ⟨.delivered, delivered⟩⟩
    rintro ⟨code, failed⟩
    rcases delivered with ⟨value, isValue, _⟩
    rw [failed] at isValue
    contradiction
  · unfold readAttribute at passes ⊢
    cases stored : attributeValue openSsl object query.type with
    | available value =>
        simp only [stored, writeAttribute] at passes
        split at passes
        · exact (passes rfl).elim
        · rename_i buffer
          split at passes
          · rename_i short
            refine ⟨fun _ => by simp, fun _ => ⟨.tooSmall, value, by rw [stored]; rfl, ?_⟩⟩
            simp [writeAttribute, buffer, short]
          · exact (passes rfl).elim
    | unavailable code =>
        exact ⟨fun _ => by simp, fun _ => ⟨.notAvailable, by rw [stored]; rfl, rfl, rfl⟩⟩
    | failed code =>
        constructor
        · rintro ⟨situation, holds⟩ _
          cases situation with
          | delivered =>
              rcases holds with ⟨value, isValue, _⟩
              rw [stored] at isValue
              contradiction
          | tooSmall =>
              rcases holds with ⟨value, isValue, _⟩
              rw [stored] at isValue
              contradiction
          | notAvailable => exact holds.2.1
        · intro kept
          exact ⟨.notAvailable, by rw [stored]; rfl, kept ⟨code, rfl⟩, rfl⟩

/-- A length that was delivered is enough room. -/
theorem readAttribute_again {length : Nat} (result : AttributeResult)
    (delivered : InSituation openSsl object query result .delivered)
    (isLength : result.length = length) :
    InSituation openSsl object ⟨query.type, true, length⟩
      (readAttribute openSsl object ⟨query.type, true, length⟩).1 .delivered := by
  rcases delivered with ⟨value, isValue, _, sameLength, _⟩
  rw [← readAttribute_ok_iff]
  unfold readAttribute
  cases stored : attributeValue openSsl object query.type with
  | available available =>
      rw [stored] at isValue
      cases isValue
      simp [writeAttribute, ← isLength, sameLength]
  | unavailable code =>
      rw [stored] at isValue
      contradiction
  | failed code =>
      rw [stored] at isValue
      contradiction

end

/-! ## Whole templates -/

/-- No error is left exactly where there was none. -/
theorem lastError_eq_ok_iff {codes : List Rv} :
    lastError codes = .ok ↔ ∀ code ∈ codes, code = .ok := by
  have kept (codes : List Rv) (result : Rv) :
      codes.foldl (fun result code => if code = .ok then result else code) result = .ok ↔
        result = .ok ∧ ∀ code ∈ codes, code = .ok := by
    induction codes generalizing result with
    | nil => simp
    | cons code rest ih =>
        rw [List.foldl_cons, ih, List.forall_mem_cons]
        by_cases isOk : code = .ok
        · simp [isOk]
        · simp [isOk]
  unfold lastError
  rw [kept]
  simp

theorem readAttributes_output (openSsl : OpenSsl) (object : Object)
    (queries : List AttributeQuery) :
    (readAttributes openSsl object (.entries queries)).output =
      .attributes (queries.map fun query => (readAttribute openSsl object query).1) := by
  simp [readAttributes, Function.comp_def]

/-- Statements about the results of a template are statements about its entries. -/
theorem readAttributes_forall₂_iff {openSsl : OpenSsl} {object : Object}
    {queries : List AttributeQuery} {holds : AttributeQuery → AttributeResult → Prop} :
    (∃ results, (readAttributes openSsl object (.entries queries)).output = .attributes results ∧
        List.Forall₂ holds queries results) ↔
      ∀ query ∈ queries, holds query (readAttribute openSsl object query).1 := by
  rw [readAttributes_output]
  simp only [Output.attributes.injEq, exists_eq_left', List.forall₂_map_right_iff,
    List.forall₂_same]

/-- Reading attributes accounts for every entry exactly where OpenSSL fails on no query
about an EC key, or the caller's length says already that there is no value. -/
theorem attributes_accounted_iff (openSsl : OpenSsl) (object : Object)
    (queries : List AttributeQuery) :
    ReadAccounted openSsl object queries ↔ ∀ query ∈ queries,
      EcQueryFails openSsl object query.type → query.length = ckUnavailableInformation := by
  constructor
  · intro accounted query member
    exact readAttribute_accounted_iff.mp
      (readAttributes_forall₂_iff.mp accounted.entries query member)
  · intro kept
    constructor
    · rw [readAttributes_forall₂_iff]
      exact fun query member => readAttribute_accounted_iff.mpr (kept query member)
    · rw [readAttributes_forall₂_iff]
      exact fun query _ => readAttributes_output openSsl object [query]
    · rw [readAttributes_forall₂_iff]
      change lastError _ = .ok ↔ _
      rw [lastError_eq_ok_iff]
      simp only [List.mem_map, forall_exists_index, and_imp, forall_apply_eq_imp_iff₂,
        readAttribute_ok_iff]
    · intro query _ _ result isResult delivered
      rw [readAttributes_output] at isResult ⊢
      exact ⟨_, rfl, readAttribute_again result delivered rfl⟩

/-- A key of the plain environment, whose queries all fail. -/
def unanswered : Object :=
  { Object.initial with
    objectClass := ckoPublicKey
    keyType := ckkEc
    asymmetricKey := some ⟨ascii "EC"⟩ }

/-- The caller's length stays as if it were the length of the point. -/
theorem attributes_accounted_iff_staleLength :
    readAttributes .plain unanswered (.entries [⟨ckaEcPoint, true, 65⟩]) =
        ⟨.deviceError, .attributes [⟨65, none⟩], none⟩ ∧
      ¬ReadAccounted .plain unanswered [⟨ckaEcPoint, true, 65⟩] := by
  refine ⟨by decide, ?_⟩
  intro accounted
  rcases accounted.entries with ⟨results, isResults, entries⟩
  rw [show (readAttributes .plain unanswered (.entries [⟨ckaEcPoint, true, 65⟩])).output =
    .attributes [⟨65, none⟩] by decide] at isResults
  cases isResults
  rcases List.forall₂_cons.mp entries with ⟨⟨situation, holds, _⟩, _⟩
  cases situation with
  | delivered =>
      rcases holds with ⟨value, isValue, _⟩
      rw [show (attributeValue .plain unanswered ckaEcPoint).value? = none by decide] at isValue
      contradiction
  | tooSmall =>
      rcases holds with ⟨value, isValue, _⟩
      rw [show (attributeValue .plain unanswered ckaEcPoint).value? = none by decide] at isValue
      contradiction
  | notAvailable => exact absurd holds.2.1 (by decide)

end HsmSimulator
