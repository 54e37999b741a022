import HsmSimulator.Objects.Validation
import HsmSimulator.Pkcs11.CreationCalls

/-!
# Templates of the calls

The two validation loops agree outside the types only one of them knows, and what is
read from a template without a test has passed one of them.  The order of the entries of a
template decides neither whether a call succeeds nor what it leaves.
-/

namespace HsmSimulator

open Checks

/-! ## The two loops -/

/-- The types `validateCreationTemplate` knows and `DeriveKey` does not. -/
def creationOnlyAttributes : List Nat :=
  [ckaModulusBits, ckaParameterSet, ckaEcParams, ckaPublicExponent, ckaAlwaysSensitive,
    ckaNeverExtractable, ckaLocal, ckaKeyGenMechanism]

/-- The validation of `DeriveKey` with its test of the pointer. -/
def validateDerivationTemplate (attributes : Template) : Except Rv Unit := do
  require (attributes.isMissing = false) .argumentsBad
  validateEntries validateDerivationAttribute [] attributes.toList

theorem derivationBoolean_iff (type : Nat) :
    derivationBooleanAttributes.contains type =
      (isPolicyAttribute type || decide (type = ckaToken)) := by
  rw [Bool.eq_iff_iff]
  simp only [derivationBooleanAttributes, isPolicyAttribute, policyAttributes,
    List.contains_iff_mem, List.mem_cons, List.not_mem_nil, or_false, Bool.or_eq_true,
    decide_eq_true_eq]
  tauto

/-- Both loops test an entry of a type they both know, or neither knows, in the same way. -/
theorem validateDerivationAttribute_eq {entry : Attribute}
    (shared : entry.type ∉ creationOnlyAttributes) :
    validateDerivationAttribute entry = validateCreationAttribute entry := by
  simp only [creationOnlyAttributes, List.mem_cons, List.not_mem_nil, or_false, not_or] at shared
  rcases shared with ⟨notModulusBits, notParameterSet, notEcParams, notExponent, notSensitive,
    notExtractable, notLocal, notMechanism⟩
  have ulong : ulongAttributes.contains entry.type =
      derivationUlongAttributes.contains entry.type := by
    simp [ulongAttributes, derivationUlongAttributes, notModulusBits, notParameterSet]
  have string : stringAttributes.contains entry.type =
      decide (entry.type = ckaLabel ∨ entry.type = ckaId) := by
    simp [stringAttributes, notEcParams, notExponent]
  have readOnly : readOnlyAttributes.contains entry.type = false := by
    simp [readOnlyAttributes, notSensitive, notExtractable, notLocal, notMechanism]
  unfold validateDerivationAttribute validateCreationAttribute
  rw [derivationBoolean_iff, ulong, string, readOnly]
  by_cases isUlong : derivationUlongAttributes.contains entry.type = true
  · have notBoolean : (isPolicyAttribute entry.type || decide (entry.type = ckaToken)) = false := by
      simp only [derivationUlongAttributes, List.contains_iff_mem, List.mem_cons, List.not_mem_nil,
        or_false] at isUlong
      rcases isUlong with same | same | same <;> rw [same] <;> decide
    simp only [isUlong, notBoolean, if_true, Bool.false_eq_true, if_false]
  · simp only [isUlong, if_false, decide_eq_true_eq, Bool.false_eq_true]

/-- `DeriveKey` accepts no entry that the other loop refuses. -/
theorem validateCreationAttribute_of_derivation {entry : Attribute}
    (valid : validateDerivationAttribute entry = .ok ()) :
    validateCreationAttribute entry = .ok () := by
  by_cases shared : entry.type ∈ creationOnlyAttributes
  · have known : entry.type ∉ derivationUlongAttributes ∧
        entry.type ∉ derivationBooleanAttributes ∧ entry.type ≠ ckaLabel ∧
        entry.type ≠ ckaId ∧ entry.type ≠ ckaValue := by
      simp only [creationOnlyAttributes, List.mem_cons, List.not_mem_nil, or_false] at shared
      rcases shared with same | same | same | same | same | same | same | same <;> rw [same] <;>
        decide
    rcases known with ⟨notUlong, notBoolean, notLabel, notId, notValue⟩
    simp [validateDerivationAttribute, bind_eq_ok_iff, notUlong, notBoolean, notLabel, notId,
      notValue] at valid
  · rw [← validateDerivationAttribute_eq shared]
    exact valid

theorem validateDerivationTemplate_eq_ok_iff {attributes : Template} :
    validateDerivationTemplate attributes = .ok () ↔ attributes.isMissing = false ∧
      AcceptedEntries validateDerivationAttribute attributes.toList := by
  simp only [validateDerivationTemplate, bind_eq_ok_iff, require_eq_ok_iff,
    validateEntries_eq_ok_iff, List.not_mem_nil, not_false_eq_true, implies_true, and_true]
  exact ⟨fun ⟨_, present, accepted⟩ => ⟨present, accepted⟩,
    fun ⟨present, accepted⟩ => ⟨(), present, accepted⟩⟩

theorem validateDerivationTemplate_eq {attributes : Template}
    (shared : ∀ entry ∈ attributes.toList, entry.type ∉ creationOnlyAttributes) :
    validateDerivationTemplate attributes = validateCreationTemplate attributes := by
  rw [validateDerivationTemplate, validateCreationTemplate,
    validateEntries_congr fun entry member => validateDerivationAttribute_eq (shared entry member)]

theorem validateCreationTemplate_of_derivation {attributes : Template}
    (valid : validateDerivationTemplate attributes = .ok ()) :
    validateCreationTemplate attributes = .ok () := by
  rcases validateDerivationTemplate_eq_ok_iff.mp valid with ⟨present, accepted⟩
  exact validateCreationTemplate_eq_ok_iff.mpr
    ⟨present, accepted.mono fun _ => validateCreationAttribute_of_derivation⟩

/-! ## Reading accepted templates -/

/-- The templates of a creating call. -/
def Call.templates : Call → List Template
  | .generateKey _ _ attributes _ => [attributes]
  | .generateKeyPair _ _ publicTemplate privateTemplate _ => [publicTemplate, privateTemplate]
  | .unwrapKey _ _ _ _ attributes _ => [attributes]
  | .deriveKey _ _ _ attributes _ => [attributes]
  | _ => []

/-- Everything `DeriveKey` tests before it looks at the entries of its template. -/
structure DerivationReady (state : State) (sessionHandle : Nat) (mechanism : Option Mechanism)
    (baseKey : Nat) (hasHandle : Bool) : Prop where
  session : ∃ session, state.findSession sessionHandle = some session
  handle : hasHandle = true
  data : ∃ given data, mechanism = some given ∧ derivationData given = .ok data
  master : ∃ master, derivationMaster state sessionHandle baseKey = .ok master

section

variable {host : Host} {oracle : Oracle} {state : State} {sessionHandle : Nat}
  {mechanism : Option Mechanism} {attributes : Template} {hasHandle : Bool}

theorem generatedKeyLength_validates {length : Nat}
    (passes : generatedKeyLength state sessionHandle mechanism attributes hasHandle = .ok length) :
    validateCreationTemplate attributes = .ok () := by
  simp only [generatedKeyLength, bind_eq_ok_iff] at passes
  rcases passes with ⟨_, _, _, _, _, _, _, _, _, valid, _⟩
  exact valid

theorem pairTemplates_validates {publicTemplate privateTemplate : Template}
    {result : Bytes × Object × Object}
    (passes : pairTemplates state sessionHandle mechanism publicTemplate privateTemplate hasHandle =
      .ok result) :
    validateCreationTemplate publicTemplate = .ok () ∧
      validateCreationTemplate privateTemplate = .ok () := by
  simp only [pairTemplates, bind_eq_ok_iff] at passes
  rcases passes with ⟨_, _, _, _, _, _, _, publicValid, _, privateValid, _⟩
  exact ⟨publicValid, privateValid⟩

theorem unwrappedBytes_validates {wrappingHandle : Nat} {input : Buffer} {raw : Bytes}
    (passes : unwrappedBytes host oracle state sessionHandle mechanism wrappingHandle input
      attributes hasHandle = .ok raw) :
    validateCreationTemplate attributes = .ok () := by
  simp only [unwrappedBytes, bind_eq_ok_iff] at passes
  rcases passes with ⟨_, _, _, _, _, _, _, _, _, _, _, valid, _⟩
  exact valid

theorem derivation_validates {baseKey : Nat} {result : Session × Slot × Bytes}
    (passes : derivation host oracle state sessionHandle mechanism baseKey attributes hasHandle =
      .ok result) :
    validateDerivationTemplate attributes = .ok () := by
  simp only [derivation, derivedLength, bind_eq_ok_iff, require_eq_ok_iff] at passes
  rcases passes with ⟨_, _, _, _, _, given, _, _, _, _, _, ⟨_, valid, _⟩, _⟩
  simp only [validateDerivationTemplate, bind_eq_ok_iff, require_eq_ok_iff]
  exact ⟨(), given.2, valid⟩

theorem readable_of_validates (valid : validateCreationTemplate attributes = .ok ()) :
    ReadableEntries attributes.toList :=
  (validateCreationTemplate_eq_ok_iff.mp valid).2.readable

/-- A call that gets to create a key has validated its templates. -/
theorem Call.newKey_validates {call : Call} {new : NewKey}
    (isNew : call.newKey host oracle state = some new) :
    ∀ attributes ∈ call.templates, validateCreationTemplate attributes = .ok () := by
  unfold Call.newKey at isNew
  cases call with
  | generateKey =>
      simp only [Call.templates, List.forall_mem_singleton]
      split at isNew
      · rename_i secret
        simp only [Call.secretRequest, Option.bind_eq_bind, Option.bind_eq_some_iff,
          toOption_eq_some_iff] at secret
        rcases secret with ⟨_, passes, _⟩
        exact generatedKeyLength_validates passes
      · simp [Call.pairRequest] at isNew
  | generateKeyPair =>
      simp only [Call.templates, List.forall_mem_cons, List.not_mem_nil, false_imp_iff,
        implies_true, and_true]
      simp only [Call.secretRequest, Call.pairRequest, Option.bind_eq_bind, Option.map_eq_some_iff,
        Option.bind_eq_some_iff, toOption_eq_some_iff] at isNew
      rcases isNew with ⟨_, ⟨_, passes, _⟩, _⟩
      simp only [generatedPair, bind_eq_ok_iff] at passes
      rcases passes with ⟨_, templates, _⟩
      exact pairTemplates_validates templates
  | unwrapKey =>
      simp only [Call.templates, List.forall_mem_singleton]
      split at isNew
      · rename_i secret
        simp only [Call.secretRequest, Option.bind_eq_bind, Option.bind_eq_some_iff,
          toOption_eq_some_iff] at secret
        rcases secret with ⟨_, passes, _⟩
        exact unwrappedBytes_validates passes
      · simp only [Call.pairRequest, Option.bind_eq_bind, Option.map_eq_some_iff,
          Option.bind_eq_some_iff, toOption_eq_some_iff] at isNew
        rcases isNew with ⟨_, ⟨_, passes, _⟩, _⟩
        exact unwrappedBytes_validates passes
  | deriveKey =>
      simp only [Call.templates, List.forall_mem_singleton]
      split at isNew
      · rename_i secret
        simp only [Call.secretRequest, Option.bind_eq_bind, Option.bind_eq_some_iff,
          toOption_eq_some_iff] at secret
        rcases secret with ⟨_, passes, _⟩
        exact validateCreationTemplate_of_derivation (derivation_validates passes)
      · simp [Call.pairRequest] at isNew
  | _ => simp [Call.templates]

theorem applyCreationTemplate_validates {object created : Object} {fallback : Bool}
    (passes : applyCreationTemplate state object sessionHandle attributes fallback = .ok created) :
    validateCreationTemplate attributes = .ok () ∧
      created.policy = applyPolicyTemplate object.policy attributes := by
  simp only [applyCreationTemplate, bind_eq_ok_iff, pure_eq_ok, Except.ok.injEq] at passes
  rcases passes with ⟨_, valid, _, _, _, _, _, _, _, _, rfl⟩
  exact ⟨valid, rfl⟩

/-- Where nothing else is wrong the code of the validation is the one `DeriveKey`
returns. -/
theorem derivation_rejects {baseKey : Nat} {code : Rv}
    (ready : DerivationReady state sessionHandle mechanism baseKey hasHandle)
    (invalid : validateDerivationTemplate attributes = .error code) :
    derivation host oracle state sessionHandle mechanism baseKey attributes hasHandle =
      .error code := by
  rcases ready.session with ⟨session, sessionFound⟩
  rcases ready.data with ⟨given, data, rfl, isData⟩
  rcases ready.master with ⟨master, isMaster⟩
  unfold derivation
  rw [sessionFound, fetch_some, ok_bind, fetch_some, ok_bind, ready.handle]
  simp only [validateDerivationTemplate, bind_eq_error_iff, require_eq_error_iff,
    require_eq_ok_iff] at invalid
  rcases invalid with ⟨missing, rfl⟩ | ⟨_, present, entries⟩
  · have refused : require (true = true ∧ attributes.isMissing = false) Rv.argumentsBad =
        .error .argumentsBad := by simp [missing]
    rw [refused, error_bind]
  · have given' : require (true = true ∧ attributes.isMissing = false) Rv.argumentsBad =
        .ok () := by simp [present]
    rw [given', ok_bind, isData, ok_bind, isMaster, ok_bind, derivedLength, entries]
    rfl

end

/-- The loop of `DeriveKey` and `validateCreationTemplate` give the same code on templates
without the eight types, and what the first accepts the second accepts.  So policies are
only taken from templates whose booleans and integers can be read, and are the same on
every path. -/
theorem validators_agree (host : Host) (oracle : Oracle) (state : State) :
    (∀ attributes : Template, (∀ entry ∈ attributes.toList, entry.type ∉ creationOnlyAttributes) →
      validateDerivationTemplate attributes = validateCreationTemplate attributes) ∧
    (∀ attributes, validateDerivationTemplate attributes = .ok () →
      validateCreationTemplate attributes = .ok ()) ∧
    (∀ sessionHandle mechanism baseKey attributes hasHandle code,
      DerivationReady state sessionHandle mechanism baseKey hasHandle →
      validateDerivationTemplate attributes = .error code →
      derivation host oracle state sessionHandle mechanism baseKey attributes hasHandle =
        .error code) ∧
    (∀ sessionHandle mechanism baseKey attributes hasHandle session slot value,
      derivation host oracle state sessionHandle mechanism baseKey attributes hasHandle =
        .ok (session, slot, value) →
      ReadableEntries attributes.toList ∧
        ∀ object fallback created, object.policy = ∅ →
          applyCreationTemplate state object sessionHandle attributes fallback = .ok created →
          (derivedObject state sessionHandle session slot attributes value).policy =
            created.policy) ∧
    (∀ object sessionHandle attributes fallback created,
      applyCreationTemplate state object sessionHandle attributes fallback = .ok created →
      ReadableEntries attributes.toList) ∧
    ∀ (call : Call) new, call.newKey host oracle state = some new →
      ∀ attributes ∈ call.templates, ReadableEntries attributes.toList := by
  refine ⟨fun _ => validateDerivationTemplate_eq, fun _ => validateCreationTemplate_of_derivation,
    fun _ _ _ _ _ _ => derivation_rejects, ?_, ?_, ?_⟩
  · intro sessionHandle mechanism baseKey attributes hasHandle session slot value passes
    constructor
    · exact readable_of_validates
        (validateCreationTemplate_of_derivation (derivation_validates passes))
    · intro object fallback created noPolicy applied
      rw [(applyCreationTemplate_validates applied).2, noPolicy]
      rfl
  · intro object sessionHandle attributes fallback created applied
    exact readable_of_validates (applyCreationTemplate_validates applied).1
  · intro call new isNew attributes member
    exact readable_of_validates (Call.newKey_validates isNew attributes member)

end HsmSimulator
