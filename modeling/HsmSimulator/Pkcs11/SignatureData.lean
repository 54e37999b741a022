import HsmSimulator.Pkcs11.Operations

/-!
# What a signature is computed from

The primitive a completing call reaches works with the key, the direction, the mechanism
and the parameters of the initialisation, and with the data of the updates since.  A
one-part call takes its own data only: what was buffered before it is lost.
-/

namespace HsmSimulator

open Checks

/-- The data a completing call brings itself. -/
def Completion.argument : Completion → Bytes
  | oneShot data => data.content
  | final => []

/-- The session and the form of a completing call. -/
def Call.completion? : Call → Option (Nat × Completion)
  | .sign sessionHandle data _ _ => some (sessionHandle, .oneShot data)
  | .signFinal sessionHandle _ _ => some (sessionHandle, .final)
  | .verify sessionHandle data _ => some (sessionHandle, .oneShot data)
  | .verifyFinal sessionHandle _ => some (sessionHandle, .final)
  | _ => none

section

variable {host : Host} {oracle : Oracle} {state : State}

/-! ## Calls without a primitive -/

theorem creation_primitive {call : Call} {sessionHandle : Nat} {result : State × Response}
    (ends : CreationCall host oracle state call sessionHandle result) :
    result.2.primitive = none := by
  cases ends with
  | rejected _ _ => rfl
  | performed _ _ _ creation => cases creation <;> rfl

theorem listResponse_primitive (values : List Nat) (hasList : Bool) (count : Nat) :
    (listResponse values hasList count).primitive = none := by
  unfold listResponse
  split
  · rfl
  · split <;> rfl

theorem readAttributes_primitive (openSsl : OpenSsl) (object : Object)
    (attributes : QueryTemplate) : (readAttributes openSsl object attributes).primitive = none := by
  cases attributes <;> rfl

theorem changePin_primitive (slotId : Nat) (slot : Slot) (role : UserType) (pin : Buffer) :
    (changePin state oracle slotId slot role pin).2.primitive = none := by
  unfold changePin
  split <;> rfl

theorem initializeSignature_primitive (sessionHandle : Nat) (mechanism : Option Mechanism)
    (keyHandle : Nat) (verify : Bool) :
    (initializeSignature host state sessionHandle mechanism keyHandle verify).2.primitive =
      none := by
  unfold initializeSignature
  split <;> rfl

theorem appendSignatureData_primitive (sessionHandle : Nat) (data : Buffer) (verify : Bool) :
    (appendSignatureData state sessionHandle data verify).2.primitive = none := by
  have ends := @appendSignatureData_cases state sessionHandle data verify
  generalize appendSignatureData state sessionHandle data verify = result at ends ⊢
  cases ends <;> rfl

theorem cInitialize_primitive (hasReserved : Bool) :
    (cInitialize host state oracle hasReserved).2.primitive = none := by
  unfold cInitialize
  split
  · rfl
  · split
    · rfl
    · split
      · rfl
      · split <;> rfl

/-- Only the completing calls reach a primitive. -/
theorem service_primitive (wellFormed : WellFormed state) {call : Call}
    (other : call.completion? = none) : (service host oracle state call).2.primitive = none := by
  cases call with
  | cInitialize hasReserved => exact cInitialize_primitive hasReserved
  | cFinalize hasReserved =>
      simp only [service, cFinalize]
      split
      · rfl
      · split <;> rfl
  | getInfo hasInfo => cases hasInfo <;> rfl
  | getSlotList hasList count =>
      cases count with
      | none => rfl
      | some count => exact listResponse_primitive _ _ _
  | getSlotInfo slotId hasInfo =>
      simp only [service, getSlotInfo]
      split <;> rfl
  | getTokenInfo slotId hasInfo =>
      simp only [service, getTokenInfo]
      split <;> rfl
  | getMechanismList slotId hasList count =>
      simp only [service, getMechanismList]
      split
      · rfl
      · exact listResponse_primitive _ _ _
  | getMechanismInfo slotId mechanism hasInfo =>
      simp only [service, getMechanismInfo]
      split <;> rfl
  | openSession slotId flags hasHandle =>
      simp only [service, openSession]
      split <;> rfl
  | closeSession sessionHandle =>
      simp only [service, closeSession]
      split
      · rfl
      · split
        · rfl
        · split <;> rfl
  | closeAllSessions slotId =>
      simp only [service, closeAllSessions]
      split <;> rfl
  | getSessionInfo sessionHandle hasInfo =>
      simp only [service, getSessionInfo]
      split <;> rfl
  | initPin sessionHandle pin =>
      simp only [service, initPin]
      split
      · rfl
      · exact changePin_primitive _ _ _ _
  | setPin sessionHandle oldPin newPin =>
      simp only [service, setPin]
      split
      · rfl
      · exact changePin_primitive _ _ _ _
  | login sessionHandle userType pin =>
      simp only [service, login]
      split <;> rfl
  | logout sessionHandle =>
      simp only [service, logout]
      split <;> rfl
  | destroyObject sessionHandle objectHandle =>
      simp only [service, destroyObject, destroyKeyFile]
      split
      · rfl
      · split
        · split <;> rfl
        · rfl
  | getAttributeValue sessionHandle objectHandle attributes =>
      simp only [service, getAttributeValue]
      split
      · rfl
      · exact readAttributes_primitive _ _ _
  | setAttributeValue sessionHandle objectHandle attributes =>
      simp only [service, setAttributeValue]
      split
      · rfl
      · split
        · split <;> rfl
        · rfl
  | findObjectsInit sessionHandle attributes =>
      simp only [service, findObjectsInit]
      split <;> rfl
  | findObjects sessionHandle hasOutput capacity hasCount =>
      simp only [service, findObjects]
      split <;> rfl
  | findObjectsFinal sessionHandle =>
      simp only [service, findObjectsFinal]
      split <;> rfl
  | signInit | verifyInit => exact initializeSignature_primitive _ _ _ _
  | signUpdate | verifyUpdate => exact appendSignatureData_primitive _ _ _
  | generateKey | generateKeyPair | unwrapKey | deriveKey =>
      exact creation_primitive (service_creationCall wellFormed rfl rfl)
  | wrapKey sessionHandle mechanism wrappingHandle keyHandle output hasLength =>
      simp only [service, wrapKey]
      split <;> rfl
  | generateRandom sessionHandle output =>
      simp only [service, generateRandom]
      split <;> rfl
  | unsupported => rfl
  | _ => contradiction

/-! ## Completing calls -/

/-- The primitive works with the key, the direction, the mechanism and the parameters of
the operation, on these data. -/
structure WorksOn (state : State) (sessionHandle : Nat) (operation : Operation) (data : Bytes)
    (primitive : Primitive) : Prop where
  verify : primitive.verify = operation.verify
  mechanism : primitive.mechanism = operation.mechanism
  pss : primitive.pss = operation.pss
  saltLength : primitive.saltLength = toInt operation.pss.sLen
  data : primitive.data = data
  key : ∃ object, state.findObject sessionHandle operation.keyHandle = some object ∧
    object.asymmetricKey = some primitive.key

theorem signatureKey_eq_ok {sessionHandle : Nat} {operation : Operation} {verify : Bool}
    {object : Object} {key : EvpKey}
    (passes : signatureKey state sessionHandle operation verify = .ok (object, key)) :
    state.findObject sessionHandle operation.keyHandle = some object ∧
      object.asymmetricKey = some key := by
  simp only [signatureKey, bind_eq_ok_iff, fetch_eq_ok_iff, pure_eq_ok, Except.ok.injEq,
    Prod.mk.injEq] at passes
  rcases passes with ⟨stored, storedFound, found, isKey, _, _, _, _, rfl, rfl⟩
  exact ⟨storedFound, isKey⟩

theorem WorksOn.primitive {sessionHandle : Nat} {operation : Operation} {verify : Bool}
    {object : Object} {key : EvpKey}
    (passes : signatureKey state sessionHandle operation verify = .ok (object, key))
    (digest : Option Digest) (data signature : Bytes) :
    WorksOn state sessionHandle operation data (operation.primitive key digest data signature) :=
  ⟨rfl, rfl, rfl, rfl, rfl, object, signatureKey_eq_ok passes⟩

theorem deliverSignature_primitive {openSsl : OpenSsl} {object : Object}
    {width required length : Nat} {primitive : Primitive} {result : Bytes} :
    (deliverSignature openSsl object width required length primitive result).primitive =
      some primitive := by
  unfold deliverSignature
  split
  · split
    · rfl
    · split
      · rfl
      · split <;> rfl
  · rfl

theorem executeSign_primitive {sessionHandle : Nat} {operation : Operation} {data : Bytes}
    {signature : OutputBuffer} {primitive : Primitive}
    (reached : (executeSign host oracle state sessionHandle operation data signature).primitive =
      some primitive) : WorksOn state sessionHandle operation data primitive := by
  unfold executeSign at reached
  split at reached
  · contradiction
  · rename_i object key keyFound
    dsimp only at reached
    split at reached
    · contradiction
    · split at reached
      · contradiction
      · split at reached
        · contradiction
        · split at reached
          · cases reached
            exact .primitive keyFound _ _ _
          · rw [deliverSignature_primitive] at reached
            cases reached
            exact .primitive keyFound _ _ _

theorem executeVerify_primitive {sessionHandle : Nat} {operation : Operation} {data : Bytes}
    {signature : Buffer} {primitive : Primitive}
    (reached : (executeVerify host oracle state sessionHandle operation data signature).primitive =
      some primitive) : WorksOn state sessionHandle operation data primitive := by
  unfold executeVerify at reached
  split at reached
  · contradiction
  · rename_i found passes
    cases reached
    simp only [verification, bind_eq_ok_iff, pure_eq_ok, Except.ok.injEq] at passes
    rcases passes with ⟨⟨object, key⟩, keyFound, _, _, encoded, _, digest, _, rfl⟩
    exact .primitive keyFound _ _ _

/-- The primitive of a completing call is the one of the pending operation. -/
theorem service_completion {call : Call} {sessionHandle : Nat} {form : Completion}
    {primitive : Primitive} (completes : call.completion? = some (sessionHandle, form))
    (reached : (service host oracle state call).2.primitive = some primitive) :
    ∃ session, state.findSession sessionHandle = some session ∧
      session.operation.active = true ∧
      WorksOn state sessionHandle session.operation (form.data session.operation) primitive := by
  cases call with
  | sign handle data signature hasLength =>
      cases completes
      simp only [service, sign] at reached
      split at reached
      · contradiction
      · rename_i session passes
        simp only [bind_eq_ok_iff, pure_eq_ok, Except.ok.injEq] at passes
        rcases passes with ⟨found, pending, _, _, rfl⟩
        rcases signingSession_eq_ok pending with ⟨sessionFound, active, _⟩
        rw [completeSign_response] at reached
        exact ⟨found, sessionFound, active, executeSign_primitive reached⟩
  | signFinal handle signature hasLength =>
      cases completes
      simp only [service, signFinal] at reached
      split at reached
      · contradiction
      · rename_i session passes
        simp only [bind_eq_ok_iff, pure_eq_ok, Except.ok.injEq] at passes
        rcases passes with ⟨found, pending, _, _, rfl⟩
        rcases signingSession_eq_ok pending with ⟨sessionFound, active, _⟩
        rw [completeSign_response] at reached
        exact ⟨found, sessionFound, active, executeSign_primitive reached⟩
  | verify handle data signature =>
      cases completes
      simp only [service, verify] at reached
      split at reached
      · contradiction
      · rename_i session passes
        simp only [bind_eq_ok_iff, pure_eq_ok, Except.ok.injEq] at passes
        rcases passes with ⟨found, pending, _, _, rfl⟩
        rcases signingSession_eq_ok pending with ⟨sessionFound, active, _⟩
        exact ⟨found, sessionFound, active, executeVerify_primitive reached⟩
  | verifyFinal handle signature =>
      cases completes
      simp only [service, verifyFinal] at reached
      split at reached
      · contradiction
      · rename_i session passes
        simp only [bind_eq_ok_iff, pure_eq_ok, Except.ok.injEq] at passes
        rcases passes with ⟨found, pending, _, _, rfl⟩
        rcases signingSession_eq_ok pending with ⟨sessionFound, active, _⟩
        exact ⟨found, sessionFound, active, executeVerify_primitive reached⟩
  | _ => contradiction

/-- A step that reaches a primitive completes the operation of its session. -/
theorem step_completion (wellFormed : WellFormed state) {call : Call} {primitive : Primitive}
    (reached : (step host state (call, oracle)).2.primitive = some primitive) :
    ∃ sessionHandle form session, call.completion? = some (sessionHandle, form) ∧
      state.findSession sessionHandle = some session ∧ session.operation.active = true ∧
      WorksOn state sessionHandle session.operation (form.data session.operation) primitive := by
  unfold step at reached
  split at reached
  · contradiction
  · cases completes : call.completion? with
    | none =>
        rw [service_primitive wellFormed completes] at reached
        contradiction
    | some target =>
        rcases target with ⟨sessionHandle, form⟩
        rcases service_completion completes reached with ⟨session, found, active, works⟩
        exact ⟨sessionHandle, form, session, rfl, found, active, works⟩

end

/-! ## The data of a signature -/

/-- The primitive works with what the initialisation of the record fixed. -/
structure Faithful (record : Started) (primitive : Primitive) : Prop where
  verify : primitive.verify = record.verify
  mechanism : primitive.mechanism = record.mechanism.mechanism
  key : primitive.key = record.key
  /-- The parameters of a PSS mechanism; the other mechanisms have none. -/
  pss : if isRsaPss record.mechanism.mechanism then
      record.mechanism.parameter = .pss primitive.pss
    else primitive.pss = ⟨0, 0, 0⟩

/-- A one-part call comes after data that were buffered. -/
def LosesData (form : Completion) (record : Started) : Prop :=
  form ≠ .final ∧ record.data ≠ []

theorem signatureParameters_eq_ok {openSsl : OpenSsl} {mechanism : Mechanism} {key : EvpKey}
    {parameters : PssParams} (accepted : signatureParameters openSsl mechanism key =
      .ok parameters) :
    if isRsaPss mechanism.mechanism then
      mechanism.parameter = .pss parameters ∧ parameters.sLen ≤ (openSsl.bits key + 6) / 8
    else parameters = ⟨0, 0, 0⟩ := by
  unfold signatureParameters at accepted
  split at accepted
  · rename_i isPss
    rw [if_pos isPss]
    split at accepted
    · rename_i given isGiven
      simp only [bind_eq_ok_iff, fetch_eq_ok_iff, require_eq_ok_iff, pure_eq_ok, Except.ok.injEq]
        at accepted
      rcases accepted with ⟨hash, _, _, _, _, _, _, ⟨_, fits⟩, rfl⟩
      refine ⟨isGiven, ?_⟩
      omega
    · contradiction
  · rename_i notPss
    rw [if_neg notPss]
    simp only [bind_eq_ok_iff, pure_eq_ok, Except.ok.injEq] at accepted
    rcases accepted with ⟨_, _, rfl⟩
    rfl

theorem completion_data (form : Completion) (record : Started) {operation : Operation}
    (same : operation.bufferedData = record.data) :
    form.data operation = record.data ++ form.argument ↔ ¬LosesData form record := by
  cases form with
  | oneShot data => simp [Completion.data, Completion.argument, LosesData]
  | final => simp [Completion.data, Completion.argument, LosesData, same]

/-- A successful update stays within the bound. -/
theorem update_bound {host : Host} {oracle : Oracle} {state : State}
    {history : Nat → Option Started} (recorded : OperationsRecorded host state history)
    {call : Call} {sessionHandle : Nat} {data : Buffer}
    (updates : call = .signUpdate sessionHandle data ∨ call = .verifyUpdate sessionHandle data)
    (isOk : (step host state (call, oracle)).2.rv = .ok) :
    ∃ record, history sessionHandle = some record ∧
      record.data.length + data.content.length ≤ maxMultipartBytes := by
  have appends : ∃ verify, Appended state sessionHandle data verify
      (service host oracle state call) := by
    rcases updates with rfl | rfl
    · exact ⟨false, appendSignatureData_cases _ _ _⟩
    · exact ⟨true, appendSignatureData_cases _ _ _⟩
  rcases appends with ⟨verify, appends⟩
  unfold step at isOk
  split at isOk
  · contradiction
  · generalize service host oracle state call = result at appends isOk
    cases appends with
    | refused failed => exact absurd isOk failed
    | ended _ failed => exact absurd isOk failed
    | @appended session found active _ bound =>
        rcases recorded.active sessionHandle session found active with ⟨record, isRecord, agrees⟩
        rw [agrees.data] at bound
        exact ⟨record, isRecord, bound⟩

/-- In every run the primitive of a completing call works with what the initialisation
fixed, on exactly the data of the session since, unless a one-part call loses buffered
data; and no session buffers more than the bound. -/
theorem signature_data_exact (host : Host) (disk : FileSystem) (inputs : List (Call × Oracle))
    (call : Call) (oracle : Oracle) :
    let state := Runs.final (step host) (.loaded disk) inputs
    let history := Runs.history (step host) (started host) (fun _ => none) (.loaded disk) inputs
    let response := (step host state (call, oracle)).2
    (∀ primitive, response.primitive = some primitive →
      ∃ sessionHandle form record, call.completion? = some (sessionHandle, form) ∧
        history sessionHandle = some record ∧ Faithful record primitive ∧
        (primitive.data = record.data ++ form.argument ↔ ¬LosesData form record)) ∧
      (∀ handle session, state.findSession handle = some session →
        session.operation.bufferedData.length ≤ maxMultipartBytes) ∧
      ∀ sessionHandle data,
        call = .signUpdate sessionHandle data ∨ call = .verifyUpdate sessionHandle data →
        response.rv = .ok → ∃ record, history sessionHandle = some record ∧
          record.data.length + data.content.length ≤ maxMultipartBytes := by
  intro state history response
  have wellFormed : WellFormed state := wellFormed_run disk inputs
  have recorded : OperationsRecorded host state history := operationsRecorded_run host disk inputs
  constructor
  · intro primitive reached
    rcases step_completion wellFormed reached with
      ⟨sessionHandle, form, session, completes, found, active, works⟩
    rcases recorded.active sessionHandle session found active with ⟨record, isRecord, agrees⟩
    rcases works.key with ⟨object, objectFound, isKey⟩
    rcases State.findObject_eq_some_iff.mp objectFound with ⟨_, _, stored, _⟩
    refine ⟨sessionHandle, form, record, completes, isRecord, ⟨?_, ?_, ?_, ?_⟩, ?_⟩
    · rw [works.verify, agrees.verify]
    · rw [works.mechanism, agrees.mechanism]
    · exact Option.some.inj (isKey.symm.trans (agrees.key object stored))
    · have parameters := signatureParameters_eq_ok agrees.parameters
      rw [works.pss]
      split
      · rename_i isPss
        rw [if_pos isPss] at parameters
        exact parameters.1
      · rename_i notPss
        rw [if_neg notPss] at parameters
        exact parameters
    · rw [works.data]
      exact completion_data form record agrees.data
  · constructor
    · exact recorded.bound
    · intro sessionHandle data updates isOk
      exact update_bound recorded updates isOk

/-- A one-part signature after an update: the data of the update are not signed. -/
theorem signature_data_exact_oneShot :
    let state := Runs.final (step .plain) (.loaded ⟨∅, ∅⟩)
      (plainRun (signingCalls ++ [.signUpdate 1 (.bytes [1])]))
    let response := (step .plain state (.sign 1 (.bytes [2]) ⟨true, 384⟩ true, .plain)).2
    (step .plain signingState (.signUpdate 1 (.bytes [1]), .plain)).2.rv = .ok ∧
      response.rv = .ok ∧ response.primitive.map Primitive.data = some [2] := by
  decide

end HsmSimulator
