import HsmSimulator.Core.Integers
import HsmSimulator.Pkcs11.Registry

/-!
# The life of a signature operation

One call completes an operation: in one part with its data, or at the end of several
parts.  What it makes of the session is decided by the return code and by whether a
signature buffer is given, whatever became of the key in the meantime.
-/

namespace HsmSimulator

open Checks

/-- How an operation is completed. -/
inductive Completion
  | oneShot (data : Buffer)
  | final
  deriving DecidableEq

namespace Completion

/-- The completion of a signature. -/
def sign (form : Completion) (sessionHandle : Nat) (signature : OutputBuffer)
    (hasLength : Bool) : Call :=
  match form with
  | oneShot data => .sign sessionHandle data signature hasLength
  | final => .signFinal sessionHandle signature hasLength

/-- The completion of a verification. -/
def verify (form : Completion) (sessionHandle : Nat) (signature : Buffer) : Call :=
  match form with
  | oneShot data => .verify sessionHandle data signature
  | final => .verifyFinal sessionHandle signature

/-- The data are there. -/
def isGiven : Completion → Bool
  | oneShot data => !data.isMissing
  | final => true

/-- The data the primitive gets. -/
def data (form : Completion) (operation : Operation) : Bytes :=
  match form with
  | oneShot data => data.content
  | final => operation.bufferedData

end Completion

/-- The session and the direction of the operation a call continues. -/
def Call.continues? : Call → Option (Nat × Bool)
  | .sign sessionHandle _ _ _ => some (sessionHandle, false)
  | .signUpdate sessionHandle _ => some (sessionHandle, false)
  | .signFinal sessionHandle _ _ => some (sessionHandle, false)
  | .verify sessionHandle _ _ => some (sessionHandle, true)
  | .verifyUpdate sessionHandle _ => some (sessionHandle, true)
  | .verifyFinal sessionHandle _ => some (sessionHandle, true)
  | _ => none

/-- The length of a signature is what `EVP_PKEY_get_size` says at most. -/
def Oracle.SizesBounded (oracle : Oracle) (host : Host) : Prop :=
  ∀ primitive result, oracle.signPrimitive primitive = some result →
    result.length ≤ host.openSsl.size primitive.key

/-- A retry with a buffer of at least this length is not too short, and writes no more. -/
def Suffices (host : Host) (state : State) (retry : OutputBuffer → Call) (length : Nat) : Prop :=
  ∀ (oracle : Oracle) (signature : OutputBuffer), signature.hasBuffer = true →
    length ≤ signature.length →
    (step host state (retry signature, oracle)).2.rv ≠ .bufferTooSmall ∧
      (oracle.SizesBounded host → ∀ reported written,
        (step host state (retry signature, oracle)).2.output = .buffer reported (some written) →
        written.length ≤ length)

/-- The session has no operation, so that a new one is not refused. -/
structure OperationEnded (host : Host) (state : State) (sessionHandle : Nat) : Prop where
  inactive : ∃ session, state.findSession sessionHandle = some session ∧
    session.operation.active = false
  signInit : ∀ oracle mechanism keyHandle,
    (step host state (.signInit sessionHandle mechanism keyHandle, oracle)).2.rv ≠
      .operationActive
  verifyInit : ∀ oracle mechanism keyHandle,
    (step host state (.verifyInit sessionHandle mechanism keyHandle, oracle)).2.rv ≠
      .operationActive

/-! ## The codes of the steps -/

section

variable {host : Host} {oracle : Oracle} {state : State} {sessionHandle : Nat}

/-- A check of the login gives one of two codes. -/
theorem requireUserLogin_code {code : Rv}
    (fails : state.requireUserLogin sessionHandle = .error code) :
    code = Exception.other.code ∨ code = .userNotLoggedIn := by
  simp only [State.requireUserLogin, bind_eq_error_iff, fetch_eq_error_iff, fetch_eq_ok_iff,
    require_eq_error_iff] at fails
  rcases fails with ⟨_, rfl⟩ | ⟨_, _, _, rfl⟩
  · exact Or.inl rfl
  · exact Or.inr rfl

theorem objectAccessStatus_code {object : Object} {code : Rv}
    (fails : state.objectAccessStatus sessionHandle object = .error code) :
    code = Exception.other.code ∨ code = .userNotLoggedIn := by
  unfold State.objectAccessStatus at fails
  split at fails
  · exact requireUserLogin_code fails
  · contradiction

/-- The codes that speak about the arguments of the completing call, or about another
operation. -/
def Rv.speaksOfArguments (rv : Rv) : Bool :=
  rv = .argumentsBad || rv = .bufferTooSmall || rv = .operationActive

theorem signatureKey_code {operation : Operation} {verify : Bool} {code : Rv}
    (fails : signatureKey state sessionHandle operation verify = .error code) :
    code.speaksOfArguments = false := by
  simp only [signatureKey, bind_eq_error_iff, fetch_eq_error_iff, fetch_eq_ok_iff,
    require_eq_error_iff, pure_eq_ok, reduceCtorEq] at fails
  rcases fails with ⟨_, rfl⟩ | ⟨_, _, ⟨_, rfl⟩ | ⟨_, _, denied | ⟨_, _, ⟨_, rfl⟩ | later⟩⟩⟩
  · rfl
  · rfl
  · rcases objectAccessStatus_code denied with rfl | rfl
    · rfl
    · rfl
  · rfl
  · simp at later

theorem configureSignature_code {object : Object} {operation : Operation}
    {required dataLength : Nat} {code : Rv}
    (fails : configureSignature oracle object operation required dataLength = .error code) :
    code.speaksOfArguments = false := by
  unfold configureSignature at fails
  split at fails
  · split at fails <;>
      simp only [bind_eq_error_iff, require_eq_error_iff, pure_eq_ok, reduceCtorEq, and_false,
        exists_false, or_false] at fails <;>
      grind [Rv.speaksOfArguments]
  · simp only [bind_eq_error_iff, require_eq_error_iff, pure_eq_ok, reduceCtorEq] at fails
    grind [Rv.speaksOfArguments]

theorem signatureKey_ne_ok {operation : Operation} {verify : Bool} :
    signatureKey state sessionHandle operation verify ≠ .error .ok := by
  simp [signatureKey, bind_eq_error_iff, objectAccessStatus_ne_ok]

theorem configureSignature_ne_ok {object : Object} {operation : Operation}
    {required dataLength : Nat} :
    configureSignature oracle object operation required dataLength ≠ .error .ok := by
  intro fails
  unfold configureSignature at fails
  split at fails
  · split at fails <;>
      simp [bind_eq_error_iff, require_eq_error_iff] at fails
  · simp [bind_eq_error_iff, require_eq_error_iff] at fails

theorem deliverSignature_rv {openSsl : OpenSsl} {object : Object} {width required length : Nat}
    {primitive : Primitive} {result : Bytes} :
    (deliverSignature openSsl object width required length primitive result).rv = .ok ∨
      (deliverSignature openSsl object width required length primitive result).rv =
        .deviceError := by
  unfold deliverSignature
  split
  · split
    · exact Or.inr rfl
    · split
      · exact Or.inr rfl
      · split
        · exact Or.inr rfl
        · exact Or.inl rfl
  · exact Or.inl rfl

/-- What is written is no longer than the required length. -/
theorem deliverSignature_written {object : Object} {key : EvpKey} {length : Nat}
    {primitive : Primitive} {result written : Bytes}
    (bounded : result.length ≤ host.openSsl.size key)
    (delivered : (deliverSignature host.openSsl object
      (coordinateWidth host.openSsl object key) (requiredLength host.openSsl object key) length
      primitive result).written = some written) :
    written.length ≤ requiredLength host.openSsl object key := by
  unfold deliverSignature at delivered
  by_cases isEc : object.keyType = ckkEc
  · simp only [isEc, if_true] at delivered
    have twice : requiredLength host.openSsl object key =
        2 * coordinateWidth host.openSsl object key := by simp [requiredLength, isEc]
    split at delivered
    · contradiction
    · split at delivered
      · contradiction
      · split at delivered
        · cases delivered
          rw [length_bigEndianBytes]
          omega
        · cases delivered
          rw [List.length_append, length_bigEndianBytes, length_bigEndianBytes]
          omega
  · simp only [isEc, if_false, Option.some.injEq] at delivered
    subst delivered
    simpa [requiredLength, isEc] using bounded

/-! ## Signing -/

/-- A size query and a short buffer report the required length and write nothing; the
other results with a buffer do not speak about the arguments. -/
theorem executeSign_cases (host : Host) (oracle : Oracle) (state : State) (sessionHandle : Nat)
    (operation : Operation) (data : Bytes) (signature : OutputBuffer) :
    let outcome := executeSign host oracle state sessionHandle operation data signature
    (∃ object key, signatureKey state sessionHandle operation false = .ok (object, key) ∧
        ((signature.hasBuffer = false ∧ outcome.rv = .ok) ∨
          (signature.hasBuffer = true ∧ outcome.rv = .bufferTooSmall)) ∧
        outcome.length = requiredLength host.openSsl object key ∧ outcome.written = none) ∨
      (outcome.rv.speaksOfArguments = false ∧
        (outcome.rv = .ok → signature.hasBuffer = true)) := by
  unfold executeSign
  cases keyFound : signatureKey state sessionHandle operation false with
  | error code =>
      refine Or.inr ⟨signatureKey_code keyFound, ?_⟩
      rintro rfl
      exact (signatureKey_ne_ok keyFound).elim
  | ok found =>
      rcases found with ⟨object, key⟩
      dsimp only
      split
      · rename_i noBuffer
        exact Or.inl ⟨object, key, rfl, Or.inl ⟨noBuffer, rfl⟩, rfl, rfl⟩
      · rename_i hasBuffer
        rw [Bool.not_eq_false] at hasBuffer
        split
        · exact Or.inl ⟨object, key, rfl, Or.inr ⟨hasBuffer, rfl⟩, rfl, rfl⟩
        · refine Or.inr ⟨?_, fun _ => hasBuffer⟩
          split
          · rename_i code fails
            exact configureSignature_code fails
          · split
            · rfl
            · rcases deliverSignature_rv with isOk | isError
              · rw [isOk]
                rfl
              · rw [isError]
                rfl

/-- With a buffer of the required length the signature is not too long. -/
theorem executeSign_sufficient {operation : Operation} {data : Bytes} {signature : OutputBuffer}
    {object : Object} {key : EvpKey}
    (keyFound : signatureKey state sessionHandle operation false = .ok (object, key))
    (hasBuffer : signature.hasBuffer = true)
    (fits : requiredLength host.openSsl object key ≤ signature.length) :
    (executeSign host oracle state sessionHandle operation data signature).rv ≠
        .bufferTooSmall ∧
      (oracle.SizesBounded host → ∀ written,
        (executeSign host oracle state sessionHandle operation data signature).written =
          some written → written.length ≤ requiredLength host.openSsl object key) := by
  have long : ¬signature.length < requiredLength host.openSsl object key := not_lt.mpr fits
  simp only [executeSign, keyFound, hasBuffer, Bool.true_eq_false, if_false, if_neg long]
  split
  · rename_i code fails
    constructor
    · rintro rfl
      have code := configureSignature_code fails
      contradiction
    · intro _ written isWritten
      contradiction
  · split
    · constructor
      · simp
      · intro _ written isWritten
        contradiction
    · rename_i result signed
      constructor
      · rcases deliverSignature_rv with isOk | isError
        · rw [isOk]
          simp
        · rw [isError]
          simp
      · intro bounded written isWritten
        exact deliverSignature_written (bounded _ _ signed) isWritten

/-! ## Completing calls -/

variable {session : Session}

theorem signingSession_of_active (found : state.findSession sessionHandle = some session)
    (active : session.operation.active = true) :
    signingSession state sessionHandle session.operation.verify = .ok session := by
  simp [signingSession, found, active, require]

/-- A call of the wrong direction changes nothing. -/
theorem step_wrongDirection (isOpen : state.initialized = true)
    (found : state.findSession sessionHandle = some session) {call : Call}
    (continues : call.continues? = some (sessionHandle, !session.operation.verify)) :
    step host state (call, oracle) = (state, .plain .operationNotInitialized) := by
  have refused : signingSession state sessionHandle (!session.operation.verify) =
      .error .operationNotInitialized := by
    simp [signingSession, found, require]
  cases call with
  | sign _ _ _ _ =>
      simp only [Call.continues?, Option.some.injEq, Prod.mk.injEq] at continues
      rcases continues with ⟨rfl, direction⟩
      simp [step, isOpen, service, sign, direction, refused]
  | signUpdate _ _ =>
      simp only [Call.continues?, Option.some.injEq, Prod.mk.injEq] at continues
      rcases continues with ⟨rfl, direction⟩
      simp [step, isOpen, service, signUpdate, appendSignatureData, direction, refused]
  | signFinal _ _ _ =>
      simp only [Call.continues?, Option.some.injEq, Prod.mk.injEq] at continues
      rcases continues with ⟨rfl, direction⟩
      simp [step, isOpen, service, signFinal, direction, refused]
  | verify _ _ _ =>
      simp only [Call.continues?, Option.some.injEq, Prod.mk.injEq] at continues
      rcases continues with ⟨rfl, direction⟩
      simp [step, isOpen, service, verify, direction, refused]
  | verifyUpdate _ _ =>
      simp only [Call.continues?, Option.some.injEq, Prod.mk.injEq] at continues
      rcases continues with ⟨rfl, direction⟩
      simp [step, isOpen, service, verifyUpdate, appendSignatureData, direction, refused]
  | verifyFinal _ _ =>
      simp only [Call.continues?, Option.some.injEq, Prod.mk.injEq] at continues
      rcases continues with ⟨rfl, direction⟩
      simp [step, isOpen, service, verifyFinal, direction, refused]
  | _ => simp [Call.continues?] at continues

theorem step_sign (isOpen : state.initialized = true)
    (found : state.findSession sessionHandle = some session)
    (active : session.operation.active = true) (signs : session.operation.verify = false)
    (form : Completion) (signature : OutputBuffer) (hasLength : Bool) :
    step host state (form.sign sessionHandle signature hasLength, oracle) =
      if hasLength = true ∧ form.isGiven = true then
        completeSign host oracle state sessionHandle session (form.data session.operation) signature
      else (state, .plain .argumentsBad) := by
  have pending := signingSession_of_active found active
  rw [signs] at pending
  cases form with
  | oneShot data =>
      by_cases given : hasLength = true ∧ data.isMissing = false
      · simp [Completion.sign, Completion.isGiven, Completion.data, step, isOpen, service, sign,
          pending, given, require]
      · simp [Completion.sign, Completion.isGiven, step, isOpen, service, sign, pending, given,
          require]
  | final =>
      by_cases given : hasLength = true
      · simp [Completion.sign, Completion.isGiven, Completion.data, step, isOpen, service,
          signFinal, pending, given, require]
      · simp [Completion.sign, step, isOpen, service, signFinal, pending, given, require]

theorem step_verify (isOpen : state.initialized = true)
    (found : state.findSession sessionHandle = some session)
    (active : session.operation.active = true) (verifies : session.operation.verify = true)
    (form : Completion) (signature : Buffer) :
    step host state (form.verify sessionHandle signature, oracle) =
      if form.isGiven = true ∧ signature.isMissing = false then
        completeVerify host oracle state sessionHandle session (form.data session.operation)
          signature
      else (state, .plain .argumentsBad) := by
  have pending := signingSession_of_active found active
  rw [verifies] at pending
  cases form with
  | oneShot data =>
      by_cases given : data.isMissing = false ∧ signature.isMissing = false
      · simp [Completion.verify, Completion.isGiven, Completion.data, step, isOpen, service,
          verify, pending, given, require]
      · simp [Completion.verify, Completion.isGiven, step, isOpen, service, verify, pending, given,
          require]
  | final =>
      by_cases given : signature.isMissing = false
      · simp [Completion.verify, Completion.isGiven, Completion.data, step, isOpen, service,
          verifyFinal, pending, given, require]
      · simp [Completion.verify, Completion.isGiven, step, isOpen, service, verifyFinal, pending,
          given, require]

theorem signatureParameters_code {openSsl : OpenSsl} {mechanism : Mechanism} {key : EvpKey}
    {code : Rv} (fails : signatureParameters openSsl mechanism key = .error code) :
    code = .mechanismParamInvalid := by
  unfold signatureParameters at fails
  split at fails
  · split at fails
    · simp only [bind_eq_error_iff, fetch_eq_error_iff, require_eq_error_iff, pure_eq_ok,
        reduceCtorEq] at fails
      grind
    · cases fails
      rfl
  · simp only [bind_eq_error_iff, require_eq_error_iff, pure_eq_ok, reduceCtorEq, and_false,
      exists_false, or_false] at fails
    exact fails.2.symm

theorem initializeSignature_rv (inactive : ∃ session,
      state.findSession sessionHandle = some session ∧ session.operation.active = false)
    (mechanism : Option Mechanism) (keyHandle : Nat) (verify : Bool) :
    (initializeSignature host state sessionHandle mechanism keyHandle verify).2.rv ≠
      .operationActive := by
  rcases inactive with ⟨session, found, inactive⟩
  unfold initializeSignature
  cases passes : signatureOperation host state sessionHandle mechanism keyHandle verify with
  | ok result => simp
  | error code =>
      rintro rfl
      simp only [signatureOperation, bind_eq_error_iff, fetch_eq_error_iff, fetch_eq_ok_iff,
        require_eq_error_iff, found, Option.some.injEq, pure_eq_ok, reduceCtorEq, and_false,
        exists_false, exists_eq_left', inactive, not_true_eq_false, false_and, false_or,
        or_false] at passes
      rcases passes with
        ⟨_, _, _, _, _, _, _, _, denied | ⟨_, _, _, _, _, _, _, _, _, _, parameters⟩⟩
      · rcases objectAccessStatus_code denied with isOther | isLogin
        · contradiction
        · contradiction
      · have code := signatureParameters_code parameters
        contradiction

theorem OperationEnded.of_inactive (isOpen : state.initialized = true)
    (inactive : ∃ session, state.findSession sessionHandle = some session ∧
      session.operation.active = false) : OperationEnded host state sessionHandle where
  inactive := inactive
  signInit _ mechanism keyHandle := by
    simpa [step, isOpen, service, HsmSimulator.signInit] using
      initializeSignature_rv inactive mechanism keyHandle false
  verifyInit _ mechanism keyHandle := by
    simpa [step, isOpen, service, HsmSimulator.verifyInit] using
      initializeSignature_rv inactive mechanism keyHandle true

theorem OperationEnded.endOperation (isOpen : state.initialized = true) (session : Session) :
    OperationEnded host (state.putSession sessionHandle session.endOperation) sessionHandle :=
  .of_inactive isOpen ⟨session.endOperation, by simp, rfl⟩

/-- What a completing call of a signature does to the operation. -/
structure SignatureEnds (host : Host) (state : State) (sessionHandle : Nat)
    (retry : OutputBuffer → Call) (signature : OutputBuffer) (result : State × Response) :
    Prop where
  /-- Without a buffer, or where the arguments are refused, nothing changes. -/
  kept : signature.hasBuffer = false ∨ result.2.rv = .bufferTooSmall ∨
    result.2.rv = .argumentsBad → result.1 = state
  /-- A size query and a short buffer report a length that suffices. -/
  reports : (signature.hasBuffer = false ∧ result.2.rv = .ok) ∨ result.2.rv = .bufferTooSmall →
    ∃ length, result.2.output = .buffer length none ∧ Suffices host state retry length
  ended : signature.hasBuffer = true → result.2.rv ≠ .bufferTooSmall →
    result.2.rv ≠ .argumentsBad → OperationEnded host result.1 sessionHandle

section

variable (host) (oracle) (state) (sessionHandle) (session) (data : Bytes)
  (signature : OutputBuffer)

theorem completeSign_response :
    (completeSign host oracle state sessionHandle session data signature).2 =
      let outcome := executeSign host oracle state sessionHandle session.operation data signature
      ⟨outcome.rv, .buffer outcome.length outcome.written, outcome.primitive⟩ := by
  unfold completeSign
  dsimp only
  split <;> rfl

theorem completeSign_state :
    (completeSign host oracle state sessionHandle session data signature).1 =
      if signature.hasBuffer = true ∧
          (executeSign host oracle state sessionHandle session.operation data signature).rv ≠
            .bufferTooSmall then
        state.putSession sessionHandle session.endOperation
      else state := by
  unfold completeSign
  dsimp only
  split <;> rfl

end

/-- The length a size query or a short buffer reports suffices for the retry. -/
theorem suffices_required (isOpen : state.initialized = true)
    (found : state.findSession sessionHandle = some session)
    (active : session.operation.active = true) (signs : session.operation.verify = false)
    {form : Completion} {hasLength : Bool} (given : hasLength = true ∧ form.isGiven = true)
    {object : Object} {key : EvpKey}
    (keyFound : signatureKey state sessionHandle session.operation false = .ok (object, key)) :
    Suffices host state (fun signature => form.sign sessionHandle signature hasLength)
      (requiredLength host.openSsl object key) := by
  intro oracle signature hasBuffer fits
  have sufficient := @executeSign_sufficient host oracle state sessionHandle session.operation
    (form.data session.operation) signature object key keyFound hasBuffer fits
  rw [step_sign isOpen found active signs, if_pos given, completeSign_response]
  constructor
  · exact sufficient.1
  · intro bounded reported written isWritten
    simp only [Output.buffer.injEq] at isWritten
    exact sufficient.2 bounded written isWritten.2

theorem completeSign_ends (isOpen : state.initialized = true)
    (found : state.findSession sessionHandle = some session)
    (active : session.operation.active = true) (signs : session.operation.verify = false)
    (form : Completion) (signature : OutputBuffer) (hasLength : Bool) :
    SignatureEnds host state sessionHandle
      (fun signature => form.sign sessionHandle signature hasLength) signature
      (step host state (form.sign sessionHandle signature hasLength, oracle)) := by
  rw [step_sign isOpen found active signs]
  by_cases given : hasLength = true ∧ form.isGiven = true
  · rw [if_pos given]
    have outcome := executeSign_cases host oracle state sessionHandle session.operation
      (form.data session.operation) signature
    dsimp only at outcome
    constructor
    · rw [completeSign_response, completeSign_state]
      dsimp only
      rintro (noBuffer | isShort | isBad)
      · rw [if_neg (by simp [noBuffer])]
      · rw [if_neg (by simp [isShort])]
      · rcases outcome with ⟨_, _, _, ⟨_, isOk⟩ | ⟨_, isShort⟩, _⟩ | ⟨silent, _⟩
        · rw [isOk] at isBad
          contradiction
        · rw [isShort] at isBad
          contradiction
        · rw [isBad] at silent
          contradiction
    · rw [completeSign_response]
      dsimp only
      intro reason
      rcases outcome with ⟨object, key, keyFound, _, reported, nothing⟩ | ⟨silent, hasBuffer⟩
      · refine ⟨requiredLength host.openSsl object key, by rw [reported, nothing], ?_⟩
        exact suffices_required isOpen found active signs given keyFound
      · rcases reason with ⟨noBuffer, isOk⟩ | isShort
        · rw [hasBuffer isOk] at noBuffer
          contradiction
        · rw [isShort] at silent
          contradiction
    · rw [completeSign_response, completeSign_state]
      dsimp only
      intro hasBuffer notShort _
      rw [if_pos ⟨hasBuffer, notShort⟩]
      exact .endOperation isOpen session
  · rw [if_neg given]
    constructor
    · intro _
      rfl
    · rintro (⟨_, isOk⟩ | isShort)
      · contradiction
      · contradiction
    · intro _ _ notRefused
      exact absurd rfl notRefused

theorem verification_code {operation : Operation} {data : Bytes} {signature : Buffer} {code : Rv}
    (fails : verification host oracle state sessionHandle operation data signature =
      .error code) : code ≠ .argumentsBad := by
  rintro rfl
  simp only [verification, encodedSignature, bind_eq_error_iff, pure_eq_ok, reduceCtorEq,
    require_eq_error_iff, and_false, exists_false, or_false, false_or] at fails
  rcases fails with keyFails | ⟨_, keyFound, _, _, encodingFails | ⟨_, _, configurationFails⟩⟩
  · have code := signatureKey_code keyFails
    contradiction
  · split at encodingFails
    · simp [bind_eq_error_iff] at encodingFails
    · contradiction
  · have code := configureSignature_code configurationFails
    contradiction

theorem verification_ne_ok {operation : Operation} {data : Bytes} {signature : Buffer} :
    verification host oracle state sessionHandle operation data signature ≠ .error .ok := by
  intro fails
  simp only [verification, encodedSignature, bind_eq_error_iff, pure_eq_ok, reduceCtorEq,
    require_eq_error_iff, and_false, exists_false, or_false, false_or] at fails
  rcases fails with keyFails | ⟨_, _, _, _, encodingFails | ⟨_, _, configurationFails⟩⟩
  · exact signatureKey_ne_ok keyFails
  · split at encodingFails
    · simp [bind_eq_error_iff] at encodingFails
    · contradiction
  · exact configureSignature_ne_ok configurationFails

/-- A verification ends the operation unless its arguments are refused. -/
theorem completeVerify_ends (isOpen : state.initialized = true)
    (found : state.findSession sessionHandle = some session)
    (active : session.operation.active = true) (verifies : session.operation.verify = true)
    (form : Completion) (signature : Buffer) :
    let result := step host state (form.verify sessionHandle signature, oracle)
    (result.2.rv = .argumentsBad → result.1 = state) ∧
      (result.2.rv ≠ .argumentsBad → OperationEnded host result.1 sessionHandle) := by
  rw [step_verify isOpen found active verifies]
  by_cases given : form.isGiven = true ∧ signature.isMissing = false
  · rw [if_pos given]
    constructor
    · intro isBad
      unfold completeVerify executeVerify at isBad
      dsimp only at isBad
      split at isBad
      · rename_i code fails
        exact absurd isBad (verification_code fails)
      · split at isBad
        · contradiction
        · contradiction
    · intro _
      exact .endOperation isOpen session
  · rw [if_neg given]
    constructor
    · intro _
      rfl
    · intro notRefused
      exact absurd rfl notRefused

end

/-- A completing call ends the operation of its direction or leaves all as it was, as its
return code and the buffer say. -/
theorem signature_operation_ends (host : Host) (state : State) (reachable : Reachable host state)
    {sessionHandle : Nat} {session : Session}
    (found : state.findSession sessionHandle = some session)
    (active : session.operation.active = true) :
    (session.operation.verify = false → ∀ oracle form signature hasLength,
        SignatureEnds host state sessionHandle
          (fun signature => Completion.sign form sessionHandle signature hasLength) signature
          (step host state (Completion.sign form sessionHandle signature hasLength, oracle))) ∧
      (session.operation.verify = true → ∀ oracle form signature,
        let result := step host state (Completion.verify form sessionHandle signature, oracle)
        (result.2.rv = .argumentsBad → result.1 = state) ∧
          (result.2.rv ≠ .argumentsBad → OperationEnded host result.1 sessionHandle)) ∧
      ∀ oracle call, Call.continues? call = some (sessionHandle, !session.operation.verify) →
        step host state (call, oracle) = (state, .plain .operationNotInitialized) := by
  have isOpen := reachable.wellFormed.initialized_of_session found
  constructor
  · intro signs oracle form signature hasLength
    exact completeSign_ends isOpen found active signs form signature hasLength
  · constructor
    · intro verifies oracle form signature
      exact completeVerify_ends isOpen found active verifies form signature
    · intro oracle call continues
      exact step_wrongDirection isOpen found continues

/-- A session that signs with a key of its own. -/
def signingCalls : List Call :=
  [.cInitialize false, .openSession 1 6 true, sessionPair 1,
    .signInit 1 (some ⟨ckmSha256RsaPkcs, .null 0⟩) 1]

/-- The state in which session 1 signs. -/
def signingState : State := Runs.final (step .plain) (.loaded ⟨∅, ∅⟩) (plainRun signingCalls)

theorem signature_operation_ends_signing :
    (step .plain signingState (.sign 1 (.bytes [1]) ⟨true, 384⟩ true, .plain)).2.rv = .ok ∧
      OperationEnded .plain
        (step .plain signingState (.sign 1 (.bytes [1]) ⟨true, 384⟩ true, .plain)).1 1 := by
  constructor
  · decide
  · have recorded : ∃ session, signingState.findSession 1 = some session ∧
        session.operation.active = true ∧ session.operation.verify = false := by decide
    rcases recorded with ⟨session, found, active, signs⟩
    have ends := (signature_operation_ends .plain signingState ⟨_, _, rfl⟩ found active).1 signs
      .plain (.oneShot (.bytes [1])) ⟨true, 384⟩ true
    exact ends.ended rfl (by decide) (by decide)

/-- After the key was destroyed, a size query fails and leaves the operation active. -/
theorem signature_operation_ends_destroyedKey :
    let state := Runs.final (step .plain) (.loaded ⟨∅, ∅⟩)
      (plainRun (signingCalls ++ [.destroyObject 1 1]))
    let queried := step .plain state (.sign 1 (.bytes [1]) ⟨false, 0⟩ true, .plain)
    queried.2.rv = .keyHandleInvalid ∧ queried.1 = state ∧
      (step .plain queried.1 (.signInit 1 (some ⟨ckmSha256RsaPkcs, .null 0⟩) 1, .plain)).2.rv =
        .operationActive := by
  decide

end HsmSimulator
