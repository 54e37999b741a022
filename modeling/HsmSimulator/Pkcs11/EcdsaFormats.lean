import HsmSimulator.Pkcs11.SignatureCalls
import HsmSimulator.Pkcs11.SignatureData

/-!
# ECDSA signatures in two formats

The interface has a signature as two coordinates of a fixed width, OpenSSL as the DER
encoding of two integers.  The translations lose nothing, as long as the encodings of
OpenSSL do not.
-/

namespace HsmSimulator

open Checks

/-! ## Mechanisms of pending operations -/

/-- The key of every pending operation supports its mechanism. -/
def OperationsSupported (state : State) : Prop :=
  ∀ handle session, state.findSession handle = some session → session.operation.active = true →
    ∀ object, state.objects.get? session.operation.keyHandle = some object →
      supportsSignature object.keyType session.operation.mechanism = true

section

variable {host : Host} {oracle : Oracle} {state : State}

/-- An operation after a step is the one before it, perhaps with more data or ended, or none
was started yet, or it was started by the step. -/
def OperationComesFrom (host : Host) (state : State) (handle : Nat) (after : Session) : Prop :=
  OperationLeft state handle after ∨ after.operation = .initial ∨
    (∃ before data, state.findSession handle = some before ∧
      before.operation.active = true ∧
      after.operation = { before.operation with bufferedData := data }) ∨
    ∃ session mechanism keyHandle verify,
      signatureOperation host state handle mechanism keyHandle verify =
        .ok (session, after.operation)

theorem initializeSignature_origin (sessionHandle : Nat) (mechanism : Option Mechanism)
    (keyHandle : Nat) (verify : Bool) {handle : Nat} {after : Session}
    (found : (initializeSignature host state sessionHandle mechanism keyHandle
      verify).1.findSession handle = some after) :
    OperationComesFrom host state handle after := by
  unfold initializeSignature at found
  split at found
  · exact Or.inl ⟨after, found, Or.inl rfl⟩
  · rename_i session operation passes
    rw [State.findSession_putSession] at found
    split at found
    · rename_i isSession
      subst isSession
      cases found
      exact Or.inr (Or.inr (Or.inr ⟨session, mechanism, keyHandle, verify, passes⟩))
    · exact Or.inl ⟨after, found, Or.inl rfl⟩

theorem appendSignatureData_origin (sessionHandle : Nat) (data : Buffer) (verify : Bool)
    {handle : Nat} {after : Session}
    (found : (appendSignatureData state sessionHandle data verify).1.findSession handle =
      some after) : OperationComesFrom host state handle after := by
  have cases := @appendSignatureData_cases state sessionHandle data verify
  generalize appendSignatureData state sessionHandle data verify = result at cases found
  cases cases with
  | refused _ => exact Or.inl ⟨after, found, Or.inl rfl⟩
  | @ended session code sessionFound _ =>
      rw [State.findSession_putSession] at found
      split at found
      · rename_i isSession
        subst isSession
        cases found
        exact Or.inl ⟨session, sessionFound, Or.inr rfl⟩
      · exact Or.inl ⟨after, found, Or.inl rfl⟩
  | @appended session sessionFound isActive _ _ =>
      rw [State.findSession_putSession] at found
      split at found
      · rename_i isSession
        subst isSession
        cases found
        exact Or.inr (Or.inr (Or.inl ⟨session, _, sessionFound, isActive, rfl⟩))
      · exact Or.inl ⟨after, found, Or.inl rfl⟩

/-- Where the operations after a call come from. -/
theorem service_operation (wellFormed : WellFormed state) (call : Call) {handle : Nat}
    {after : Session}
    (found : (service host oracle state call).1.findSession handle = some after) :
    OperationComesFrom host state handle after := by
  cases leaves : call.updatesSession with
  | false =>
      rcases service_sessionsKept wellFormed leaves handle after found with same | idle
      · exact Or.inl ⟨after, same, Or.inl rfl⟩
      · exact Or.inr (Or.inl idle.operation)
  | true =>
      cases call with
      | findObjectsInit sessionHandle attributes =>
          exact Or.inl ((findObjectsInit_kept sessionHandle attributes).session found)
      | findObjects sessionHandle hasOutput capacity hasCount =>
          exact Or.inl
            ((findObjects_kept sessionHandle hasOutput capacity hasCount).session found)
      | findObjectsFinal sessionHandle =>
          exact Or.inl ((findObjectsFinal_kept sessionHandle).session found)
      | sign sessionHandle data signature hasLength =>
          exact Or.inl ((sign_closed sessionHandle data signature hasLength).kept.session found)
      | signFinal sessionHandle signature hasLength =>
          exact Or.inl ((signFinal_closed sessionHandle signature hasLength).kept.session found)
      | verify sessionHandle data signature =>
          exact Or.inl ((verify_closed sessionHandle data signature).kept.session found)
      | verifyFinal sessionHandle signature =>
          exact Or.inl ((verifyFinal_closed sessionHandle signature).kept.session found)
      | signInit sessionHandle mechanism keyHandle =>
          exact initializeSignature_origin sessionHandle mechanism keyHandle false found
      | verifyInit sessionHandle mechanism keyHandle =>
          exact initializeSignature_origin sessionHandle mechanism keyHandle true found
      | signUpdate sessionHandle data =>
          exact appendSignatureData_origin sessionHandle data false found
      | verifyUpdate sessionHandle data =>
          exact appendSignatureData_origin sessionHandle data true found
      | _ => contradiction

theorem keyType_eq_of_core {object other : Object} (same : object.core = other.core) :
    object.keyType = other.keyType := by
  have fields := congrArg Object.keyType same
  exact fields

/-- The type of the key of a handle does not change. -/
theorem ObjectsAdvance.supported {next : State} {operation : Operation}
    (advance : ObjectsAdvance state next) (issued : operation.keyHandle < state.nextObjectHandle)
    (supported : ∀ object, state.objects.get? operation.keyHandle = some object →
      supportsSignature object.keyType operation.mechanism = true)
    {object : Object} (found : next.objects.get? operation.keyHandle = some object) :
    supportsSignature object.keyType operation.mechanism = true := by
  rcases advance.entered operation.keyHandle object found with ⟨old, oldFound, same⟩ | above
  · rw [keyType_eq_of_core same.core]
    exact supported old oldFound
  · omega

theorem signatureOperation_supported {sessionHandle : Nat} {mechanism : Option Mechanism}
    {keyHandle : Nat} {verify : Bool} {session : Session} {operation : Operation}
    (wellFormed : WellFormed state)
    (passes : signatureOperation host state sessionHandle mechanism keyHandle verify =
      .ok (session, operation)) :
    operation.keyHandle < state.nextObjectHandle ∧
      ∀ object, state.objects.get? operation.keyHandle = some object →
        supportsSignature object.keyType operation.mechanism = true := by
  simp only [signatureOperation, bind_eq_ok_iff, fetch_eq_ok_iff, require_eq_ok_iff,
    pure_eq_ok, Except.ok.injEq, Prod.mk.injEq] at passes
  rcases passes with ⟨_, _, given, _, _, _, object, objectFound, key, _, _, _, _, _, _, _, _,
    supported, _, _, _, _, _, rfl⟩
  rcases State.findObject_eq_some_iff.mp objectFound with ⟨_, _, stored, _⟩
  refine ⟨(wellFormed.objectKey keyHandle object stored).2.2, ?_⟩
  intro other otherFound
  rw [stored] at otherFound
  cases otherFound
  exact supported

theorem OperationsSupported.step (supported : OperationsSupported state)
    (wellFormed : WellFormed state) (input : Call × Oracle) :
    OperationsSupported (HsmSimulator.step host state input).1 := by
  rcases input with ⟨call, oracle⟩
  intro handle after found active object objectFound
  cases isOpen : state.initialized with
  | false =>
      rw [State.findSession, step_closed_sessions isOpen, (wellFormed.closed isOpen).2.2] at found
      contradiction
  | true =>
      have advance : ObjectsAdvance state (HsmSimulator.step host state (call, oracle)).1 :=
        (step_effect wellFormed call).objectsAdvance wellFormed isOpen
      rw [step_of_open isOpen] at found
      rcases service_operation wellFormed call found with
        ⟨before, beforeFound, same | ended⟩ | initial |
        ⟨before, data, beforeFound, wasActive, same⟩ |
        ⟨session, mechanism, keyHandle, verify, passes⟩
      · rw [← same] at active objectFound ⊢
        exact advance.supported (wellFormed.pending handle before beforeFound).1
          (supported handle before beforeFound active) objectFound
      · rw [ended] at active
        contradiction
      · rw [initial] at active
        contradiction
      · rw [same] at objectFound ⊢
        exact advance.supported (wellFormed.pending handle before beforeFound).1
          (supported handle before beforeFound wasActive) objectFound
      · rcases signatureOperation_supported wellFormed passes with ⟨issued, supports⟩
        exact advance.supported issued supports objectFound

theorem Reachable.operationsSupported (reachable : Reachable host state) :
    OperationsSupported state := by
  rcases reachable with ⟨disk, inputs, rfl⟩
  have invariant := @Runs.invariant_run _ _ _ (HsmSimulator.step host)
    (fun state => WellFormed state ∧ OperationsSupported state)
    (fun state input valid => ⟨valid.1.step input, valid.2.step valid.1 input⟩)
    (.loaded disk) ⟨wellFormed_loaded disk, ?_⟩ inputs
  · exact invariant.2
  · intro handle session found
    contradiction

end

/-! ## The fixed-width format -/

/-- Two coordinates of a width. -/
def signatureString (width r s : Nat) : Bytes := bigEndianBytes width r ++ bigEndianBytes width s

/-- The pair formed by the halves of a signature. -/
def signaturePair (width : Nat) (signature : Bytes) : Nat × Nat :=
  (bigEndianValue (signature.take width), bigEndianValue (signature.drop width))

theorem length_signatureString (width r s : Nat) :
    (signatureString width r s).length = 2 * width := by
  rw [signatureString, List.length_append, length_bigEndianBytes, length_bigEndianBytes]
  omega

/-- Coordinates that fit come back. -/
theorem signaturePair_string {width r s : Nat} (rFits : r < 256 ^ width)
    (sFits : s < 256 ^ width) : signaturePair width (signatureString width r s) = (r, s) := by
  rw [signaturePair, signatureString, List.take_left' (length_bigEndianBytes width r),
    List.drop_left' (length_bigEndianBytes width r), bigEndianValue_bytes, bigEndianValue_bytes,
    Nat.mod_eq_of_lt rFits, Nat.mod_eq_of_lt sFits]

/-- A signature of the right length is the string of its pair. -/
theorem signatureString_pair {width : Nat} {signature : Bytes}
    (length : signature.length = 2 * width) :
    signatureString width (signaturePair width signature).1 (signaturePair width signature).2 =
      signature := by
  have first : (signature.take width).length = width := by
    rw [List.length_take]
    omega
  have second : (signature.drop width).length = width := by
    rw [List.length_drop]
    omega
  have firstBytes := bigEndianBytes_value (signature.take width)
  have secondBytes := bigEndianBytes_value (signature.drop width)
  rw [first] at firstBytes
  rw [second] at secondBytes
  rw [signatureString, signaturePair, firstBytes, secondBytes, List.take_append_drop]

/-- The halves of a signature of the right length fit. -/
theorem signaturePair_lt {width : Nat} {signature : Bytes}
    (length : signature.length = 2 * width) :
    (signaturePair width signature).1 < 256 ^ width ∧
      (signaturePair width signature).2 < 256 ^ width := by
  have first := bigEndianValue_lt (signature.take width)
  have second := bigEndianValue_lt (signature.drop width)
  rw [List.length_take, Nat.min_eq_left (by omega)] at first
  rw [List.length_drop, show signature.length - width = width by omega] at second
  exact ⟨first, second⟩

theorem signaturePair_injective {width : Nat} {first second : Bytes}
    (length : first.length = 2 * width) (otherLength : second.length = 2 * width)
    (same : signaturePair width first = signaturePair width second) : first = second := by
  rw [← signatureString_pair length, same, signatureString_pair otherLength]

/-! ## Translations -/

/-- The encoding of a pair that fits the width of a key decodes to the pair. -/
def EcdsaSigSpecified (openSsl : OpenSsl) : Prop :=
  ∀ key r s, r < 256 ^ ((openSsl.bits key + 7) / 8) → s < 256 ^ ((openSsl.bits key + 7) / 8) →
    ∃ der, openSsl.encodeEcdsaSig r s = some der ∧ openSsl.decodeEcdsaSig der = some (r, s)

/-- The objects OpenSSL needs for a signature can be made. -/
structure Oracle.EcdsaWorks (oracle : Oracle) : Prop where
  allocated : oracle.ecdsaAllocated = true
  assigned : oracle.ecdsaAssigned = true
  context : oracle.signatureContext = true
  initialized : oracle.signatureInit = true

/-- A pending operation of a session whose key is an EC key. -/
structure PendingEcdsa (state : State) (sessionHandle : Nat) (session : Session)
    (object : Object) (key : EvpKey) (verify : Bool) : Prop where
  found : state.findSession sessionHandle = some session
  active : session.operation.active = true
  direction : session.operation.verify = verify
  objectFound : state.findObject sessionHandle session.operation.keyHandle = some object
  isKey : object.asymmetricKey = some key
  isEc : object.keyType = ckkEc

section

variable {host : Host} {oracle : Oracle} {state : State} {sessionHandle : Nat} {session : Session}
  {object : Object} {key : EvpKey} {operation : Operation}

/-- The checks of a completing call end in an error that is not success, or find the key. -/
theorem PendingEcdsa.checks {verify : Bool}
    (pending : PendingEcdsa state sessionHandle session object key verify) :
    signatureKey state sessionHandle session.operation verify = .ok (object, key) ∨
      ∃ code, code ≠ .ok ∧
        signatureKey state sessionHandle session.operation verify = .error code := by
  cases passes : signatureKey state sessionHandle session.operation verify with
  | error code =>
      right
      refine ⟨code, ?_, rfl⟩
      rintro rfl
      exact (signatureKey_ne_ok passes).elim
  | ok found =>
      left
      rcases found with ⟨otherObject, otherKey⟩
      rcases signatureKey_eq_ok passes with ⟨objectFound, isKey⟩
      rw [pending.objectFound] at objectFound
      cases objectFound
      rw [pending.isKey] at isKey
      cases isKey
      rfl

theorem coordinateWidth_ec (isEc : object.keyType = ckkEc) :
    coordinateWidth host.openSsl object key = (host.openSsl.bits key + 7) / 8 := by
  rw [coordinateWidth, if_pos isEc]

theorem requiredLength_ec (isEc : object.keyType = ckkEc) :
    requiredLength host.openSsl object key = 2 * coordinateWidth host.openSsl object key := by
  simp [requiredLength, isEc]

/-- An EC key only supports mechanisms whose setup needs nothing else. -/
theorem configureSignature_ec {required length : Nat}
    (works : oracle.EcdsaWorks) (isEc : object.keyType = ckkEc)
    (supported : supportsSignature object.keyType operation.mechanism = true) :
    ∃ digest, configureSignature oracle object operation required length = .ok digest := by
  have notRsa : operation.mechanism ≠ ckmRsaPkcs ∧ operation.mechanism ≠ ckmRsaPkcsPss ∧
      isRsaPss operation.mechanism = false := by
    rw [isEc] at supported
    simp only [supportsSignature, show ckkEc ≠ ckkRsa by decide, if_false, if_true, Bool.or_eq_true,
      decide_eq_true_eq] at supported
    rcases supported with ((same | same) | same) | same <;> rw [same] <;> decide
  rcases notRsa with ⟨notPkcs, notPss, notRsaPss⟩
  unfold configureSignature
  split
  · exact ⟨none, by simp [notPkcs, works.context, works.initialized, isEc, require]⟩
  · simp [notRsaPss, works.context, works.initialized, require]

/-- What a successful signature with a buffer has translated. -/
theorem executeSign_ecdsa {data : Bytes} {signature : OutputBuffer}
    (isEc : object.keyType = ckkEc)
    (passes : signatureKey state sessionHandle operation false = .ok (object, key))
    (hasBuffer : signature.hasBuffer = true)
    (succeeded : (executeSign host oracle state sessionHandle operation data
      signature).rv = .ok) :
    ∃ primitive der r s, oracle.signPrimitive primitive = some der ∧
      host.openSsl.decodeEcdsaSig der = some (r, s) ∧
      r < 256 ^ coordinateWidth host.openSsl object key ∧
      s < 256 ^ coordinateWidth host.openSsl object key ∧
      2 * coordinateWidth host.openSsl object key ≤ signature.length ∧
      executeSign host oracle state sessionHandle operation data signature =
        ⟨.ok, 2 * coordinateWidth host.openSsl object key,
          some (signatureString (coordinateWidth host.openSsl object key) r s),
          some primitive⟩ := by
  simp only [executeSign, passes, hasBuffer, Bool.true_eq_false, if_false] at succeeded ⊢
  rw [requiredLength_ec isEc] at succeeded ⊢
  split at succeeded
  · contradiction
  · rename_i long
    rw [if_neg long]
    split at succeeded
    · rename_i code fails
      cases succeeded
      exact (configureSignature_ne_ok fails).elim
    · rename_i digest configured
      split at succeeded
      · contradiction
      · rename_i der signed
        simp only [deliverSignature, isEc, if_true] at succeeded
        split at succeeded
        · contradiction
        · rename_i r s decoded
          split at succeeded
          · contradiction
          · rename_i rFits
            split at succeeded
            · contradiction
            · rename_i sFits
              refine ⟨_, der, r, s, signed, decoded, not_le.mp rFits, not_le.mp sFits,
                not_lt.mp long, ?_⟩
              simp [deliverSignature, isEc, decoded, rFits, sFits, signatureString]

/-- A pair that fits is delivered. -/
theorem executeSign_delivers {data : Bytes} {signature : OutputBuffer} {primitive : Primitive}
    {der : Bytes} {r s : Nat}
    (isEc : object.keyType = ckkEc)
    (passes : signatureKey state sessionHandle operation false = .ok (object, key))
    (reached : (executeSign host oracle state sessionHandle operation data
      signature).primitive = some primitive)
    (signed : oracle.signPrimitive primitive = some der)
    (decoded : host.openSsl.decodeEcdsaSig der = some (r, s))
    (rFits : r < 256 ^ coordinateWidth host.openSsl object key)
    (sFits : s < 256 ^ coordinateWidth host.openSsl object key) :
    (executeSign host oracle state sessionHandle operation data signature).rv = .ok := by
  simp only [executeSign, passes] at reached ⊢
  split at reached
  · contradiction
  · rename_i hasBuffer
    rw [if_neg hasBuffer]
    split at reached
    · contradiction
    · rename_i long
      rw [if_neg long]
      split at reached
      · contradiction
      · rename_i digest configured
        have isPrimitive : operation.primitive key digest data [] = primitive := by
          split at reached
          · simpa using reached
          · rw [deliverSignature_primitive] at reached
            simpa using reached
        simp only [isPrimitive, signed]
        simp [deliverSignature, isEc, decoded, not_le.mpr rFits, not_le.mpr sFits]

/-- OpenSSL gets the encoding of the pair of a signature. -/
structure HandsPair (openSsl : OpenSsl) (key : EvpKey) (pair : Nat × Nat)
    (primitive : Primitive) : Prop where
  verify : primitive.verify = true
  key : primitive.key = key
  encoded : openSsl.encodeEcdsaSig pair.1 pair.2 = some primitive.inputSignature
  decoded : openSsl.decodeEcdsaSig primitive.inputSignature = some pair

/-- The pair of a signature of the right length has an encoding. -/
theorem EcdsaSigSpecified.halves (specified : EcdsaSigSpecified host.openSsl)
    (isEc : object.keyType = ckkEc) {signature : Bytes}
    (length : signature.length = 2 * coordinateWidth host.openSsl object key) :
    ∃ der, host.openSsl.encodeEcdsaSig
        (signaturePair (coordinateWidth host.openSsl object key) signature).1
        (signaturePair (coordinateWidth host.openSsl object key) signature).2 = some der ∧
      host.openSsl.decodeEcdsaSig der =
        some (signaturePair (coordinateWidth host.openSsl object key) signature) := by
  rcases signaturePair_lt length with ⟨first, second⟩
  have width := @coordinateWidth_ec host object key isEc
  exact specified key _ _ (width ▸ first) (width ▸ second)

/-- What OpenSSL gets to verify. -/
theorem verification_ecdsa {data signature : Bytes} {primitive : Primitive}
    (specified : EcdsaSigSpecified host.openSsl)
    (isEc : object.keyType = ckkEc)
    (passes : signatureKey state sessionHandle operation true = .ok (object, key))
    (direction : operation.verify = true)
    (length : signature.length = 2 * coordinateWidth host.openSsl object key)
    (verified : verification host oracle state sessionHandle operation data (.bytes signature) =
      .ok primitive) :
    HandsPair host.openSsl key
      (signaturePair (coordinateWidth host.openSsl object key) signature) primitive := by
  simp only [verification, passes, ok_bind, bind_eq_ok_iff, encodedSignature,
    isEc, if_true, fetch_eq_ok_iff, pure_eq_ok, Except.ok.injEq] at verified
  rcases verified with ⟨_, _, der, ⟨_, _, _, _, encoded⟩, digest, _, rfl⟩
  rcases specified.halves isEc length with ⟨encoding, isEncoding, decoded⟩
  have same : some der = some encoding := encoded.symm.trans isEncoding
  cases same
  exact ⟨direction, rfl, encoded, decoded⟩

/-- A signature of the right length reaches OpenSSL. -/
theorem verification_works {data signature : Bytes}
    (specified : EcdsaSigSpecified host.openSsl) (works : oracle.EcdsaWorks)
    (isEc : object.keyType = ckkEc)
    (passes : signatureKey state sessionHandle operation true = .ok (object, key))
    (supported : supportsSignature object.keyType operation.mechanism = true)
    (length : signature.length = 2 * coordinateWidth host.openSsl object key) :
    ∃ primitive, verification host oracle state sessionHandle operation data
      (.bytes signature) = .ok primitive := by
  rcases specified.halves isEc length with ⟨der, encoded, _⟩
  rcases @configureSignature_ec oracle object operation
    (requiredLength host.openSsl object key) data.length works isEc supported with
    ⟨digest, configured⟩
  have translated : encodedSignature host oracle object (coordinateWidth host.openSsl object key)
      signature = .ok der := by
    simp only [encodedSignature, isEc, if_true, works.allocated, works.assigned, require, ok_bind]
    exact fetch_eq_ok_iff.mpr encoded
  have accepted : require ((Buffer.bytes signature).isNull = false ∧ (object.keyType = ckkEc →
      (Buffer.bytes signature).length = requiredLength host.openSsl object key))
      Rv.signatureLenRange = .ok () := by
    rw [require_eq_ok_iff]
    exact ⟨rfl, fun _ => length.trans (requiredLength_ec isEc).symm⟩
  refine ⟨operation.primitive key digest data der, ?_⟩
  simp only [verification, passes, ok_bind, accepted, Buffer.content, translated, configured,
    pure_eq_ok]

theorem executeVerify_length {data : Bytes} {signature : Buffer}
    (isEc : object.keyType = ckkEc)
    (passes : signatureKey state sessionHandle operation true = .ok (object, key))
    (length : signature.length ≠ 2 * coordinateWidth host.openSsl object key) :
    executeVerify host oracle state sessionHandle operation data signature =
      .plain .signatureLenRange := by
  have refused : require (signature.isNull = false ∧ (object.keyType = ckkEc →
      signature.length = requiredLength host.openSsl object key)) Rv.signatureLenRange =
      .error .signatureLenRange := by
    rw [require_eq_error_iff]
    refine ⟨fun accepted => length ?_, rfl⟩
    exact (accepted.2 isEc).trans (requiredLength_ec isEc)
  simp only [executeVerify, verification, passes, ok_bind, refused, error_bind]

end

/-! ## Both directions -/

/-- A signature for keys of a width verifies as the pair: what a completing call hands to
OpenSSL encodes the pair, and nothing but OpenSSL keeps it from getting there. -/
def VerifiesAs (host : Host) (width : Nat) (signature : Bytes) (pair : Nat × Nat) : Prop :=
  ∀ state, Reachable host state → ∀ (oracle : Oracle) (sessionHandle : Nat) (session : Session)
    (object : Object) (key : EvpKey) (form : Completion),
    PendingEcdsa state sessionHandle session object key true →
    signatureKey state sessionHandle session.operation true = .ok (object, key) →
    (host.openSsl.bits key + 7) / 8 = width → form.isGiven = true →
      let response := (step host state (form.verify sessionHandle (.bytes signature), oracle)).2
      (∀ primitive, response.primitive = some primitive →
        HandsPair host.openSsl key pair primitive) ∧
        (oracle.EcdsaWorks → response.primitive.isSome = true)

section

variable {host : Host} {oracle : Oracle} {state : State} {sessionHandle : Nat} {session : Session}
  {object : Object} {key : EvpKey}

theorem PendingEcdsa.opened {verify : Bool} (reachable : Reachable host state)
    (pending : PendingEcdsa state sessionHandle session object key verify) :
    state.initialized = true := by
  cases isOpen : state.initialized with
  | true => rfl
  | false =>
      have found := pending.found
      rw [State.findSession, (reachable.wellFormed.closed isOpen).2.2] at found
      contradiction

theorem pow_width (width : Nat) : 256 ^ width = 2 ^ (8 * width) := by
  rw [show 256 = 2 ^ 8 by rfl, ← pow_mul]

/-- Every signature of the right length verifies as its pair. -/
theorem verifiesAs_pair (specified : EcdsaSigSpecified host.openSsl) {width : Nat}
    {signature : Bytes} (length : signature.length = 2 * width) :
    VerifiesAs host width signature (signaturePair width signature) := by
  intro state reachable oracle sessionHandle session object key form pending passes isWidth given
  have widthOf : coordinateWidth host.openSsl object key = width :=
    (coordinateWidth_ec pending.isEc).trans isWidth
  rw [step_verify (pending.opened reachable) pending.found pending.active pending.direction,
    if_pos ⟨given, rfl⟩]
  dsimp only [completeVerify, executeVerify]
  constructor
  · intro primitive reached
    split at reached
    · contradiction
    · rename_i found verified
      cases reached
      have hands := verification_ecdsa specified pending.isEc passes pending.direction
        (by rw [widthOf]; exact length) verified
      rw [widthOf] at hands
      exact hands
  · intro works
    rcases State.findObject_eq_some_iff.mp pending.objectFound with ⟨_, _, stored, _⟩
    have supported := reachable.operationsSupported sessionHandle session pending.found
      pending.active object stored
    rcases @verification_works host oracle state sessionHandle object key session.operation
      (form.data session.operation) signature specified works pending.isEc passes
      supported (by rw [widthOf]; exact length) with ⟨primitive, verified⟩
    rw [verified]
    rfl

end

/-- In every reachable state: a pair OpenSSL signs with is delivered if it fits the width of
the key, what a successful signature delivers has twice the width and verifies as the pair;
every string of twice the width verifies as the pair of its halves and every other one is
refused before OpenSSL sees it; and distinct strings are distinct pairs. -/
theorem ecdsa_lossless (host : Host) (specified : EcdsaSigSpecified host.openSsl)
    (state : State) (reachable : Reachable host state) (oracle : Oracle) (sessionHandle : Nat)
    (session : Session) (object : Object) (key : EvpKey) (form : Completion) :
    let width := (host.openSsl.bits key + 7) / 8
    (PendingEcdsa state sessionHandle session object key false →
      ∀ signature : OutputBuffer, signature.hasBuffer = true →
        let response := (step host state (form.sign sessionHandle signature true, oracle)).2
        (∀ primitive der r s, response.primitive = some primitive →
          oracle.signPrimitive primitive = some der →
          host.openSsl.decodeEcdsaSig der = some (r, s) →
          r < 2 ^ (8 * width) → s < 2 ^ (8 * width) → response.rv = .ok) ∧
        (response.rv = .ok → ∃ primitive der r s bytes, response.primitive = some primitive ∧
          oracle.signPrimitive primitive = some der ∧
          host.openSsl.decodeEcdsaSig der = some (r, s) ∧
          r < 2 ^ (8 * width) ∧ s < 2 ^ (8 * width) ∧
          response.output = .buffer (2 * width) (some bytes) ∧ bytes.length = 2 * width ∧
          VerifiesAs host width bytes (r, s))) ∧
    (∀ signature : Bytes, signature.length = 2 * width →
      VerifiesAs host width signature (signaturePair width signature)) ∧
    (PendingEcdsa state sessionHandle session object key true →
      signatureKey state sessionHandle session.operation true = .ok (object, key) →
      form.isGiven = true → ∀ signature : Bytes, signature.length ≠ 2 * width →
        (step host state (form.verify sessionHandle (.bytes signature), oracle)).2 =
          .plain .signatureLenRange) ∧
    (∀ first second : Bytes, first.length = 2 * width → second.length = 2 * width →
      signaturePair width first = signaturePair width second → first = second) := by
  intro width
  refine ⟨?_, fun _ length => verifiesAs_pair specified length, ?_,
    fun _ _ => signaturePair_injective⟩
  · intro pending signature hasBuffer
    have widthOf : coordinateWidth host.openSsl object key = width :=
      coordinateWidth_ec pending.isEc
    rw [step_sign (pending.opened reachable) pending.found pending.active pending.direction]
    by_cases given : true = true ∧ form.isGiven = true
    · rw [if_pos given, completeSign_response]
      dsimp only
      constructor
      · intro primitive der r s reached signed decoded rFits sFits
        rw [← pow_width, ← widthOf] at rFits sFits
        rcases pending.checks with passes | ⟨code, _, fails⟩
        · exact executeSign_delivers pending.isEc passes reached signed decoded rFits sFits
        · simp [executeSign, fails] at reached
      · intro succeeded
        rcases pending.checks with passes | ⟨code, notOk, fails⟩
        · rcases executeSign_ecdsa pending.isEc passes hasBuffer succeeded with
            ⟨primitive, der, r, s, signed, decoded, rFits, sFits, _, outcome⟩
          rw [widthOf] at rFits sFits outcome
          have delivered := length_signatureString width r s
          have verifies := verifiesAs_pair specified delivered
          rw [signaturePair_string rFits sFits] at verifies
          rw [pow_width] at rFits sFits
          refine ⟨primitive, der, r, s, signatureString width r s, ?_, signed, decoded, rFits,
            sFits, ?_, delivered, verifies⟩
          · rw [outcome]
          · rw [outcome]
        · simp [executeSign, fails, notOk] at succeeded
    · rw [if_neg given]
      constructor
      · intro _ _ _ _ reached
        contradiction
      · intro succeeded
        contradiction
  · intro pending passes given signature length
    rw [step_verify (pending.opened reachable) pending.found pending.active pending.direction,
      if_pos ⟨given, rfl⟩]
    apply executeVerify_length pending.isEc passes
    rw [coordinateWidth_ec pending.isEc]
    exact length

/-! ## DER -/

/-- The encoding of an integer: the fewest bytes with room for the sign. -/
def derInteger (number : Nat) : Bytes :=
  let width := (number.log2 + 1) / 8 + 1
  2 :: width.toUInt8 :: bigEndianBytes width number

/-- The encoding of two integers, together of fewer than 124 bytes. -/
def derPair (r s : Nat) : Bytes :=
  let body := derInteger r ++ derInteger s
  48 :: body.length.toUInt8 :: body

/-- The first integer of an encoding, and what follows it. -/
def readInteger : Bytes → Option (Nat × Bytes)
  | 2 :: width :: rest => some (bigEndianValue (rest.take width.toNat), rest.drop width.toNat)
  | _ => none

def readPair (body : Bytes) : Option (Nat × Nat) := do
  let (r, rest) ← readInteger body
  let (s, _) ← readInteger rest
  return (r, s)

def readDer : Bytes → Option (Nat × Nat)
  | 48 :: _ :: body => readPair body
  | _ => none

/-- A host whose keys are on a curve of 239 bits, with OpenSSL's encoding. -/
def Host.prime239 : Host :=
  { Host.plain with openSsl := { OpenSsl.plain with
      bits := fun _ => 239
      size := fun _ => 66
      encodeEcdsaSig := fun r s => some (derPair r s)
      decodeEcdsaSig := readDer } }

theorem readInteger_derInteger {number : Nat} (small : number < 256 ^ 30) (rest : Bytes) :
    readInteger (derInteger number ++ rest) = some (number, rest) := by
  have bits : number.log2 + 1 ≤ 240 := by
    have log : number.log2 < 240 := by
      by_cases isZero : number = 0
      · rw [isZero]
        decide
      · exact (Nat.log2_lt isZero).mpr (small.trans_eq (pow_width 30))
    omega
  have fits : number < 256 ^ ((number.log2 + 1) / 8 + 1) := by
    rw [pow_width]
    exact Nat.lt_log2_self.trans_le (Nat.pow_le_pow_right (by decide) (by omega))
  have width : ((number.log2 + 1) / 8 + 1).toUInt8.toNat = (number.log2 + 1) / 8 + 1 := by
    rw [Nat.toUInt8, UInt8.toNat_ofNat']
    omega
  simp only [derInteger, List.cons_append, readInteger, width]
  rw [List.take_left' (length_bigEndianBytes _ _), List.drop_left' (length_bigEndianBytes _ _),
    bigEndianValue_bytes, Nat.mod_eq_of_lt fits]

theorem readDer_derPair {r s : Nat} (rFits : r < 256 ^ 30) (sFits : s < 256 ^ 30) :
    readDer (derPair r s) = some (r, s) := by
  have body : readPair (derInteger r ++ derInteger s) = some (r, s) := by
    have second := readInteger_derInteger sFits []
    rw [List.append_nil] at second
    simp [readPair, readInteger_derInteger rFits, second]
  exact body

theorem ecdsaSigSpecified_prime239 : EcdsaSigSpecified Host.prime239.openSsl := by
  intro key r s rFits sFits
  have bits : Host.prime239.openSsl.bits key = 239 := rfl
  rw [bits] at rFits sFits
  exact ⟨derPair r s, rfl, readDer_derPair rFits sFits⟩

/-- A session that signs digests with an EC key of its own. -/
def ecdsaCalls : List Call :=
  [.cInitialize false, .openSession 1 6 true,
    .generateKeyPair 1 (some ⟨ckmEcKeyPairGen, .null 0⟩)
      (.entries [⟨ckaToken, .bytes [0]⟩,
        ⟨ckaEcParams, .bytes [6, 8, 42, 134, 72, 206, 61, 3, 1, 4]⟩])
      (.entries [⟨ckaToken, .bytes [0]⟩]) true,
    .signInit 1 (some ⟨ckmEcdsa, .null 0⟩) 1]

/-- A coordinate of one byte and one of 30 bytes. -/
def Oracle.unevenPair : Oracle :=
  { Oracle.plain with signPrimitive := fun _ => some (derPair 5 (2 ^ 238)) }

theorem ecdsa_lossless_unevenPair :
    let state := Runs.final (step .prime239) (.loaded ⟨∅, ∅⟩) (plainRun ecdsaCalls)
    let response := (step .prime239 state (.sign 1 (.bytes [7]) ⟨true, 60⟩ true, .unevenPair)).2
    response.rv = .ok ∧ ∃ bytes, response.output = .buffer 60 (some bytes) ∧
      bytes.length = 60 ∧ VerifiesAs .prime239 30 bytes (5, 2 ^ 238) := by
  intro state response
  have pending : ∃ session, state.findSession 1 = some session ∧
      session.operation.active = true ∧ session.operation.verify = false ∧
      session.operation.keyHandle = 1 := by decide
  have stored : ∃ object, state.findObject 1 1 = some object ∧
      object.asymmetricKey = some ⟨ascii "EC"⟩ ∧ object.keyType = ckkEc := by decide
  rcases pending with ⟨session, found, active, direction, keyHandle⟩
  rcases stored with ⟨object, objectFound, isKey, isEc⟩
  have keyFound : state.findObject 1 session.operation.keyHandle = some object := by
    rw [keyHandle]
    exact objectFound
  have signs := (ecdsa_lossless .prime239 ecdsaSigSpecified_prime239 state ⟨_, _, rfl⟩ .unevenPair 1
    session object ⟨ascii "EC"⟩ (.oneShot (.bytes [7]))).1
    ⟨found, active, direction, keyFound, isKey, isEc⟩ ⟨true, 60⟩ rfl
  have isOk : response.rv = .ok := by decide
  rcases signs.2 isOk with ⟨primitive, der, r, s, bytes, _, signed, decoded, _, _, written,
    length, verifies⟩
  cases signed
  have pair : Host.prime239.openSsl.decodeEcdsaSig (derPair 5 (2 ^ 238)) = some (5, 2 ^ 238) := by
    decide
  rw [pair] at decoded
  cases decoded
  exact ⟨isOk, bytes, written, length, verifies⟩

end HsmSimulator
