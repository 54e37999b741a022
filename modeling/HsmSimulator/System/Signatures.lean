import HsmSimulator.Pkcs11.EcdsaFormats
import HsmSimulator.Pkcs11.SignatureData
import HsmSimulator.System.Ledger

/-!
# Signatures that verify

What one process signed, another one verifies, on the same machine or on another one: the
caller passes on the bytes it was given and nothing else.  The two sides may cut the data into
parts in their own ways, and other sessions may work in between.  Of OpenSSL this takes that the
second key accepts what the first one signed; that both sides ask OpenSSL the same question is
shown here.
-/

namespace HsmSimulator

open Checks

/-- Every object of OpenSSL that a verification needs can be made and set up. -/
structure Oracle.VerificationWorks (oracle : Oracle) : Prop extends oracle.EcdsaWorks where
  padding : oracle.rsaPadding = true
  pss : oracle.pssConfigured = true

/-- The signature as it comes back to OpenSSL: for ECDSA its pair is encoded again. -/
def SameSignature (openSsl : OpenSsl) (mechanism : Nat) (signature encoding : Bytes) : Prop :=
  if supportsSignature ckkEc mechanism = true then
    ∃ r s, openSsl.decodeEcdsaSig signature = some (r, s) ∧
      openSsl.encodeEcdsaSig r s = some encoding
  else encoding = signature

/-- The halves of a key pair: OpenSSL accepts under the public key what it signed under the
private one. -/
structure KeysMatch (openSsl : OpenSsl) (signer verifier : Oracle)
    (privateKey publicKey : EvpKey) : Prop where
  bits : openSsl.bits publicKey = openSsl.bits privateKey
  size : openSsl.size publicKey = openSsl.size privateKey
  accepts : ∀ primitive signature encoding, primitive.verify = false →
    primitive.key = privateKey → signer.signPrimitive primitive = some signature →
    SameSignature openSsl primitive.mechanism signature encoding →
    verifier.verifyPrimitive
      { primitive with verify := true, key := publicKey, inputSignature := encoding } = true

/-! ## The mechanism and the type of the key -/

/-- A mechanism supports one type of key. -/
theorem supportsSignature_unique {mechanism first second : Nat}
    (supports : supportsSignature first mechanism = true)
    (alsoSupports : supportsSignature second mechanism = true) : first = second := by
  have types : ∀ type, supportsSignature type mechanism = true →
      type = ckkRsa ∧ mechanism ∉ [ckmEcdsa, ckmEcdsaSha256, ckmEcdsaSha384, ckmEcdsaSha512,
          ckmMlDsa, ckmSlhDsa] ∨
        type = ckkEc ∧ mechanism ∈ [ckmEcdsa, ckmEcdsaSha256, ckmEcdsaSha384, ckmEcdsaSha512] ∨
        type = ckkMlDsa ∧ mechanism = ckmMlDsa ∨ type = ckkSlhDsa ∧ mechanism = ckmSlhDsa := by
    intro type holds
    unfold supportsSignature at holds
    split at holds
    · rename_i isRsa
      refine Or.inl ⟨isRsa, ?_⟩
      intro listed
      simp only [List.mem_cons, List.not_mem_nil, or_false] at listed
      rcases listed with rfl | rfl | rfl | rfl | rfl | rfl <;> revert holds <;> decide
    · split at holds
      · rename_i isEc
        refine Or.inr (Or.inl ⟨isEc, ?_⟩)
        simpa [or_assoc] using holds
      · split at holds
        · rename_i isMlDsa
          exact Or.inr (Or.inr (Or.inl ⟨isMlDsa, by simpa using holds⟩))
        · split at holds
          · rename_i isSlhDsa
            exact Or.inr (Or.inr (Or.inr ⟨isSlhDsa, by simpa using holds⟩))
          · contradiction
  have disjoint : ckmMlDsa ∉ [ckmEcdsa, ckmEcdsaSha256, ckmEcdsaSha384, ckmEcdsaSha512] ∧
      ckmSlhDsa ∉ [ckmEcdsa, ckmEcdsaSha256, ckmEcdsaSha384, ckmEcdsaSha512] ∧
      ckmMlDsa ≠ ckmSlhDsa := by decide
  grind

section

variable {host : Host} {oracle : Oracle} {state : State} {sessionHandle : Nat}
  {operation : Operation} {object : Object} {key : EvpKey}

/-- An EC key is what a mechanism of ECDSA has. -/
theorem supportsSignature_ec
    (supported : supportsSignature object.keyType operation.mechanism = true) :
    supportsSignature ckkEc operation.mechanism = true ↔ object.keyType = ckkEc := by
  constructor
  · intro supports
    exact supportsSignature_unique supported supports
  · intro isEc
    rw [← isEc]
    exact supported

/-! ## The signer -/

/-- What OpenSSL answered, and what the caller got of it. -/
def Delivers (openSsl : OpenSsl) (object : Object) (width : Nat) (result delivered : Bytes) :
    Prop :=
  if object.keyType = ckkEc then
    ∃ r s, openSsl.decodeEcdsaSig result = some (r, s) ∧ r < 256 ^ width ∧ s < 256 ^ width ∧
      delivered = signatureString width r s
  else delivered = result

theorem deliverSignature_delivers {openSsl : OpenSsl} {width required length : Nat}
    {primitive : Primitive} {result delivered : Bytes}
    (succeeds : (deliverSignature openSsl object width required length primitive result).rv = .ok)
    (written : (deliverSignature openSsl object width required length primitive result).written =
      some delivered) :
    Delivers openSsl object width result delivered := by
  unfold deliverSignature at succeeds written
  unfold Delivers
  split at succeeds
  · rename_i isEc
    rw [if_pos isEc] at written ⊢
    split at succeeds
    · contradiction
    · rename_i r s decoded
      rw [decoded] at written
      dsimp only at written
      split at succeeds
      · contradiction
      · rename_i rFits
        rw [if_neg rFits] at written
        split at succeeds
        · contradiction
        · rename_i sFits
          rw [if_neg sFits] at written
          exact ⟨r, s, decoded, not_le.mp rFits, not_le.mp sFits,
            (Option.some.inj written).symm⟩
  · rename_i notEc
    rw [if_neg notEc] at written ⊢
    exact (Option.some.inj written).symm

/-- A signature that was delivered is one OpenSSL made, of these data, with the key of the
operation. -/
theorem executeSign_delivered {data delivered : Bytes} {signature : OutputBuffer}
    (succeeds : (executeSign host oracle state sessionHandle operation data signature).rv = .ok)
    (written : (executeSign host oracle state sessionHandle operation data signature).written =
      some delivered) :
    ∃ object key digest result,
      signatureKey state sessionHandle operation false = .ok (object, key) ∧
      configureSignature oracle object operation (requiredLength host.openSsl object key)
        data.length = .ok digest ∧
      oracle.signPrimitive (operation.primitive key digest data []) = some result ∧
      Delivers host.openSsl object (coordinateWidth host.openSsl object key) result delivered := by
  unfold executeSign at succeeds written
  split at succeeds
  · rename_i code fails
    rw [fails] at written
    contradiction
  · rename_i object key keyFound
    rw [keyFound] at written
    dsimp only at succeeds written
    split at succeeds
    · rename_i noBuffer
      rw [if_pos noBuffer] at written
      contradiction
    · rename_i hasBuffer
      rw [if_neg hasBuffer] at written
      split at succeeds
      · contradiction
      · rename_i long
        rw [if_neg long] at written
        split at succeeds
        · rename_i code fails
          cases succeeds
          exact (configureSignature_ne_ok fails).elim
        · rename_i digest configured
          rw [configured] at written
          dsimp only at written
          split at succeeds
          · contradiction
          · rename_i result signed
            rw [signed] at written
            exact ⟨object, key, digest, result, keyFound, configured, signed,
              deliverSignature_delivers succeeds written⟩

/-- A completing call that returned a signature ran on the active operation of its session. -/
theorem sign_delivered (isOpen : state.initialized = true) {form : Completion}
    {signature : OutputBuffer} {hasLength : Bool} {reported : Nat} {delivered : Bytes}
    (succeeds : (step host state (form.sign sessionHandle signature hasLength, oracle)).2.rv = .ok)
    (written : (step host state (form.sign sessionHandle signature hasLength, oracle)).2.output =
      .buffer reported (some delivered)) :
    ∃ session, state.findSession sessionHandle = some session ∧
      session.operation.active = true ∧ session.operation.verify = false ∧
      (executeSign host oracle state sessionHandle session.operation
        (form.data session.operation) signature).rv = .ok ∧
      (executeSign host oracle state sessionHandle session.operation
        (form.data session.operation) signature).written = some delivered := by
  have pending : ∃ session, signingSession state sessionHandle false = .ok session := by
    cases passes : signingSession state sessionHandle false with
    | ok session => exact ⟨session, rfl⟩
    | error code =>
        rw [step_of_open isOpen] at written
        cases form <;> simp [Completion.sign, service, sign, signFinal, passes, Response.plain]
          at written
  obtain ⟨session, passes⟩ := pending
  obtain ⟨found, active, direction⟩ := signingSession_eq_ok passes
  rw [step_sign isOpen found active direction] at succeeds written
  split at succeeds
  · rename_i given
    rw [if_pos given] at written
    rw [completeSign_response] at succeeds written
    simp only [Output.buffer.injEq] at written
    exact ⟨session, found, active, direction, succeeds, written.2⟩
  · contradiction

/-! ## The verifier -/

/-- The setup of a verification works where the one of the signature did. -/
theorem configureSignature_again {other : Oracle} {otherObject : Object}
    {otherOperation : Operation} {required length : Nat} {digest : Option Digest}
    (works : other.VerificationWorks) (keyType : otherObject.keyType = object.keyType)
    (mechanism : otherOperation.mechanism = operation.mechanism)
    (pss : otherOperation.pss = operation.pss)
    (configured : configureSignature oracle object operation required length = .ok digest) :
    configureSignature other otherObject otherOperation required length = .ok digest := by
  unfold configureSignature at configured ⊢
  rw [keyType, mechanism, pss]
  split
  · rename_i isRaw
    rw [if_pos isRaw] at configured
    simp only [bind_eq_ok_iff, require_eq_ok_iff] at configured ⊢
    obtain ⟨_, short, _, _, _, _, rest⟩ := configured
    refine ⟨(), short, (), works.context, (), works.initialized, ?_⟩
    split at rest
    · rename_i isPss
      rw [if_pos isPss]
      simp only [bind_eq_ok_iff, require_eq_ok_iff] at rest ⊢
      obtain ⟨_, fits, _, _, same⟩ := rest
      exact ⟨(), fits, (), works.pss, same⟩
    · rename_i notPss
      rw [if_neg notPss]
      simp only [bind_eq_ok_iff, require_eq_ok_iff] at rest ⊢
      obtain ⟨_, _, same⟩ := rest
      exact ⟨(), Or.inr works.padding, same⟩
  · rename_i notRaw
    rw [if_neg notRaw] at configured
    simp only [bind_eq_ok_iff, require_eq_ok_iff] at configured ⊢
    obtain ⟨_, _, _, _, _, _, same⟩ := configured
    exact ⟨(), works.context, (), works.initialized, (), fun _ => works.pss, same⟩

/-- The encoding OpenSSL gets is one of the signature it made. -/
theorem encodedSignature_same (specified : EcdsaSigSpecified host.openSsl)
    (works : oracle.VerificationWorks) {result delivered : Bytes}
    (supported : supportsSignature object.keyType operation.mechanism = true)
    (delivers : Delivers host.openSsl object (coordinateWidth host.openSsl object key) result
      delivered) :
    ∃ encoding, encodedSignature host oracle object (coordinateWidth host.openSsl object key)
        delivered = .ok encoding ∧
      SameSignature host.openSsl operation.mechanism result encoding := by
  unfold encodedSignature SameSignature
  unfold Delivers at delivers
  by_cases isEc : object.keyType = ckkEc
  · rw [if_pos isEc] at delivers
    rw [if_pos isEc]
    obtain ⟨r, s, decoded, rFits, sFits, rfl⟩ := delivers
    have halves := signaturePair_string rFits sFits
    simp only [signaturePair, Prod.mk.injEq] at halves
    rw [coordinateWidth_ec isEc] at rFits sFits
    obtain ⟨der, encoded, _⟩ := specified key r s rFits sFits
    refine ⟨der, ?_, ?_⟩
    · simp only [works.allocated, works.assigned, require, halves]
      exact fetch_eq_ok_iff.mpr encoded
    · rw [if_pos ((supportsSignature_ec supported).mpr isEc)]
      exact ⟨r, s, decoded, encoded⟩
  · rw [if_neg isEc] at delivers
    rw [if_neg isEc]
    refine ⟨delivered, rfl, ?_⟩
    rw [if_neg (fun supports => isEc ((supportsSignature_ec supported).mp supports))]
    exact delivers

/-- What was delivered under one key is what the other one takes. -/
theorem Delivers.under {otherObject : Object} {otherKey : EvpKey} {result delivered : Bytes}
    (delivers : Delivers host.openSsl object (coordinateWidth host.openSsl object key) result
      delivered)
    (keyType : otherObject.keyType = object.keyType)
    (bits : host.openSsl.bits otherKey = host.openSsl.bits key) :
    Delivers host.openSsl otherObject (coordinateWidth host.openSsl otherObject otherKey) result
      delivered := by
  unfold Delivers coordinateWidth at *
  rw [keyType, bits]
  exact delivers

/-- A delivered ECDSA signature has the length a verification asks for. -/
theorem Delivers.length {result delivered : Bytes}
    (delivers : Delivers host.openSsl object (coordinateWidth host.openSsl object key) result
      delivered) (isEc : object.keyType = ckkEc) :
    delivered.length = requiredLength host.openSsl object key := by
  unfold Delivers at delivers
  rw [if_pos isEc] at delivers
  obtain ⟨r, s, _, _, _, rfl⟩ := delivers
  rw [length_signatureString, requiredLength_ec isEc]

/-- A verification of what was signed asks OpenSSL about the data, the mechanism and the
parameters of the signature. -/
theorem verification_signed {other : Oracle} {verifying : State} {verifyHandle : Nat}
    {otherObject : Object} {otherKey : EvpKey} {otherOperation : Operation}
    {digest : Option Digest} {data result delivered : Bytes}
    (specified : EcdsaSigSpecified host.openSsl) (works : other.VerificationWorks)
    (passes : signatureKey verifying verifyHandle otherOperation true = .ok (otherObject, otherKey))
    (supported : supportsSignature otherObject.keyType otherOperation.mechanism = true)
    (keyType : otherObject.keyType = object.keyType)
    (mechanism : otherOperation.mechanism = operation.mechanism)
    (pss : otherOperation.pss = operation.pss)
    (bits : host.openSsl.bits otherKey = host.openSsl.bits key)
    (size : host.openSsl.size otherKey = host.openSsl.size key)
    (configured : configureSignature oracle object operation
      (requiredLength host.openSsl object key) data.length = .ok digest)
    (delivers : Delivers host.openSsl object (coordinateWidth host.openSsl object key) result
      delivered) :
    ∃ encoding, verification host other verifying verifyHandle otherOperation data
        (.bytes delivered) = .ok (otherOperation.primitive otherKey digest data encoding) ∧
      SameSignature host.openSsl operation.mechanism result encoding := by
  have taken := delivers.under keyType bits
  have required : requiredLength host.openSsl otherObject otherKey =
      requiredLength host.openSsl object key := by
    unfold requiredLength coordinateWidth
    rw [keyType, bits, size]
  obtain ⟨encoding, encodes, same⟩ := encodedSignature_same specified works supported taken
  rw [mechanism] at same
  refine ⟨encoding, ?_, same⟩
  have accepted : require ((Buffer.bytes delivered).isNull = false ∧
      (otherObject.keyType = ckkEc →
        (Buffer.bytes delivered).length = requiredLength host.openSsl otherObject otherKey))
      Rv.signatureLenRange = .ok () := by
    rw [require_eq_ok_iff]
    exact ⟨rfl, taken.length⟩
  have again := configureSignature_again works keyType mechanism pss configured
  rw [← required] at again
  simp only [verification, passes, ok_bind, accepted, Buffer.content, encodes, again, pure_eq_ok]

end

/-! ## From one process to another -/

/-- What the sessions of a process have been asked to sign or to verify after a run. -/
def operationsAfter (host : Host) (disk : FileSystem) (inputs : List (Call × Oracle)) :
    Nat → Option Started :=
  Runs.history (step host) (started host) (fun _ => none) (.loaded disk) inputs

/-- After a run, a completing call returns a signature of these data: the ones of the updates
and of the call itself. -/
def Signs (host : Host) (disk : FileSystem) (inputs : List (Call × Oracle)) (oracle : Oracle)
    (record : Started) (data signature : Bytes) : Prop :=
  ∃ (sessionHandle : Nat) (form : Completion) (buffer : OutputBuffer) (hasLength : Bool)
    (reported : Nat),
    operationsAfter host disk inputs sessionHandle = some record ∧
      ¬LosesData form record ∧ record.data ++ form.argument = data ∧
      let response := (step host (Runs.final (step host) (.loaded disk) inputs)
        (form.sign sessionHandle buffer hasLength, oracle)).2
      response.rv = .ok ∧ response.output = .buffer reported (some signature)

/-- A session is verifying, and its key may still be used for that. -/
def MayVerify (state : State) (sessionHandle : Nat) : Prop :=
  ∃ session, state.findSession sessionHandle = some session ∧
    session.operation.active = true ∧ session.operation.verify = true ∧
    ∃ found, signatureKey state sessionHandle session.operation true = .ok found

/-- The work behind a signature: the operation and what OpenSSL was asked and answered. -/
structure SignedBy (host : Host) (oracle : Oracle) (record : Started) (data signature : Bytes)
    (operation : Operation) (object : Object) (digest : Option Digest) (result : Bytes) :
    Prop where
  verify : operation.verify = false
  mechanism : operation.mechanism = record.mechanism.mechanism
  parameters : signatureParameters host.openSsl record.mechanism record.key = .ok operation.pss
  supported : supportsSignature object.keyType operation.mechanism = true
  configured : configureSignature oracle object operation
    (requiredLength host.openSsl object record.key) data.length = .ok digest
  signed : oracle.signPrimitive (operation.primitive record.key digest data []) = some result
  delivers : Delivers host.openSsl object (coordinateWidth host.openSsl object record.key) result
    signature

/-- Of the machine, only its OpenSSL had to do with a signature. -/
theorem SignedBy.under {host otherHost : Host} {oracle : Oracle} {record : Started}
    {data signature : Bytes} {operation : Operation} {object : Object} {digest : Option Digest}
    {result : Bytes}
    (signed : SignedBy host oracle record data signature operation object digest result)
    (sameOpenSsl : otherHost.openSsl = host.openSsl) :
    SignedBy otherHost oracle record data signature operation object digest result := by
  constructor
  · exact signed.verify
  · exact signed.mechanism
  · rw [sameOpenSsl]
    exact signed.parameters
  · exact signed.supported
  · rw [sameOpenSsl]
    exact signed.configured
  · exact signed.signed
  · rw [sameOpenSsl]
    exact signed.delivers

/-- The key a completing call works with is the one of the record. -/
theorem Recorded.signatureKey {host : Host} {state : State} {sessionHandle : Nat}
    {operation : Operation} {record : Started} {verify : Bool} {object : Object} {key : EvpKey}
    (recorded : Recorded host state operation record)
    (passes : HsmSimulator.signatureKey state sessionHandle operation verify =
      .ok (object, key)) :
    state.objects.get? operation.keyHandle = some object ∧ key = record.key := by
  obtain ⟨objectFound, isKey⟩ := signatureKey_eq_ok passes
  obtain ⟨_, _, stored, _⟩ := State.findObject_eq_some_iff.mp objectFound
  exact ⟨stored, Option.some.inj (isKey.symm.trans (recorded.key object stored))⟩

theorem Signs.signedBy {host : Host} {disk : FileSystem} {inputs : List (Call × Oracle)}
    {oracle : Oracle} {record : Started} {data signature : Bytes}
    (signs : Signs host disk inputs oracle record data signature) :
    ∃ operation object digest result,
      SignedBy host oracle record data signature operation object digest result := by
  obtain ⟨sessionHandle, form, buffer, hasLength, reported, isRecord, whole, sameData, succeeds,
    written⟩ := signs
  have recorded := operationsRecorded_run host disk inputs
  have reachable : Reachable host (Runs.final (step host) (.loaded disk) inputs) :=
    ⟨disk, inputs, rfl⟩
  generalize Runs.final (step host) (.loaded disk) inputs = state at *
  have isOpen : state.initialized = true := by
    cases isOpen : state.initialized with
    | true => rfl
    | false =>
        rw [step_of_closed isOpen (by cases form <;> rfl)] at succeeds
        contradiction
  obtain ⟨session, found, active, direction, isOk, delivered⟩ :=
    sign_delivered isOpen succeeds written
  obtain ⟨kept, isKept, agrees⟩ := recorded.active sessionHandle session found active
  have sameRecord : kept = record := Option.some.inj (isKept.symm.trans isRecord)
  rw [sameRecord] at agrees
  have total := (completion_data form record agrees.data).mpr whole
  rw [sameData] at total
  rw [total] at isOk delivered
  obtain ⟨object, key, digest, result, passes, configured, signed, delivers⟩ :=
    executeSign_delivered isOk delivered
  obtain ⟨stored, rfl⟩ := agrees.signatureKey passes
  exact ⟨session.operation, object, digest, result, direction, agrees.mechanism,
    agrees.parameters, reachable.operationsSupported sessionHandle session found active object
      stored, configured, signed, delivers⟩

/-- The parameters a mechanism prescribes do not depend on the key. -/
theorem signatureParameters_agree {openSsl : OpenSsl} {mechanism : Mechanism}
    {key otherKey : EvpKey} {parameters others : PssParams}
    (accepted : signatureParameters openSsl mechanism key = .ok parameters)
    (alsoAccepted : signatureParameters openSsl mechanism otherKey = .ok others) :
    others = parameters := by
  have first := signatureParameters_eq_ok accepted
  have second := signatureParameters_eq_ok alsoAccepted
  split at first
  · rename_i isPss
    rw [if_pos isPss] at second
    have same := second.1.symm.trans first.1
    simpa using same
  · rename_i notPss
    rw [if_neg notPss] at second
    rw [first, second]

/-- What a call returned as the signature of some data, after any run of one process, is
accepted as a signature of the same data by a session of the same or another process, after
any run, that verifies with the same mechanism and the other half of the key pair; however
the two sides cut the data into parts, and whatever other sessions did in between.  The other
process may be on another machine with the same OpenSSL. -/
theorem signatures_accepted (host otherHost : Host) (specified : EcdsaSigSpecified host.openSsl)
    (sameOpenSsl : otherHost.openSsl = host.openSsl)
    {disk otherDisk : FileSystem} {inputs otherInputs : List (Call × Oracle)}
    {oracle other : Oracle} {record verifier : Started} {data signature : Bytes}
    {sessionHandle : Nat} {form : Completion}
    (signs : Signs host disk inputs oracle record data signature)
    (may : MayVerify (Runs.final (step otherHost) (.loaded otherDisk) otherInputs) sessionHandle)
    (isVerifier : operationsAfter otherHost otherDisk otherInputs sessionHandle = some verifier)
    (keys : KeysMatch host.openSsl oracle other record.key verifier.key)
    (mechanism : verifier.mechanism = record.mechanism)
    (given : form.isGiven = true) (whole : ¬LosesData form verifier)
    (sameData : verifier.data ++ form.argument = data) (works : other.VerificationWorks) :
    (step otherHost (Runs.final (step otherHost) (.loaded otherDisk) otherInputs)
      (form.verify sessionHandle (.bytes signature), other)).2.rv = .ok := by
  obtain ⟨operation, object, digest, result, signed⟩ := signs.signedBy
  replace signed := signed.under sameOpenSsl
  rw [← sameOpenSsl] at specified keys
  obtain ⟨session, found, active, direction, ⟨otherObject, otherKey⟩, passes⟩ := may
  have recorded := operationsRecorded_run otherHost otherDisk otherInputs
  have reachable : Reachable otherHost
      (Runs.final (step otherHost) (.loaded otherDisk) otherInputs) :=
    ⟨otherDisk, otherInputs, rfl⟩
  generalize Runs.final (step otherHost) (.loaded otherDisk) otherInputs = state at *
  obtain ⟨kept, isKept, agrees⟩ := recorded.active sessionHandle session found active
  have sameRecord : kept = verifier := Option.some.inj (isKept.symm.trans isVerifier)
  rw [sameRecord] at agrees
  obtain ⟨stored, rfl⟩ := agrees.signatureKey passes
  have supported := reachable.operationsSupported sessionHandle session found active otherObject
    stored
  have sameMechanism : session.operation.mechanism = operation.mechanism := by
    rw [agrees.mechanism, signed.mechanism, mechanism]
  have sameParameters : session.operation.pss = operation.pss := by
    have accepted := agrees.parameters
    rw [mechanism] at accepted
    exact signatureParameters_agree signed.parameters accepted
  have keyType : otherObject.keyType = object.keyType :=
    supportsSignature_unique supported (sameMechanism ▸ signed.supported)
  obtain ⟨encoding, asks, same⟩ := verification_signed specified works passes supported keyType
    sameMechanism sameParameters keys.bits keys.size signed.configured signed.delivers
  have accepted := keys.accepts _ result encoding signed.verify rfl signed.signed same
  have total := (completion_data form verifier agrees.data).mpr whole
  rw [sameData] at total
  rw [step_verify (reachable.wellFormed.initialized_of_object stored) found active direction,
    if_pos ⟨given, rfl⟩]
  simp only [completeVerify, executeVerify, total, asks]
  have question : session.operation.primitive verifier.key digest data encoding =
      { operation.primitive record.key digest data [] with
        verify := true, key := verifier.key, inputSignature := encoding } := by
    simp [Operation.primitive, direction, sameMechanism, sameParameters]
  rw [question, accepted]
  rfl

/-- OpenSSL with a curve of 239 bits, whose signature of at most 30 bytes is the pair of their
value and 1. -/
def Oracle.valueAndOne : Oracle :=
  { Oracle.plain with
    signPrimitive := fun primitive =>
      if primitive.data.length ≤ 30 then some (derPair (bigEndianValue primitive.data) 1) else none
    verifyPrimitive := fun primitive =>
      readDer primitive.inputSignature = readDer (derPair (bigEndianValue primitive.data) 1) }

theorem keysMatch_valueAndOne (key : EvpKey) :
    KeysMatch Host.prime239.openSsl .valueAndOne .valueAndOne key key where
  bits := rfl
  size := rfl
  accepts := by
    intro primitive signature encoding _ _ signed same
    obtain ⟨short, signed⟩ := Option.ite_none_right_eq_some.mp signed
    cases signed
    unfold SameSignature at same
    split at same
    · obtain ⟨r, s, decoded, encoded⟩ := same
      cases encoded
      have small : bigEndianValue primitive.data < 256 ^ 30 :=
        (bigEndianValue_lt _).trans_le (Nat.pow_le_pow_right (by decide) short)
      have pair := readDer_derPair small (show 1 < 256 ^ 30 by decide)
      obtain ⟨rfl, rfl⟩ := Prod.mk.inj (Option.some.inj (pair.symm.trans decoded))
      exact decide_eq_true rfl
    · rw [same]
      exact decide_eq_true rfl

/-- An operation on an EC key of one's own, in one direction. -/
def ecdsaParts (begin : Call) (parts : List Call) : List (Call × Oracle) :=
  plainRun (ecdsaCalls.take 3 ++ begin :: parts)

/-- Data signed in two parts are verified in one, by a session of another process. -/
theorem signatures_accepted_parts :
    let signing := ecdsaParts (.signInit 1 (some ⟨ckmEcdsaSha256, .null 0⟩) 1)
      [.signUpdate 1 (.bytes [1]), .signUpdate 1 (.bytes [2])]
    let verifying := ecdsaParts (.verifyInit 1 (some ⟨ckmEcdsaSha256, .null 0⟩) 2) []
    let signed := (step .prime239 (Runs.final (step .prime239) (.loaded ⟨∅, ∅⟩) signing)
      (.signFinal 1 ⟨true, 60⟩ true, .valueAndOne)).2
    let signature := signatureString 30 258 1
    signed.output = .buffer 60 (some signature) ∧
      (step .prime239 (Runs.final (step .prime239) (.loaded ⟨∅, ∅⟩) verifying)
        (.verify 1 (.bytes [1, 2]) (.bytes signature), .valueAndOne)).2.rv = .ok := by
  intro signing verifying signed signature
  have output : signed.output = .buffer 60 (some signature) := by decide
  have signs : Signs .prime239 ⟨∅, ∅⟩ signing .valueAndOne
      ⟨false, ⟨ckmEcdsaSha256, .null 0⟩, 1, ⟨ascii "EC"⟩, [1, 2]⟩ [1, 2] signature :=
    ⟨1, .final, ⟨true, 60⟩, true, 60, by rfl, by simp [LosesData], by rfl, by decide, output⟩
  have pending : MayVerify (Runs.final (step .prime239) (.loaded ⟨∅, ∅⟩) verifying) 1 :=
    ⟨_, by rfl, by rfl, by rfl, _, by rfl⟩
  exact ⟨output, @signatures_accepted .prime239 .prime239 ecdsaSigSpecified_prime239 rfl
    _ _ _ _ _ _ _ ⟨true, ⟨ckmEcdsaSha256, .null 0⟩, 2, ⟨ascii "EC"⟩, []⟩ _ _ 1
    (.oneShot (.bytes [1, 2])) signs pending (by rfl) (keysMatch_valueAndOne _) rfl rfl
    (by simp [LosesData]) rfl ⟨⟨rfl, rfl, rfl, rfl⟩, rfl, rfl⟩⟩

end HsmSimulator
