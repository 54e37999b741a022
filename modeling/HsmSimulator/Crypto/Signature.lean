import HsmSimulator.Core.Access
import HsmSimulator.Core.Response
import HsmSimulator.Crypto.Mechanisms

/-!
# Signatures

One operation record a session serves signing and verification, in one part or in
several.  Raw mechanisms consume one complete block or digest; the others buffer
the parts, so that the same primitive serves both forms.
-/

namespace HsmSimulator

open Checks

def maxMultipartBytes : Nat := 64 * 1024 * 1024

def isRawSignature (mechanism : Nat) : Bool :=
  mechanism = ckmRsaPkcs || mechanism = ckmEcdsa || mechanism = ckmRsaPkcsPss

/-- The operation is over; the rest of the record stays. -/
def Session.endOperation (session : Session) : Session :=
  { session with operation := { session.operation with active := false } }

/-- The session, if it has an active operation of this direction. -/
def signingSession (state : State) (sessionHandle : Nat) (verify : Bool) : Except Rv Session := do
  let session ← fetch (state.findSession sessionHandle) .sessionHandleInvalid
  require (session.operation.active = true ∧ session.operation.verify = verify)
    .operationNotInitialized
  return session

/-- Subtraction of `size_t`. -/
def sizeSubtract (left right : Nat) : Nat := (left + 2 ^ 64 - right) % 2 ^ 64

/-! ## Multipart data -/

def appendSignatureData (state : State) (sessionHandle : Nat) (data : Buffer) (verify : Bool) :
    State × Response :=
  match (do
      let session ← signingSession state sessionHandle verify
      require (data.isMissing = false) .argumentsBad
      return session : Except Rv Session) with
  | .error code => (state, .plain code)
  | .ok session =>
      if isRawSignature session.operation.mechanism then
        (state.putSession sessionHandle session.endOperation, .plain .mechanismInvalid)
      else if maxMultipartBytes < data.length ∨
          sizeSubtract maxMultipartBytes data.length < session.operation.bufferedData.length then
        (state.putSession sessionHandle session.endOperation, .plain .dataLenRange)
      else
        (state.putSession sessionHandle { session with operation := { session.operation with
            bufferedData := session.operation.bufferedData ++ data.content } },
          .plain .ok)

/-! ## Running the primitive -/

def coordinateWidth (openSsl : OpenSsl) (object : Object) (key : EvpKey) : Nat :=
  if object.keyType = ckkEc then (openSsl.bits key + 7) / 8 else 0

def requiredLength (openSsl : OpenSsl) (object : Object) (key : EvpKey) : Nat :=
  if object.keyType = ckkEc then 2 * coordinateWidth openSsl object key else openSsl.size key

/-- The first checks of `executeSignature`: the key is resolved again at every call. -/
def signatureKey (state : State) (sessionHandle : Nat) (operation : Operation) (verify : Bool) :
    Except Rv (Object × EvpKey) := do
  let object ← fetch (state.findObject sessionHandle operation.keyHandle) .keyHandleInvalid
  let key ← fetch object.asymmetricKey .keyHandleInvalid
  state.objectAccessStatus sessionHandle object
  require (policyValue object (if verify then ckaVerify else ckaSign) = true)
    .keyFunctionNotPermitted
  return (object, key)

/-- `EVP_MD_get_size` as a `size_t`; it is -1 without a digest. -/
def digestSize (digest : Option Digest) : Nat :=
  match digest with
  | some digest => digest.size
  | none => 2 ^ 64 - 1

/-- Setting up the context; the result is the digest it hashes with, if any. -/
def configureSignature (oracle : Oracle) (object : Object) (operation : Operation)
    (required dataLength : Nat) : Except Rv (Option Digest) :=
  if isRawSignature operation.mechanism then do
    require (operation.mechanism = ckmRsaPkcs → dataLength ≤ sizeSubtract required 11)
      .dataLenRange
    require (oracle.signatureContext = true) .hostMemory
    require (oracle.signatureInit = true) .deviceError
    if operation.mechanism = ckmRsaPkcsPss then do
      require (dataLength = digestSize (pssDigest operation.pss.hashAlg)) .dataLenRange
      require (oracle.pssConfigured = true) .mechanismParamInvalid
    else
      require (object.keyType = ckkEc ∨ oracle.rsaPadding = true) .deviceError
    return none
  else do
    require (oracle.signatureContext = true) .hostMemory
    require (oracle.signatureInit = true) .mechanismInvalid
    require (isRsaPss operation.mechanism = true → oracle.pssConfigured = true)
      .mechanismParamInvalid
    return if isRsaPss operation.mechanism then pssDigest operation.pss.hashAlg
      else signatureDigest operation.mechanism

/-- The call of the primitive. -/
def Operation.primitive (operation : Operation) (key : EvpKey) (digest : Option Digest)
    (data inputSignature : Bytes) : Primitive where
  verify := operation.verify
  mechanism := operation.mechanism
  digest := digest
  pss := operation.pss
  saltLength := toInt operation.pss.sLen
  key := key
  data := data
  inputSignature := inputSignature

/-- What `executeSignature` returns, the final value of the length variable, and
what it wrote to the signature buffer. -/
structure SignatureOutcome where
  rv : Rv
  length : Nat
  written : Option Bytes
  primitive : Option Primitive

/-- The signature of the primitive in the form the caller gets: fixed-width
`r || s` for ECDSA.  A coordinate that does not fit leaves the first one written. -/
def deliverSignature (openSsl : OpenSsl) (object : Object) (width required length : Nat)
    (primitive : Primitive) (result : Bytes) : SignatureOutcome :=
  if object.keyType = ckkEc then
    match openSsl.decodeEcdsaSig result with
    | none => ⟨.deviceError, length, none, some primitive⟩
    | some (r, s) =>
        if 256 ^ width ≤ r then ⟨.deviceError, length, none, some primitive⟩
        else if 256 ^ width ≤ s then
          ⟨.deviceError, length, some (bigEndianBytes width r), some primitive⟩
        else
          ⟨.ok, required, some (bigEndianBytes width r ++ bigEndianBytes width s),
            some primitive⟩
  else ⟨.ok, result.length, some result, some primitive⟩

/-- `executeSignature` for signing. -/
def executeSign (host : Host) (oracle : Oracle) (state : State) (sessionHandle : Nat)
    (operation : Operation) (data : Bytes) (signature : OutputBuffer) : SignatureOutcome :=
  match signatureKey state sessionHandle operation false with
  | .error code => ⟨code, signature.length, none, none⟩
  | .ok (object, key) =>
      let required := requiredLength host.openSsl object key
      if signature.hasBuffer = false then ⟨.ok, required, none, none⟩
      else if signature.length < required then ⟨.bufferTooSmall, required, none, none⟩
      else
        match configureSignature oracle object operation required data.length with
        | .error code => ⟨code, signature.length, none, none⟩
        | .ok digest =>
            let primitive := operation.primitive key digest data []
            match oracle.signPrimitive primitive with
            | none => ⟨.deviceError, signature.length, none, some primitive⟩
            | some result =>
                deliverSignature host.openSsl object (coordinateWidth host.openSsl object key)
                  required signature.length primitive result

/-- The signature as the primitive takes it: DER for ECDSA. -/
def encodedSignature (host : Host) (oracle : Oracle) (object : Object) (width : Nat)
    (signature : Bytes) : Except Rv Bytes :=
  if object.keyType = ckkEc then do
    require (oracle.ecdsaAllocated = true) .hostMemory
    require (oracle.ecdsaAssigned = true) .deviceError
    fetch (host.openSsl.encodeEcdsaSig (bigEndianValue (signature.take width))
      (bigEndianValue (signature.drop width))) .deviceError
  else return signature

/-- Everything `executeSignature` does before it verifies. -/
def verification (host : Host) (oracle : Oracle) (state : State) (sessionHandle : Nat)
    (operation : Operation) (data : Bytes) (signature : Buffer) : Except Rv Primitive := do
  let (object, key) ← signatureKey state sessionHandle operation true
  let required := requiredLength host.openSsl object key
  require (signature.isNull = false ∧ (object.keyType = ckkEc → signature.length = required))
    .signatureLenRange
  let encoded ← encodedSignature host oracle object (coordinateWidth host.openSsl object key)
    signature.content
  let digest ← configureSignature oracle object operation required data.length
  return operation.primitive key digest data encoded

/-- `executeSignature` for verification. -/
def executeVerify (host : Host) (oracle : Oracle) (state : State) (sessionHandle : Nat)
    (operation : Operation) (data : Bytes) (signature : Buffer) : Response :=
  match verification host oracle state sessionHandle operation data signature with
  | .error code => .plain code
  | .ok primitive =>
      ⟨if oracle.verifyPrimitive primitive then .ok else .signatureInvalid, .none,
        some primitive⟩

/-! ## Initialisation -/

/-- The digest a PSS mechanism prescribes. -/
def expectedPssDigest (mechanism fallback : Nat) : Nat :=
  if mechanism = ckmSha256RsaPkcsPss then ckmSha256
  else if mechanism = ckmSha384RsaPkcsPss then ckmSha384
  else if mechanism = ckmSha512RsaPkcsPss then ckmSha512
  else fallback

/-- The PSS parameters of a mechanism: the salt must fit the encoded message. -/
def signatureParameters (openSsl : OpenSsl) (mechanism : Mechanism) (key : EvpKey) :
    Except Rv PssParams :=
  if isRsaPss mechanism.mechanism then
    match mechanism.parameter with
    | .pss parameters => do
        let hash ← fetch (pssDigest parameters.hashAlg) .mechanismParamInvalid
        require ((mgfDigest parameters.mgf).isSome = true) .mechanismParamInvalid
        require (expectedPssDigest mechanism.mechanism parameters.hashAlg = parameters.hashAlg)
          .mechanismParamInvalid
        let maxSalt : Int := ((openSsl.bits key + 6) / 8 : Nat) - (hash.size : Int) - 2
        require (0 ≤ maxSalt ∧ (parameters.sLen : Int) ≤ maxSalt) .mechanismParamInvalid
        return parameters
    | _ => .error .mechanismParamInvalid
  else do
    require (mechanism.parameter.isGiven = false) .mechanismParamInvalid
    return ⟨0, 0, 0⟩

/-- The session and the operation it starts. -/
def signatureOperation (host : Host) (state : State) (sessionHandle : Nat)
    (mechanism : Option Mechanism) (keyHandle : Nat) (verify : Bool) :
    Except Rv (Session × Operation) := do
  let session ← fetch (state.findSession sessionHandle) .sessionHandleInvalid
  let mechanism ← fetch mechanism .argumentsBad
  require (session.operation.active = false) .operationActive
  let object ← fetch (state.findObject sessionHandle keyHandle) .keyHandleInvalid
  let key ← fetch object.asymmetricKey .keyHandleInvalid
  state.objectAccessStatus sessionHandle object
  require (supportedMechanisms.contains mechanism.mechanism = true) .mechanismInvalid
  require (verify = true ∨ object.objectClass = ckoPrivateKey) .keyTypeInconsistent
  require (supportsSignature object.keyType mechanism.mechanism = true) .keyTypeInconsistent
  require (policyValue object (if verify then ckaVerify else ckaSign) = true)
    .keyFunctionNotPermitted
  let parameters ← signatureParameters host.openSsl mechanism key
  return (session, ⟨true, verify, mechanism.mechanism, keyHandle, [], parameters⟩)

def initializeSignature (host : Host) (state : State) (sessionHandle : Nat)
    (mechanism : Option Mechanism) (keyHandle : Nat) (verify : Bool) : State × Response :=
  match signatureOperation host state sessionHandle mechanism keyHandle verify with
  | .error code => (state, .plain code)
  | .ok (session, operation) =>
      (state.putSession sessionHandle { session with operation := operation }, .plain .ok)

/-! ## Entry points -/

def signInit (host : Host) (state : State) (sessionHandle : Nat) (mechanism : Option Mechanism)
    (keyHandle : Nat) : State × Response :=
  initializeSignature host state sessionHandle mechanism keyHandle false

def verifyInit (host : Host) (state : State) (sessionHandle : Nat) (mechanism : Option Mechanism)
    (keyHandle : Nat) : State × Response :=
  initializeSignature host state sessionHandle mechanism keyHandle true

/-- A size query or a short buffer leaves the operation available for a retry. -/
def completeSign (host : Host) (oracle : Oracle) (state : State) (sessionHandle : Nat)
    (session : Session) (data : Bytes) (signature : OutputBuffer) : State × Response :=
  let outcome := executeSign host oracle state sessionHandle session.operation data signature
  let response : Response :=
    ⟨outcome.rv, .buffer outcome.length outcome.written, outcome.primitive⟩
  if signature.hasBuffer = true ∧ outcome.rv ≠ .bufferTooSmall then
    (state.putSession sessionHandle session.endOperation, response)
  else (state, response)

/-- `hasLength` says whether the length pointer is given. -/
def sign (host : Host) (oracle : Oracle) (state : State) (sessionHandle : Nat) (data : Buffer)
    (signature : OutputBuffer) (hasLength : Bool) : State × Response :=
  match (do
      let session ← signingSession state sessionHandle false
      require (hasLength = true ∧ data.isMissing = false) .argumentsBad
      return session : Except Rv Session) with
  | .error code => (state, .plain code)
  | .ok session =>
      completeSign host oracle state sessionHandle session data.content signature

def signUpdate (state : State) (sessionHandle : Nat) (data : Buffer) : State × Response :=
  appendSignatureData state sessionHandle data false

def signFinal (host : Host) (oracle : Oracle) (state : State) (sessionHandle : Nat)
    (signature : OutputBuffer) (hasLength : Bool) : State × Response :=
  match (do
      let session ← signingSession state sessionHandle false
      require (hasLength = true) .argumentsBad
      return session : Except Rv Session) with
  | .error code => (state, .plain code)
  | .ok session =>
      completeSign host oracle state sessionHandle session session.operation.bufferedData
        signature

def completeVerify (host : Host) (oracle : Oracle) (state : State) (sessionHandle : Nat)
    (session : Session) (data : Bytes) (signature : Buffer) : State × Response :=
  (state.putSession sessionHandle session.endOperation,
    executeVerify host oracle state sessionHandle session.operation data signature)

def verify (host : Host) (oracle : Oracle) (state : State) (sessionHandle : Nat)
    (data signature : Buffer) : State × Response :=
  match (do
      let session ← signingSession state sessionHandle true
      require (data.isMissing = false ∧ signature.isMissing = false) .argumentsBad
      return session : Except Rv Session) with
  | .error code => (state, .plain code)
  | .ok session =>
      completeVerify host oracle state sessionHandle session data.content signature

def verifyUpdate (state : State) (sessionHandle : Nat) (data : Buffer) : State × Response :=
  appendSignatureData state sessionHandle data true

def verifyFinal (host : Host) (oracle : Oracle) (state : State) (sessionHandle : Nat)
    (signature : Buffer) : State × Response :=
  match (do
      let session ← signingSession state sessionHandle true
      require (signature.isMissing = false) .argumentsBad
      return session : Except Rv Session) with
  | .error code => (state, .plain code)
  | .ok session =>
      completeVerify host oracle state sessionHandle session session.operation.bufferedData
        signature

end HsmSimulator
