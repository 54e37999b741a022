import HsmSimulator.Crypto.KeyGeneration

/-!
# Key wrapping

AES key wrap without and with padding.  Wrapping serialises a secret or private
key; unwrapping creates a key like the generating operations do.
-/

namespace HsmSimulator

open Checks

/-- What `aesKeyWrap` returns, the final value of its length variable, and what it
wrote to the output. -/
structure WrapOutcome where
  rv : Rv
  length : Nat
  written : Option Bytes

/-- The checks of `aesKeyWrap`; the result says whether the mechanism pads. -/
def wrapPadding (oracle : Oracle) (unwrap : Bool) (mechanism : Option Mechanism)
    (wrappingKey : Object) (inputLength : Nat) : Except Rv Bool := do
  let mechanism ← fetch mechanism .keyTypeInconsistent
  require (wrappingKey.keyType = ckkAes) .keyTypeInconsistent
  require (mechanism.mechanism = ckmAesKeyWrap ∨ mechanism.mechanism = ckmAesKeyWrapPad)
    .mechanismInvalid
  require (mechanism.parameter.isGiven = false) .mechanismParamInvalid
  require (inputLength ≤ intMax - 16) .dataLenRange
  require (isAesKeyLength wrappingKey.secretValue.length = true) .keySizeRange
  require (mechanism.mechanism = ckmAesKeyWrap →
    inputLength % 8 = 0 ∧ (if unwrap then 24 else 16) ≤ inputLength) .dataLenRange
  require (mechanism.mechanism = ckmAesKeyWrapPad →
    inputLength ≠ 0 ∧ (unwrap = true → 16 ≤ inputLength ∧ inputLength % 8 = 0)) .dataLenRange
  require (oracle.cipherContext = true) .deviceError
  require (oracle.cipherInit = true) .deviceError
  return mechanism.mechanism = ckmAesKeyWrapPad

/-- Length `aesKeyWrap` asks for. -/
def wrapLength (unwrap padding : Bool) (inputLength : Nat) : Nat :=
  if unwrap then inputLength
  else if padding then (inputLength + 7) / 8 * 8 + 8
  else inputLength + 8

def aesKeyWrap (host : Host) (oracle : Oracle) (unwrap : Bool) (mechanism : Option Mechanism)
    (wrappingKey : Object) (input : Bytes) (output : OutputBuffer) : WrapOutcome :=
  match wrapPadding oracle unwrap mechanism wrappingKey input.length with
  | .error code => ⟨code, output.length, none⟩
  | .ok padding =>
      let required := wrapLength unwrap padding input.length
      if output.hasBuffer = false then ⟨.ok, required, none⟩
      else if output.length < required then ⟨.bufferTooSmall, required, none⟩
      else
        let cipher := if unwrap then host.openSsl.keyUnwrap else host.openSsl.keyWrap
        match if oracle.cipherRuns then cipher padding wrappingKey.secretValue input else none with
        | none => ⟨if unwrap then .encryptedDataInvalid else .deviceError, output.length, none⟩
        | some result => ⟨.ok, result.length, some result⟩

/-- No bytes where the object has nothing to wrap. -/
def serializeKeyForWrapping (openSsl : OpenSsl) (object : Object) : Bytes :=
  if object.objectClass = ckoSecretKey then object.secretValue
  else if object.objectClass ≠ ckoPrivateKey then []
  else (object.asymmetricKey.bind openSsl.encodePkcs8).getD []

/-- The wrapping key and the bytes to wrap. -/
def wrapInput (host : Host) (state : State) (sessionHandle wrappingHandle keyHandle : Nat)
    (hasLength : Bool) : Except Rv (Object × Bytes) := do
  let _ ← fetch (state.findSession sessionHandle) .sessionHandleInvalid
  require (hasLength = true) .argumentsBad
  let wrappingKey ← fetch (state.findObject sessionHandle wrappingHandle) .keyHandleInvalid
  let key ← fetch (state.findObject sessionHandle keyHandle) .keyHandleInvalid
  state.requireUserLogin sessionHandle
  require (policyValue wrappingKey ckaWrap = true) .keyFunctionNotPermitted
  require (policyValue key ckaExtractable = true) .keyUnextractable
  let raw := serializeKeyForWrapping host.openSsl key
  require (raw ≠ []) .keyTypeInconsistent
  return (wrappingKey, raw)

def wrapKey (host : Host) (oracle : Oracle) (state : State) (sessionHandle : Nat)
    (mechanism : Option Mechanism) (wrappingHandle keyHandle : Nat) (output : OutputBuffer)
    (hasLength : Bool) : Response :=
  match wrapInput host state sessionHandle wrappingHandle keyHandle hasLength with
  | .error code => .plain code
  | .ok (wrappingKey, raw) =>
      let outcome := aesKeyWrap host oracle false mechanism wrappingKey raw output
      ⟨outcome.rv, .buffer outcome.length outcome.written, none⟩

/-! ## Unwrapping -/

/-- The unwrapped bytes. -/
def unwrappedBytes (host : Host) (oracle : Oracle) (state : State) (sessionHandle : Nat)
    (mechanism : Option Mechanism) (wrappingHandle : Nat) (input : Buffer)
    (attributes : Template) (hasHandle : Bool) : Except Rv Bytes := do
  let _ ← fetch (state.findSession sessionHandle) .sessionHandleInvalid
  require (input.isNull = false ∧ hasHandle = true ∧ attributes.isMissing = false) .argumentsBad
  let wrappingKey ← fetch (state.findObject sessionHandle wrappingHandle) .keyHandleInvalid
  state.requireUserLogin sessionHandle
  require (policyValue wrappingKey ckaUnwrap = true) .keyFunctionNotPermitted
  validateCreationTemplate attributes
  let outcome := aesKeyWrap host oracle true mechanism wrappingKey input.content
    ⟨true, input.content.length⟩
  require (outcome.rv = .ok) outcome.rv
  return outcome.written.getD []

/-- The secret key object of `UnwrapKey`.  Its default id is the handle after the one
it takes. -/
def unwrappedSecret (state : State) (sessionHandle : Nat) (attributes : Template)
    (label raw : Bytes) : Except Rv Object := do
  let slot ← fetch (state.sessionSlot sessionHandle) Exception.other.code
  let id := templateString attributes ckaId (decimal (state.nextObjectHandle + 1))
  let object ← applyCreationTemplate state
    { secretObject 0 label id (symmetricKeyPath slot label) raw with
      handle := state.nextObjectHandle }
    sessionHandle attributes true
  require ((templateUnsigned attributes ckaValueLen).getD raw.length = raw.length)
    .templateInconsistent
  return object

/-- The key pair of `UnwrapKey`.  The label and the policies of the public object stay
as they are registered. -/
def unwrappedPair (host : Host) (state : State) (sessionHandle : Nat) (attributes : Template)
    (label raw : Bytes) : Except Rv PairRequest := do
  let key ← fetch (host.openSsl.decodePkcs8 raw) .dataInvalid
  let privatePolicy ← applyCreationTemplate state
    (policyObject ckoPrivateKey (keyType host.openSsl key)) sessionHandle attributes true
  let slot ← fetch (state.sessionSlot sessionHandle) Exception.other.code
  let commonId (id : Bytes) := templateString attributes ckaId id
  return {
    slot := slot
    key := key
    label := label
    path := asymmetricKeyPath slot label
    privateId := commonId
    privatePolicy := privatePolicy.policy
    privateOwner := privatePolicy.ownerSession
    publicId := commonId
    publicLabel := label
    publicPolicy := ∅
    publicOwner := privatePolicy.ownerSession }

def unwrapKey (host : Host) (oracle : Oracle) (state : State) (sessionHandle : Nat)
    (mechanism : Option Mechanism) (wrappingHandle : Nat) (input : Buffer)
    (attributes : Template) (hasHandle : Bool) : State × Response :=
  match unwrappedBytes host oracle state sessionHandle mechanism wrappingHandle input attributes
      hasHandle with
  | .error code => (state, .plain code)
  | .ok raw =>
      let objectClass := (templateUnsigned attributes ckaClass).getD ckoSecretKey
      let label := templateString attributes ckaLabel (ascii "unwrapped-key")
      if objectClass = ckoSecretKey then
        if isAesKeyLength raw.length = false then (state, .plain .keySizeRange)
        else
          match unwrappedSecret state sessionHandle attributes label raw with
          | .error code => (state.takeHandle, .plain code)
          | .ok object =>
              storeSecretKey oracle state.takeHandle object (object.ownerSession = 0)
      else if objectClass ≠ ckoPrivateKey then (state, .plain .templateInconsistent)
      else
        match unwrappedPair host state sessionHandle attributes label raw with
        | .error code => (state, .plain code)
        | .ok request => storeKeyPair host oracle state request .handle

end HsmSimulator
