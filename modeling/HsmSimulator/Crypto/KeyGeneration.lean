import HsmSimulator.Core.Response
import HsmSimulator.Objects.Policy
import HsmSimulator.Storage.KeyStore

/-!
# Key generation

The steps the creating operations share (storing a new secret key, storing a new
key pair) and the two generating operations.  A creation first checks everything
that needs no file, then writes the key file, registers the objects and publishes
their metadata.
-/

namespace HsmSimulator

open Checks

def symmetricKeyPath (slot : Slot) (label : Bytes) : Path :=
  (slot.directory.child symmetricDirectory).child (safeFilename label ++ ascii ".key")

def asymmetricKeyPath (slot : Slot) (label : Bytes) : Path :=
  (slot.directory.child asymmetricDirectory).child (safeFilename label ++ ascii ".p12")

def State.takeHandle (state : State) : State :=
  { state with nextObjectHandle := state.nextObjectHandle + 1 }

/-- The last steps of a creation: publish the metadata of a token key, and return the
handles. -/
def publishKey (state : State) (oracle : Oracle) (path : Path) (output : Output) :
    State × Response :=
  match persistMetadata state oracle path with
  | (next, .ok) => (next, .success output)
  | (next, code) => (next, .plain code)

/-- Save a new secret key if it is a token object, and register it. -/
def storeSecretKey (oracle : Oracle) (state : State) (object : Object) (token : Bool) :
    State × Response :=
  let register (disk : FileSystem) : State :=
    { state with disk := disk, objects := state.objects.emplace object.handle object }
  if token then
    match saveSecretKey state.disk oracle object.path object.secretValue with
    | (disk, .ok) => publishKey (register disk) oracle object.path (.handle object.handle)
    | (disk, code) => ({ state with disk := disk }, .plain code)
  else (register state.disk, .success (.handle object.handle))

/-- A key pair to store, and what the templates make of its objects.  The ids are
functions of the id the objects are registered with. -/
structure PairRequest where
  slot : Slot
  key : EvpKey
  label : Bytes
  path : Path
  privateId : Bytes → Bytes
  privatePolicy : OrderedMap Nat Bool
  privateOwner : Nat
  publicId : Bytes → Bytes
  publicLabel : Bytes
  publicPolicy : OrderedMap Nat Bool
  publicOwner : Nat

namespace PairRequest

/-- A pair without an owner is stored in the token. -/
def token (request : PairRequest) : Bool := request.privateOwner = 0

/-- Path of the objects: session objects have none. -/
def objectPath (request : PairRequest) (registered : Path) : Path :=
  if request.privateOwner ≠ 0 then [] else registered

def patchPrivate (request : PairRequest) (id : Bytes) (object : Object) : Object :=
  { object with
    id := request.privateId id
    policy := request.privatePolicy
    ownerSession := request.privateOwner
    path := request.objectPath object.path }

def patchPublic (request : PairRequest) (id : Bytes) (object : Object) : Object :=
  { object with
    id := request.publicId id
    label := request.publicLabel
    policy := request.publicPolicy
    ownerSession := request.publicOwner
    path := request.objectPath object.path }

end PairRequest

/-- After registration the private object has the handle `handle` and the public one
the next; where the latter is missing, `at` throws after the private id was set. -/
def finishKeyPair (oracle : Oracle) (state : State) (handle : Nat) (request : PairRequest)
    (output : Output) : State × Response :=
  match state.objects.get? handle with
  | none => (state, .plain Exception.other.code)
  | some privateObject =>
      let id := privateObject.id
      match state.objects.get? (handle + 1) with
      | none =>
          let identified := { privateObject with id := request.privateId id }
          ({ state with objects := state.objects.insert handle identified },
            .plain Exception.other.code)
      | some publicObject =>
          let patched := { state with
            objects := (state.objects.insert handle (request.patchPrivate id privateObject)).insert
              (handle + 1) (request.patchPublic id publicObject) }
          if request.token then publishKey patched oracle request.path output
          else (patched, .success output)

/-- Save a new key pair if it is a token object, register its objects and patch
them. -/
def storeKeyPair (host : Host) (oracle : Oracle) (state : State) (request : PairRequest)
    (output : Nat → Output) : State × Response :=
  match if request.token then
      saveKeyPair state.disk oracle request.slot request.path request.key request.label
    else (state.disk, .ok) with
  | (disk, .ok) =>
      match registerKeyPair host oracle { state with disk := disk } request.slot.id request.label
          request.path request.key none with
      | (registered, false) => (registered, .plain Exception.other.code)
      | (registered, true) =>
          finishKeyPair oracle registered state.nextObjectHandle request
            (output state.nextObjectHandle)
  | (disk, code) => ({ state with disk := disk }, .plain code)

/-! ## Secret keys -/

/-- The lengths of AES keys. -/
def isAesKeyLength (length : Nat) : Bool := length = 16 || length = 24 || length = 32

/-- What `RAND_bytes` writes for a length, which it takes as an `int`. -/
def randomFill (oracle : Oracle) (length : Nat) : Option Bytes :=
  (oracle.randomBytes (toInt length)).map fun source =>
    (List.range (toInt length).toNat).map source

/-- The checks of `GenerateKey` before it takes a handle. -/
def generatedKeyLength (state : State) (sessionHandle : Nat) (mechanism : Option Mechanism)
    (attributes : Template) (hasHandle : Bool) : Except Rv Nat := do
  let _ ← fetch (state.findSession sessionHandle) .sessionHandleInvalid
  let mechanism ← fetch mechanism .argumentsBad
  require (hasHandle = true) .argumentsBad
  require (mechanism.mechanism = ckmAesKeyGen) .mechanismInvalid
  validateCreationTemplate attributes
  let keyLength := (templateUnsigned attributes ckaValueLen).getD 32
  require (isAesKeyLength keyLength = true) .keySizeRange
  return keyLength

/-- The object of `GenerateKey`. -/
def generatedKey (oracle : Oracle) (state : State) (sessionHandle : Nat) (attributes : Template)
    (keyLength : Nat) : Except Rv Object := do
  let slot ← fetch (state.sessionSlot sessionHandle) Exception.other.code
  let label := templateString attributes ckaLabel (ascii "aes-key")
  let id := templateString attributes ckaId (decimal state.nextObjectHandle)
  let object ← applyCreationTemplate state
    { secretObject 0 label id (symmetricKeyPath slot label) [] with
      handle := state.nextObjectHandle }
    sessionHandle attributes true
  let value ← fetch (randomFill oracle keyLength) .deviceError
  return { object with secretValue := value }

def generateKey (oracle : Oracle) (state : State) (sessionHandle : Nat)
    (mechanism : Option Mechanism) (attributes : Template) (hasHandle : Bool) :
    State × Response :=
  match generatedKeyLength state sessionHandle mechanism attributes hasHandle with
  | .error code => (state, .plain code)
  | .ok keyLength =>
      match generatedKey oracle state sessionHandle attributes keyLength with
      | .error code => (state.takeHandle, .plain code)
      | .ok object => storeSecretKey oracle state.takeHandle object (object.ownerSession = 0)

/-! ## Key pairs -/

/-- Key type of the pair an algorithm generates. -/
def algorithmKeyType (algorithm : Bytes) : Nat :=
  if algorithm = ascii "RSA" then ckkRsa
  else if algorithm = ascii "EC" then ckkEc
  else if (ascii "ML-DSA").isPrefixOf algorithm then ckkMlDsa
  else ckkSlhDsa

/-- An object that only takes the policies of a template. -/
def policyObject (objectClass type : Nat) : Object :=
  { Object.initial with objectClass := objectClass, keyType := type }

/-- The algorithm and the policies of a new pair. -/
def pairTemplates (state : State) (sessionHandle : Nat) (mechanism : Option Mechanism)
    (publicTemplate privateTemplate : Template) (hasHandles : Bool) :
    Except Rv (Bytes × Object × Object) := do
  let _ ← fetch (state.findSession sessionHandle) .sessionHandleInvalid
  let mechanism ← fetch mechanism .argumentsBad
  require (hasHandles = true ∧ publicTemplate.isMissing = false ∧
    privateTemplate.isMissing = false) .argumentsBad
  validateCreationTemplate publicTemplate
  validateCreationTemplate privateTemplate
  require (isTokenTemplate publicTemplate true = isTokenTemplate privateTemplate true)
    .templateInconsistent
  let algorithm := generationAlgorithm mechanism.mechanism publicTemplate
  require (algorithm ≠ []) .mechanismInvalid
  let publicPolicy ← applyCreationTemplate state
    (policyObject ckoPublicKey (algorithmKeyType algorithm)) sessionHandle publicTemplate true
  let privatePolicy ← applyCreationTemplate state
    (policyObject ckoPrivateKey (algorithmKeyType algorithm)) sessionHandle privateTemplate true
  return (algorithm, publicPolicy, privatePolicy)

/-- The key OpenSSL generates. -/
def generatedEvpKey (oracle : Oracle) (algorithm : Bytes) (publicTemplate : Template) :
    Except Rv EvpKey := do
  require (oracle.keygenContext = true) .mechanismInvalid
  let bits := toInt ((templateUnsigned publicTemplate ckaModulusBits).getD 3072)
  let rsaBits := if algorithm = ascii "RSA" then some bits else none
  require (algorithm = ascii "RSA" → oracle.acceptsRsaBits bits = true) .attributeValueInvalid
  let ecParams := if algorithm = ascii "EC" then templateBytes publicTemplate ckaEcParams
    else none
  require (algorithm = ascii "EC" → ecParams.isSome = true) .templateIncomplete
  require (ecParams.all oracle.acceptsEcParams = true) .attributeValueInvalid
  fetch (oracle.generate ⟨algorithm, rsaBits, ecParams⟩) .deviceError

/-- The pair of `GenerateKeyPair`. -/
def generatedPair (oracle : Oracle) (state : State) (sessionHandle : Nat)
    (mechanism : Option Mechanism) (publicTemplate privateTemplate : Template)
    (hasHandles : Bool) : Except Rv PairRequest := do
  let (algorithm, publicPolicy, privatePolicy) ←
    pairTemplates state sessionHandle mechanism publicTemplate privateTemplate hasHandles
  let key ← generatedEvpKey oracle algorithm publicTemplate
  let label := templateString privateTemplate ckaLabel
    (templateString publicTemplate ckaLabel (ascii "generated-key"))
  let slot ← fetch (state.sessionSlot sessionHandle) Exception.other.code
  let commonId (id : Bytes) := templateString privateTemplate ckaId
    (templateString publicTemplate ckaId id)
  let privateId (id : Bytes) := templateString privateTemplate ckaId (commonId id)
  return {
    slot := slot
    key := key
    label := label
    path := asymmetricKeyPath slot label
    privateId := privateId
    privatePolicy := privatePolicy.policy
    privateOwner := privatePolicy.ownerSession
    publicId := fun id => templateString publicTemplate ckaId (commonId id)
    publicLabel := templateString publicTemplate ckaLabel label
    publicPolicy := publicPolicy.policy
    publicOwner := publicPolicy.ownerSession }

def generateKeyPair (host : Host) (oracle : Oracle) (state : State) (sessionHandle : Nat)
    (mechanism : Option Mechanism) (publicTemplate privateTemplate : Template)
    (hasHandles : Bool) : State × Response :=
  match generatedPair oracle state sessionHandle mechanism publicTemplate privateTemplate
      hasHandles with
  | .error code => (state, .plain code)
  | .ok request =>
      storeKeyPair host oracle state request fun handle => .keyPair (handle + 1) handle

/-! ## Random data -/

def generateRandom (oracle : Oracle) (state : State) (sessionHandle : Nat) (output : Buffer) :
    Response :=
  match (do
      let _ ← fetch (state.findSession sessionHandle) .sessionHandleInvalid
      require (output.isMissing = false) .argumentsBad
      fetch (randomFill oracle output.length) .deviceError : Except Rv Bytes) with
  | .error code => .plain code
  | .ok bytes => .success (.bytes bytes)

end HsmSimulator
