import HsmSimulator.Core.Response
import HsmSimulator.Storage.KeyStore

/-!
# Attributes

Reading attributes into caller buffers, and changing the label, the id and the
policies of an object.  A change of a token object is published in its metadata
file before it is made in memory.
-/

namespace HsmSimulator

open Checks

/-- What an object has for an attribute type. -/
inductive AttributeValue
  | available (value : Bytes)
  /-- The length is set to `CK_UNAVAILABLE_INFORMATION`. -/
  | unavailable (code : Rv)
  /-- The length keeps what the caller put there. -/
  | failed (code : Rv)
  deriving DecidableEq

/-- The boolean attributes; `CKA_TOKEN` is the absence of an owner. -/
def booleanAttribute (object : Object) (type : Nat) : Bool :=
  if type = ckaToken then object.ownerSession = 0 else policyValue object type

/-- `readRsaAttribute`: modulus or public exponent. -/
def rsaAttribute (openSsl : OpenSsl) (object : Object) (type : Nat) : AttributeValue :=
  let parameter := if type = ckaModulus then ascii "n" else ascii "e"
  match if object.keyType = ckkRsa then
      object.asymmetricKey.bind fun key => openSsl.bnParam key parameter
    else none with
  | some value => .available value
  | none => .unavailable .attributeTypeInvalid

/-- `readEcAttribute`: curve parameters or public point. -/
def ecAttribute (openSsl : OpenSsl) (object : Object) (type : Nat) : AttributeValue :=
  match if object.keyType = ckkEc then object.asymmetricKey else none with
  | none => .unavailable .attributeTypeInvalid
  | some key =>
      match if type = ckaEcParams then (openSsl.groupName key).bind openSsl.groupOid
        else (openSsl.encodedPoint key).bind openSsl.octetString with
      | some value => .available value
      | none => .failed .deviceError

/-- `CKA_VALUE`: the secret value, unless it is sensitive or not extractable, or the
certificate. -/
def valueAttribute (object : Object) : AttributeValue :=
  if object.objectClass = ckoSecretKey then
    if policyValue object ckaSensitive || !policyValue object ckaExtractable then
      .unavailable .attributeSensitive
    else .available object.secretValue
  else if object.objectClass = ckoCertificate then .available object.certificateDer
  else .unavailable .attributeTypeInvalid

/-- The branches of `readAttributes`. -/
def attributeValue (openSsl : OpenSsl) (object : Object) (type : Nat) : AttributeValue :=
  if isPolicyAttribute type || type = ckaToken then
    .available [if booleanAttribute object type then 1 else 0]
  else if type = ckaValueLen then .available (ulongBytes object.secretValue.length)
  else if type = ckaModulusBits then
    match if object.keyType = ckkRsa then object.asymmetricKey else none with
    | some key => .available (ulongBytes (openSsl.bits key))
    | none => .unavailable .attributeTypeInvalid
  else if type = ckaModulus ∨ type = ckaPublicExponent then rsaAttribute openSsl object type
  else if type = ckaEcParams ∨ type = ckaEcPoint then ecAttribute openSsl object type
  else if type = ckaClass then .available (ulongBytes object.objectClass)
  else if type = ckaKeyType then .available (ulongBytes object.keyType)
  else if type = ckaLabel then .available object.label
  else if type = ckaId then .available object.id
  else if type = ckaParameterSet then
    if keyParameterSet object = 0 then .unavailable .attributeTypeInvalid
    else .available (ulongBytes (keyParameterSet object))
  else if type = ckaValue then valueAttribute object
  else .unavailable .attributeTypeInvalid

def writeAttribute (query : AttributeQuery) (value : Bytes) : AttributeResult × Rv :=
  if query.hasBuffer = false then (⟨value.length, none⟩, .ok)
  else if query.length < value.length then (⟨value.length, none⟩, .bufferTooSmall)
  else (⟨value.length, some value⟩, .ok)

/-- One pass of the loop of `readAttributes`. -/
def readAttribute (openSsl : OpenSsl) (object : Object) (query : AttributeQuery) :
    AttributeResult × Rv :=
  match attributeValue openSsl object query.type with
  | .available value => writeAttribute query value
  | .unavailable code => (⟨ckUnavailableInformation, none⟩, code)
  | .failed code => (⟨query.length, none⟩, code)

/-- The last code that is not `CKR_OK`. -/
def lastError (codes : List Rv) : Rv :=
  codes.foldl (fun result code => if code = .ok then result else code) .ok

def readAttributes (openSsl : OpenSsl) (object : Object) (attributes : QueryTemplate) : Response :=
  match attributes with
  | .null count => .plain (if count = 0 then .ok else .argumentsBad)
  | .entries queries =>
      let results := queries.map (readAttribute openSsl object)
      ⟨lastError (results.map Prod.snd), .attributes (results.map Prod.fst), none⟩

/-- The object a call on a session may look at. -/
def readableObject (state : State) (sessionHandle objectHandle : Nat) : Except Rv Object := do
  let _ ← fetch (state.findSession sessionHandle) .sessionHandleInvalid
  let object ← fetch (state.findObject sessionHandle objectHandle) .objectHandleInvalid
  state.objectAccessStatus sessionHandle object
  return object

def getAttributeValue (host : Host) (state : State) (sessionHandle objectHandle : Nat)
    (attributes : QueryTemplate) : Response :=
  match readableObject state sessionHandle objectHandle with
  | .error code => .plain code
  | .ok object => readAttributes host.openSsl object attributes

/-! ## Changing attributes -/

/-- The loop of `SetAttributeValue`: sensitivity is never taken back, extractability
never given back.  Policies are tested on the object, not on the changed copy. -/
def changeAttributes (object : Object) : Object → List Attribute → Except Rv Object
  | changed, [] => .ok changed
  | changed, entry :: rest =>
      if entry.type = ckaLabel then
        changeAttributes object
          { changed with label := templateString (.entries [entry]) entry.type [] } rest
      else if entry.type = ckaId then
        changeAttributes object
          { changed with id := templateString (.entries [entry]) entry.type [] } rest
      else if isPolicyAttribute entry.type then
        if (entry.type = ckaSensitive ∧ policyValue object entry.type = true ∧
              entry.boolean = false) ∨
            (entry.type = ckaExtractable ∧ policyValue object entry.type = false ∧
              entry.boolean = true) then .error .attributeReadOnly
        else
          changeAttributes object
            { changed with policy := changed.policy.insert entry.type entry.boolean } rest
      else .error .attributeReadOnly

/-- The checks shared by the operations that alter an object: `required` is the
policy that allows it. -/
def alterableObject (state : State) (sessionHandle handle required : Nat) :
    Except Rv Object := do
  let session ← fetch (state.findSession sessionHandle) .sessionHandleInvalid
  let object ← fetch (state.findObject sessionHandle handle) .objectHandleInvalid
  state.requireUserLogin sessionHandle
  require (policyValue object required = true) .actionProhibited
  require (object.ownerSession ≠ 0 ∨ session.isReadWrite = true) .sessionReadOnly
  return object

/-- The object as `SetAttributeValue` leaves it. -/
def changedObject (state : State) (sessionHandle handle : Nat) (attributes : Template) :
    Except Rv Object := do
  let object ← alterableObject state sessionHandle handle ckaModifiable
  validateCreationTemplate attributes
  changeAttributes object object attributes.toList

def setAttributeValue (state : State) (oracle : Oracle) (sessionHandle handle : Nat)
    (attributes : Template) : State × Response :=
  match changedObject state sessionHandle handle attributes with
  | .error code => (state, .plain code)
  | .ok changed =>
      if changed.ownerSession = 0 then
        let records := collectMetadata oracle state.objects changed.path (some changed)
        let (disk, published) := Metadata.create state.disk oracle changed.path records true
        if published then
          ({ state with disk := disk, objects := state.objects.insert handle changed }, .plain .ok)
        else ({ state with disk := disk }, .plain .deviceError)
      else ({ state with objects := state.objects.insert handle changed }, .plain .ok)

end HsmSimulator
