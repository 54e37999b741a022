import HsmSimulator.Crypto.KeyGeneration

/-!
# Key derivation

`CKM_AES_ECB_ENCRYPT_DATA`: the derived key is the leading part of the encryption
of caller data under a master key.  The template is validated by a loop of its
own.
-/

namespace HsmSimulator

open Checks

/-- Attribute types whose value is a `CK_ULONG`. -/
def derivationUlongAttributes : List Nat := [ckaClass, ckaKeyType, ckaValueLen]

/-- Attribute types whose value is a boolean. -/
def derivationBooleanAttributes : List Nat :=
  [ckaModifiable, ckaDestroyable, ckaToken, ckaPrivate, ckaDerive, ckaWrap, ckaUnwrap,
    ckaEncrypt, ckaDecrypt, ckaSign, ckaVerify, ckaSensitive, ckaExtractable]

/-- The checks of `DeriveKey` on one entry of its template. -/
def validateDerivationAttribute (entry : Attribute) : Except Rv Unit := do
  require (entry.value.isMissing = false) .attributeValueInvalid
  if derivationUlongAttributes.contains entry.type then
    require (entry.value.isNull = false ∧ entry.value.length = sizeofCkUlong)
      .attributeValueInvalid
  else if derivationBooleanAttributes.contains entry.type then
    require (isBoolean entry.value.content = true) .attributeValueInvalid
  else if entry.type = ckaLabel ∨ entry.type = ckaId then
    .ok ()
  else if entry.type = ckaValue then
    .error .templateInconsistent
  else
    .error .attributeTypeInvalid

/-- The token flag the validation loop leaves. -/
def derivationToken (attributes : Template) : Bool :=
  attributes.toList.foldl
    (fun token entry => if entry.type = ckaToken then entry.boolean else token) false

/-- The data of the mechanism parameter. -/
def derivationData (mechanism : Mechanism) : Except Rv Bytes := do
  require (mechanism.mechanism = ckmAesEcbEncryptData) .mechanismInvalid
  match mechanism.parameter with
  | .stringData data =>
      require (data.isNull = false) .mechanismParamInvalid
      require (data.length ≠ 0 ∧ data.length % 16 = 0 ∧ data.length ≤ intMax - 16) .dataLenRange
      return data.content
  | _ => .error .mechanismParamInvalid

/-- The master key of a derivation. -/
def derivationMaster (state : State) (sessionHandle baseKey : Nat) : Except Rv Object := do
  let master ← fetch (state.findObject sessionHandle baseKey) .keyHandleInvalid
  state.requireUserLogin sessionHandle
  require (policyValue master ckaDerive = true) .keyFunctionNotPermitted
  require (master.objectClass = ckoSecretKey ∧ master.keyType = ckkAes) .keyTypeInconsistent
  require (isAesKeyLength master.secretValue.length = true) .keySizeRange
  return master

/-- The length the template asks for. -/
def derivedLength (attributes : Template) (dataLength : Nat) : Except Rv Nat := do
  validateEntries validateDerivationAttribute [] attributes.toList
  require ((templateUnsigned attributes ckaClass).getD ckoSecretKey = ckoSecretKey)
    .templateInconsistent
  let requestedType ← fetch (templateUnsigned attributes ckaKeyType) .templateIncomplete
  let requestedLength ← fetch (templateUnsigned attributes ckaValueLen) .templateIncomplete
  require (requestedType = ckkAes) .templateInconsistent
  require (isAesKeyLength requestedLength = true) .keySizeRange
  require (requestedLength ≤ dataLength) .dataLenRange
  return requestedLength

/-- Encrypt a number of blocks independently. -/
def ecbEncrypt (block : Bytes → Vector UInt8 16) : Nat → Bytes → Bytes
  | 0, _ => []
  | count + 1, data => (block (data.take 16)).toList ++ ecbEncrypt block count (data.drop 16)

/-- One `EVP_EncryptUpdate`: the memory it is told to read from, the number of bytes as an
`int`, and the size of the buffer it writes to. -/
structure CipherCall where
  memory : Bytes
  length : Int
  capacity : Nat

namespace CipherCall

/-- The bytes that are read. -/
def input (call : CipherCall) : Bytes := call.memory.take call.length.toNat

/-- The bytes that are written; without padding `EVP_EncryptFinal_ex` adds none. -/
def output (call : CipherCall) (block : Bytes → Vector UInt8 16) : Bytes :=
  ecbEncrypt block (call.length.toNat / 16) call.input

end CipherCall

/-- The bytes that are encrypted for a requested length: whole blocks. -/
def usedLength (requestedLength : Nat) : Nat := (requestedLength + 15) / 16 * 16

/-- Only leading blocks contribute to the requested key. -/
def derivationCall (data : Bytes) (requestedLength : Nat) : CipherCall where
  memory := data
  length := toInt (usedLength requestedLength)
  capacity := usedLength requestedLength + 16

def derivedValue (host : Host) (master data : Bytes) (requestedLength : Nat) : Bytes :=
  ((derivationCall data requestedLength).output (host.openSsl.aesBlock master)).take
    requestedLength

/-- Everything `DeriveKey` does before it takes a handle: the session, its slot and the
value of the new key. -/
def derivation (host : Host) (oracle : Oracle) (state : State) (sessionHandle : Nat)
    (mechanism : Option Mechanism) (baseKey : Nat) (attributes : Template) (hasHandle : Bool) :
    Except Rv (Session × Slot × Bytes) := do
  let session ← fetch (state.findSession sessionHandle) .sessionHandleInvalid
  let mechanism ← fetch mechanism .argumentsBad
  require (hasHandle = true ∧ attributes.isMissing = false) .argumentsBad
  let data ← derivationData mechanism
  let master ← derivationMaster state sessionHandle baseKey
  let requestedLength ← derivedLength attributes data.length
  require (derivationToken attributes = false ∨ session.isReadWrite = true) .sessionReadOnly
  require (oracle.cipherContext = true) .deviceError
  require (oracle.cipherInit = true) .deviceError
  require (oracle.cipherRuns = true) .deviceError
  let slot ← fetch (state.sessionSlot sessionHandle) Exception.other.code
  return (session, slot, derivedValue host master.secretValue data requestedLength)

/-- The object of `DeriveKey`. -/
def derivedObject (state : State) (sessionHandle : Nat) (session : Session) (slot : Slot)
    (attributes : Template) (value : Bytes) : Object :=
  let handle := state.nextObjectHandle
  let token := derivationToken attributes
  let label := templateString attributes ckaLabel (ascii "derived-" ++ decimal handle)
  let id := templateString attributes ckaId (decimal handle)
  { secretObject session.slotId label id
      (if token then symmetricKeyPath slot label else []) value with
    handle := handle
    ownerSession := if token then 0 else sessionHandle
    policy := applyPolicyTemplate ∅ attributes }

def deriveKey (host : Host) (oracle : Oracle) (state : State) (sessionHandle : Nat)
    (mechanism : Option Mechanism) (baseKey : Nat) (attributes : Template) (hasHandle : Bool) :
    State × Response :=
  match derivation host oracle state sessionHandle mechanism baseKey attributes hasHandle with
  | .error code => (state, .plain code)
  | .ok (session, slot, value) =>
      storeSecretKey oracle state.takeHandle
        (derivedObject state sessionHandle session slot attributes value)
        (derivationToken attributes)

end HsmSimulator
