import HsmSimulator.Pkcs11.Sessions
import HsmSimulator.Storage.KeyStore

/-!
# Module and token management

Initialisation builds the slots and the objects from the files; finalisation drops
all three tables.  The information calls read the slots, the sessions and the
supported mechanisms.
-/

namespace HsmSimulator

open Checks

/-- What a failed initialisation leaves. -/
def State.clearRegistry (state : State) : State := { state with objects := ∅, slots := ∅ }

def cInitialize (host : Host) (state : State) (oracle : Oracle) (hasReserved : Bool) :
    State × Response :=
  if state.initialized then (state, .plain .cryptokiAlreadyInitialized)
  else if hasReserved then (state, .plain .argumentsBad)
  else
    match discoverSlots host { state with storageRoot := host.dataDirectory } oracle with
    | (next, false) => (next.clearRegistry, .plain .deviceError)
    | (next, true) =>
        match loadTokenObjects host oracle next with
        | (next, false) => (next.clearRegistry, .plain .deviceError)
        | (next, true) => ({ next with initialized := true }, .plain .ok)

def cFinalize (state : State) (hasReserved : Bool) : State × Response :=
  if state.initialized = false then (state, .plain .cryptokiNotInitialized)
  else if hasReserved then (state, .plain .argumentsBad)
  else
    ({ state with slots := ∅, sessions := ∅, objects := ∅, initialized := false }, .plain .ok)

/-! ## Information -/

def getInfo (hasInfo : Bool) : Response :=
  if hasInfo = false then .plain .argumentsBad
  else
    .success (.info (.library (writePaddedString 32 (ascii "OpenAI"))
      (writePaddedString 32 (ascii "HSM Simulator"))))

/-- The protocol of a call that returns a list: a size query, a short buffer, or the
list. -/
def listResponse (values : List Nat) (hasList : Bool) (count : Nat) : Response :=
  if hasList = false then .success (.numbers values.length none)
  else if count < values.length then ⟨.bufferTooSmall, .numbers values.length none, none⟩
  else .success (.numbers values.length (some values))

/-- `count` is `none` for a null pointer. -/
def getSlotList (state : State) (hasList : Bool) (count : Option Nat) : Response :=
  match count with
  | none => .plain .argumentsBad
  | some count => listResponse state.slots.keys hasList count

def infoChecks (state : State) (slotId : Nat) (hasInfo : Bool) : Except Rv Slot := do
  let slot ← fetch (state.findSlot slotId) .slotIdInvalid
  require (hasInfo = true) .argumentsBad
  return slot

def getSlotInfo (state : State) (slotId : Nat) (hasInfo : Bool) : Response :=
  match infoChecks state slotId hasInfo with
  | .error code => .plain code
  | .ok slot =>
      .success (.info (.slot (writePaddedString 64 slot.label)
        (writePaddedString 32 (ascii "OpenAI")) ckfTokenPresent))

/-- A number in hexadecimal on 16 lower-case digits. -/
def serialNumber (number : Nat) : Bytes :=
  (List.range 16).map fun position =>
    let digit := number / 16 ^ (15 - position) % 16
    if digit < 10 then (48 + digit).toUInt8 else (87 + digit).toUInt8

def tokenFlags (slot : Slot) : Nat :=
  (ckfRng ||| ckfTokenInitialized) |||
    (if slot.requiresLogin then ckfLoginRequired else 0) |||
    (if slot.userPin.isSome || !slot.requiresLogin then ckfUserPinInitialized else 0)

def getTokenInfo (state : State) (slotId : Nat) (hasInfo : Bool) : Response :=
  match infoChecks state slotId hasInfo with
  | .error code => .plain code
  | .ok slot =>
      let sessions := state.sessions.values.filter fun session => session.slotId = slotId
      .success (.info (.token (writePaddedString 32 slot.label)
        (writePaddedString 32 (ascii "OpenAI")) (writePaddedString 16 (ascii "FILE-HSM"))
        (writePaddedString 16 (serialNumber slotId)) (tokenFlags slot) ckUnavailableInformation
        sessions.length ckUnavailableInformation (sessions.filter Session.isReadWrite).length
        maximumPinLength 0))

def getMechanismList (state : State) (slotId : Nat) (hasList : Bool) (count : Option Nat) :
    Response :=
  match (do
      let _ ← fetch (state.findSlot slotId) .slotIdInvalid
      fetch count .argumentsBad : Except Rv Nat) with
  | .error code => .plain code
  | .ok count => listResponse supportedMechanisms hasList count

/-- Key sizes and flags of a mechanism. -/
def mechanismInfo (mechanism : Nat) : Info :=
  if mechanism = ckmAesEcbEncryptData then .mechanism 16 32 ckfDerive
  else if mechanism = ckmAesKeyGen then .mechanism 0 0 ckfGenerate
  else if mechanism = ckmRsaPkcsKeyPairGen ∨ mechanism = ckmEcKeyPairGen ∨
      mechanism = ckmMlDsaKeyPairGen ∨ mechanism = ckmSlhDsaKeyPairGen then
    .mechanism 0 0 ckfGenerateKeyPair
  else if mechanism = ckmAesKeyWrap ∨ mechanism = ckmAesKeyWrapPad then
    .mechanism 0 0 (ckfWrap ||| ckfUnwrap)
  else .mechanism 0 0 (ckfSign ||| ckfVerify)

def getMechanismInfo (state : State) (slotId mechanism : Nat) (hasInfo : Bool) : Response :=
  match (do
      let _ ← infoChecks state slotId hasInfo
      require (supportedMechanisms.contains mechanism = true) .mechanismInvalid :
        Except Rv Unit) with
  | .error code => .plain code
  | .ok _ => .success (.info (mechanismInfo mechanism))

end HsmSimulator
