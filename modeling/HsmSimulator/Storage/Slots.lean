import HsmSimulator.Core.Files
import HsmSimulator.Core.Utilities
import HsmSimulator.Objects.Template

/-!
# Slots and PIN files

Slots are the subdirectories of the storage root whose name starts with a number
and an underscore; without any, the root itself is one legacy slot.  A PIN is
stored in a file of the slot directory as it is, and read back without a byte
order mark and without a line ending.
-/

namespace HsmSimulator

open Checks

def maximumPinLength : Nat := 256

/-- A byte that may not occur in a PIN. -/
def isPinSeparator (c : UInt8) : Bool := c = 0 || c = 13 || c = 10

def validatePin (pin : Buffer) : Except Rv Unit := do
  require (pin.isMissing = false) .argumentsBad
  require (pin.length ≤ maximumPinLength) .pinLenRange
  require (pin.content.any isPinSeparator = false) .pinInvalid

def checkPin (expected : Option Bytes) (pin : Buffer) : Except Rv Unit := do
  require (pin.isMissing = false) .argumentsBad
  let stored ← fetch expected .userPinNotInitialized
  require (pin.content = stored) .pinIncorrect

/-! ## Reading the passwords of a slot -/

/-- Remove a UTF-8 byte order mark. -/
def stripByteOrderMark : Bytes → Bytes
  | 0xEF :: 0xBB :: 0xBF :: rest => rest
  | value => value

/-- Remove one trailing line ending. -/
def stripLineEnding (value : Bytes) : Bytes :=
  if value.getLast? = some 10 then
    if value.dropLast.getLast? = some 13 then value.dropLast.dropLast else value.dropLast
  else value

/-- The PIN in the content of a password file; `none` is a thrown exception. -/
def parsePassword (content : Bytes) : Option Bytes :=
  if maximumPinLength + 6 ≤ content.length then none
  else
    let value := stripLineEnding (stripByteOrderMark content)
    match validatePin (.bytes value) with
    | .ok _ => some value
    | .error _ => none

/-- A missing file holds no PIN; the outer `none` is a thrown exception. -/
def readPassword (disk : FileSystem) (oracle : Oracle) (path : Path) : Option (Option Bytes) :=
  if oracle.statFails path then none
  else if disk.hasPath path = false then some none
  else if oracle.readFails path then none
  else (disk.content path).bind fun content => (parsePassword content).map some

def userPinFile : Bytes := ascii "pin.txt"
def soPinFile : Bytes := ascii "so-pin.txt"
def p12PasswordFile : Bytes := ascii "p12-password.txt"

/-- The USER PIN: the file's, or the one of the environment. -/
def initialUserPin (host : Host) (stored : Option Bytes) : Option (Option Bytes) :=
  let fallback := environmentValue host .pin
  match stored with
  | some pin => some (some pin)
  | none =>
      if fallback = [] then some none
      else if maximumPinLength < fallback.length || fallback.any (fun c => c = 13 || c = 10) then
        none
      else some (some fallback)

def loadPasswords (host : Host) (disk : FileSystem) (oracle : Oracle) (slot : Slot) :
    Option Slot := do
  let stored ← readPassword disk oracle (slot.directory.child userPinFile)
  let userPin ← initialUserPin host stored
  let soPin ← readPassword disk oracle (slot.directory.child soPinFile)
  let p12Password ← readPassword disk oracle (slot.directory.child p12PasswordFile)
  return { slot with
    userPin := userPin
    soPin := soPin
    p12Password := p12Password.getD (environmentValue host .p12Password) }

/-! ## Slot names -/

def isDigit (c : UInt8) : Bool := 48 ≤ c && c ≤ 57

/-- Value of a run of digits as a `CK_SLOT_ID`; `none` is out of range. -/
def slotIdValue : Bytes → Nat → Option Nat
  | [], id => some id
  | c :: rest, id =>
      let digit := c.toNat - 48
      if (2 ^ 64 - 1 - digit) / 10 < id then none else slotIdValue rest (id * 10 + digit)

/-- The part of a name before its first underscore. -/
def slotNumber (name : Bytes) : Bytes := name.takeWhile (· ≠ 95)

/-- The part of a name after its first underscore. -/
def slotLabel (name : Bytes) : Bytes := (name.dropWhile (· ≠ 95)).tail

/-- The inner `none` is a name that is no slot's; the outer one is a thrown
exception. -/
def parseSlotId (name : Bytes) : Option (Option Nat) :=
  let digits := slotNumber name
  if name.contains 95 = false || digits = [] || digits.all isDigit = false then some none
  else if slotLabel name = [] then none
  else (slotIdValue digits 0).map some

/-! ## Discovery -/

def asymmetricDirectory : Bytes := ascii "asymmetric"
def symmetricDirectory : Bytes := ascii "symmetric"

/-- The slot of a directory, without its passwords. -/
def Slot.ofDirectory (id : Nat) (label : Bytes) (directory : Path) (legacyLayout : Bool) :
    Slot where
  id := id
  label := label
  directory := directory
  userPin := none
  soPin := none
  p12Password := []
  legacyLayout := legacyLayout
  loggedInUser := none

def collectSlots (host : Host) (disk : FileSystem) (oracle : Oracle) :
    List Path → OrderedMap Nat Slot → Option (OrderedMap Nat Slot)
  | [], slots => some slots
  | entry :: rest, slots =>
      match parseSlotId entry.filename with
      | none => none
      | some none => collectSlots host disk oracle rest slots
      | some (some id) => do
          let slot ← loadPasswords host disk oracle
            (.ofDirectory id (slotLabel entry.filename) entry false)
          if (slots.get? id).isSome then none
          else collectSlots host disk oracle rest (slots.insert id slot)

/-- The slots of the storage root; `none` is a thrown exception. -/
def discoverSlotsIn (host : Host) (disk : FileSystem) (oracle : Oracle) (root : Path) :
    Option (OrderedMap Nat Slot) := do
  let slots ← collectSlots host disk oracle
    (oracle.listing.reorder (disk.subdirectories root)) ∅
  let asymmetric := root.child asymmetricDirectory
  let symmetric := root.child symmetricDirectory
  if slots.entries = [] then
    let slot ← loadPasswords host disk oracle
      (.ofDirectory 1 (ascii "HSM Simulator") root true)
    return slots.insert slot.id slot
  else if oracle.statFails asymmetric || disk.hasPath asymmetric ||
      (oracle.statFails symmetric || disk.hasPath symmetric) then none
  else return slots

/-- The storage root is created first, also where the discovery fails. -/
def discoverSlots (host : Host) (state : State) (oracle : Oracle) : State × Bool :=
  match state.disk.createDirectories oracle state.storageRoot with
  | none => (state, false)
  | some disk =>
      match if oracle.listingFails state.storageRoot then none
        else discoverSlotsIn host disk oracle state.storageRoot with
      | none => ({ state with disk := disk }, false)
      | some slots => ({ state with disk := disk, slots := slots }, true)

/-! ## Changing a PIN -/

/-- File of the PIN of a role. -/
def pinFile : UserType → Bytes
  | .so => soPinFile
  | .user => userPinFile

/-- The file the PIN of a role is stored in. -/
def Slot.pinPath (slot : Slot) (role : UserType) : Path := slot.directory.child (pinFile role)

/-- The file that is written before it replaces the one of the PIN. -/
def Slot.pinTemporary (slot : Slot) (role : UserType) : Path :=
  (slot.pinPath role).extend (ascii ".tmp")

/-- The slot with the PIN of a role. -/
def Slot.withPin (slot : Slot) (role : UserType) (value : Bytes) : Slot :=
  match role with
  | .so => { slot with soPin := some value }
  | .user => { slot with userPin := some value }

/-- The PIN in memory changes only after the file was replaced. -/
def storePin (disk : FileSystem) (oracle : Oracle) (slot : Slot) (userType : UserType)
    (pin : Buffer) : FileSystem × Except Rv Slot :=
  match validatePin pin with
  | .error code => (disk, .error code)
  | .ok _ =>
      let value := pin.content
      let temporary := slot.pinTemporary userType
      if oracle.statFails temporary || disk.hasPath temporary then (disk, .error .deviceError)
      else
        match disk.publish oracle temporary (slot.pinPath userType) value true with
        | (disk, true) => (disk, .ok (slot.withPin userType value))
        | (disk, false) => (disk, .error .deviceError)

end HsmSimulator
