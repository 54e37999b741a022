import HsmSimulator.Core.Constants
import HsmSimulator.Library.OrderedMap

/-!
# Runtime state

The in-memory registry of the module (slots, objects, sessions and the two
handle counters) together with the files it works on.  One value of `State` is
the state between two calls: every exported call runs under one mutex.

Handle counters are natural numbers: a 64-bit counter does not wrap in the life
of a process.  `std::map` and `std::unordered_map` are both ordered maps; where
the iteration order of the latter matters it is an answer of the environment.
-/

namespace HsmSimulator

abbrev Bytes := List UInt8

/-- Bytes of an ASCII literal. -/
def ascii (text : String) : Bytes :=
  text.toList.map fun letter => letter.toNat.toUInt8

/-- A path is the list of its components. -/
abbrev Path := List Bytes

instance : Std.TransOrd Path := inferInstance

instance : Std.LawfulEqOrd Path := inferInstance

/-- An `EVP_PKEY`.  What OpenSSL reports about a key is a function of it. -/
structure EvpKey where
  content : Bytes
  deriving DecidableEq, Repr

/-- A slot is discovered at `C_Initialize`.  Login belongs to its token. -/
structure Slot where
  id : Nat
  label : Bytes
  directory : Path
  userPin : Option Bytes
  soPin : Option Bytes
  p12Password : Bytes
  legacyLayout : Bool
  loggedInUser : Option UserType
  deriving DecidableEq

def Slot.requiresLogin (slot : Slot) : Bool :=
  !slot.legacyLayout || slot.userPin.isSome || slot.soPin.isSome

structure Object where
  handle : Nat
  slotId : Nat
  objectClass : Nat
  keyType : Nat
  label : Bytes
  id : Bytes
  path : Path
  algorithmName : Bytes
  secretValue : Bytes
  certificateDer : Bytes
  asymmetricKey : Option EvpKey
  /-- Zero for a persistent token object; otherwise the creating session. -/
  ownerSession : Nat
  policy : OrderedMap Nat Bool
  deriving DecidableEq

/-- A value-initialised `Object`. -/
def Object.initial : Object where
  handle := 0
  slotId := 0
  objectClass := 0
  keyType := 0
  label := []
  id := []
  path := []
  algorithmName := []
  secretValue := []
  certificateDer := []
  asymmetricKey := none
  ownerSession := 0
  policy := ∅

/-- `CK_RSA_PKCS_PSS_PARAMS`. -/
structure PssParams where
  hashAlg : Nat
  mgf : Nat
  sLen : Nat
  deriving DecidableEq, Repr

structure Operation where
  active : Bool
  verify : Bool
  mechanism : Nat
  keyHandle : Nat
  bufferedData : Bytes
  pss : PssParams
  deriving DecidableEq

/-- A value-initialised `Operation`. -/
def Operation.initial : Operation where
  active := false
  verify := false
  mechanism := 0
  keyHandle := 0
  bufferedData := []
  pss := ⟨0, 0, 0⟩

structure Session where
  handle : Nat
  flags : Nat
  slotId : Nat
  searchActive : Bool
  searchMatches : List Nat
  searchOffset : Nat
  operation : Operation
  deriving DecidableEq

/-- `flags & CKF_RW_SESSION`. -/
def Session.isReadWrite (session : Session) : Bool :=
  session.flags &&& ckfRwSession != 0

/-- The files and directories below the storage root. -/
structure FileSystem where
  files : OrderedMap Path Bytes
  directories : OrderedMap Path Unit
  deriving DecidableEq

structure State where
  initialized : Bool
  storageRoot : Path
  nextObjectHandle : Nat
  nextSessionHandle : Nat
  slots : OrderedMap Nat Slot
  objects : OrderedMap Nat Object
  sessions : OrderedMap Nat Session
  disk : FileSystem
  deriving DecidableEq

/-- State of a freshly loaded module over given files. -/
def State.loaded (disk : FileSystem) : State where
  initialized := false
  storageRoot := []
  nextObjectHandle := 1
  nextSessionHandle := 1
  slots := ∅
  objects := ∅
  sessions := ∅
  disk := disk

end HsmSimulator
