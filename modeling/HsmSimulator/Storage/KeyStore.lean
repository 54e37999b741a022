import HsmSimulator.Core.Access
import HsmSimulator.Crypto.Mechanisms
import HsmSimulator.Storage.Metadata
import HsmSimulator.Storage.Slots

/-!
# Key files

Asymmetric keys are PKCS#12 containers and symmetric keys hexadecimal text, one
file a key in two directories of the slot.  Loading builds the object registry
from the files; saving creates a key file and its metadata file for objects that
are new.
-/

namespace HsmSimulator

def objectIdForFilename (host : Host) (filename : Bytes) : Option Bytes :=
  host.openSsl.sha256 filename

/-- Records of the token objects of a key file, in the order of the object table:
of two objects with one class the first gives the record. -/
def collectMetadata (oracle : Oracle) (objects : OrderedMap Nat Object) (path : Path)
    (replacement : Option Object) : Metadata.Records :=
  let stored := objects.filter fun _ object => object.ownerSession = 0 && object.path = path
  (oracle.tableOrder.reorder stored.keys).foldl
    (fun records handle =>
      match stored.get? handle with
      | none => records
      | some found =>
          let object := match replacement with
            | some changed => if changed.handle = handle then changed else found
            | none => found
          records.emplace object.objectClass ⟨object.label, object.id, object.policy⟩)
    ∅

/-- Publish the metadata of a key file this operation created, or withdraw the key. -/
def persistMetadata (state : State) (oracle : Oracle) (path : Path) : State × Rv :=
  let (disk, published) :=
    Metadata.create state.disk oracle path (collectMetadata oracle state.objects path none) false
  if published then ({ state with disk := disk }, .ok)
  else
    ({ state with
        disk := (disk.remove oracle path).1
        objects := state.objects.eraseIf fun _ object => object.path = path },
      .deviceError)

def publicKeyOnly (oracle : Oracle) (privateKey : EvpKey) : Option EvpKey :=
  oracle.publicHalf privateKey

/-- Insert an object under the next handle. -/
def State.register (state : State) (object : Object) : State :=
  { state with
    nextObjectHandle := state.nextObjectHandle + 1
    objects := state.objects.emplace state.nextObjectHandle
      { object with handle := state.nextObjectHandle } }

def pairPrivateObject (host : Host) (slotId : Nat) (label id : Bytes) (path : Path)
    (privateKey : EvpKey) : Object :=
  { Object.initial with
    slotId := slotId
    objectClass := ckoPrivateKey
    keyType := keyType host.openSsl privateKey
    label := label
    id := id
    path := path
    algorithmName := keyAlgorithmName host.openSsl privateKey
    asymmetricKey := some privateKey }

def pairPublicObject (host : Host) (slotId : Nat) (label id : Bytes) (path : Path)
    (privateKey publicKey : EvpKey) : Object :=
  { pairPrivateObject host slotId label id path privateKey with
    objectClass := ckoPublicKey
    asymmetricKey := some publicKey }

def certificateObject (slotId : Nat) (label id : Bytes) (path : Path) (der : Bytes) : Object :=
  { Object.initial with
    slotId := slotId
    objectClass := ckoCertificate
    label := label
    id := id
    path := path
    certificateDer := der }

/-- Register the objects of a key file.  The flag is false where the digest of the
file name threw, which is before any of them. -/
def registerKeyPair (host : Host) (oracle : Oracle) (state : State) (slotId : Nat)
    (label : Bytes) (path : Path) (privateKey : EvpKey) (certificate : Option Bytes) :
    State × Bool :=
  match objectIdForFilename host path.filename with
  | none => (state, false)
  | some id =>
      let state := state.register (pairPrivateObject host slotId label id path privateKey)
      let state := match publicKeyOnly oracle privateKey with
        | some publicKey =>
            state.register (pairPublicObject host slotId label id path privateKey publicKey)
        | none => state
      let state := match certificate with
        | some der => state.register (certificateObject slotId label id path der)
        | none => state
      (state, true)

/-! ## Loading -/

/-- Load the files of a listing until one of them throws. -/
def loadFiles (load : State → Path → State × Bool) : State → List Path → State × Bool
  | state, [] => (state, true)
  | state, path :: rest =>
      match load state path with
      | (next, true) => loadFiles load next rest
      | (next, false) => (next, false)

/-- Content of a file that is opened for reading. -/
def FileSystem.opened (disk : FileSystem) (oracle : Oracle) (path : Path) : Option Bytes :=
  if oracle.readFails path then none else disk.content path

def loadAsymmetricFile (host : Host) (oracle : Oracle) (slot : Slot) (state : State)
    (path : Path) : State × Bool :=
  let extension := Path.extension path.filename
  if extension ≠ ascii ".p12" ∧ extension ≠ ascii ".pfx" then (state, true)
  else
    match state.disk.opened oracle path with
    | none => (state, true)
    | some der =>
        if der = [] then (state, true)
        else
          match host.openSsl.parsePkcs12 (cString slot.p12Password) der with
          | none => (state, true)
          | some (privateKey, certificate) =>
              registerKeyPair host oracle state slot.id (Path.stem path.filename) path privateKey
                certificate

def secretObject (slotId : Nat) (label id : Bytes) (path : Path) (value : Bytes) : Object :=
  { Object.initial with
    slotId := slotId
    objectClass := ckoSecretKey
    keyType := ckkAes
    label := label
    id := id
    path := path
    secretValue := value }

/-- The handle is taken before the digest of the file name, which may throw. -/
def loadSymmetricFile (host : Host) (oracle : Oracle) (slotId : Nat) (state : State)
    (path : Path) : State × Bool :=
  if Path.extension path.filename ≠ ascii ".key" then (state, true)
  else
    let bytes := decodeHex ((state.disk.opened oracle path).getD [])
    if bytes = [] then (state, true)
    else
      match objectIdForFilename host path.filename with
      | none => ({ state with nextObjectHandle := state.nextObjectHandle + 1 }, false)
      | some id =>
          (state.register (secretObject slotId (Path.stem path.filename) id path bytes), true)

/-- Load the files of a directory after creating it. -/
def loadDirectory (load : State → Path → State × Bool) (oracle : Oracle) (state : State)
    (directory : Path) : State × Bool :=
  if oracle.listingFails directory then (state, false)
  else loadFiles load state (oracle.listing.reorder (state.disk.regularFiles directory))

def loadSlot (host : Host) (oracle : Oracle) (state : State) (slot : Slot) : State × Bool :=
  let asymmetric := slot.directory.child asymmetricDirectory
  let symmetric := slot.directory.child symmetricDirectory
  match state.disk.createDirectories oracle asymmetric with
  | none => (state, false)
  | some disk =>
      match disk.createDirectories oracle symmetric with
      | none => ({ state with disk := disk }, false)
      | some disk =>
          match loadDirectory (loadAsymmetricFile host oracle slot) oracle
              { state with disk := disk } asymmetric with
          | (next, false) => (next, false)
          | (next, true) => loadDirectory (loadSymmetricFile host oracle slot.id) oracle next
              symmetric

def loadSlots (host : Host) (oracle : Oracle) : State → List Slot → State × Bool
  | state, [] => (state, true)
  | state, slot :: rest =>
      match loadSlot host oracle state slot with
      | (next, true) => loadSlots host oracle next rest
      | (next, false) => (next, false)

/-- An object with the label, the id and the policies of its metadata record. -/
def Object.withMetadata (object : Object) (records : Metadata.Records) : Object :=
  match records.get? object.objectClass with
  | some record =>
      { object with label := record.label, id := record.id, policy := record.policy }
  | none => object

/-- Where a metadata file is not readable the whole load is given up, whatever was
updated before. -/
def loadObjectMetadata (oracle : Oracle) (state : State) : State × Bool :=
  if state.objects.values.any
      fun object => (Metadata.read state.disk oracle object.path).isNone then (state, false)
  else
    ({ state with objects := state.objects.mapValues fun object =>
        object.withMetadata ((Metadata.read state.disk oracle object.path).getD ∅) },
      true)

def loadTokenObjects (host : Host) (oracle : Oracle) (state : State) : State × Bool :=
  match loadSlots host oracle { state with objects := ∅, nextObjectHandle := 1 }
      state.slots.values with
  | (loaded, false) => (loaded, false)
  | (loaded, true) => loadObjectMetadata oracle loaded

/-! ## Saving -/

/-- The stream is tested after writing; it is closed by its destructor. -/
def saveSecretKey (disk : FileSystem) (oracle : Oracle) (path : Path) (secretValue : Bytes) :
    FileSystem × Rv :=
  if oracle.statFails path then (disk, Exception.filesystemError.code)
  else if disk.hasPath path then (disk, .templateInconsistent)
  else
    let stream := streamResult (oracle.writeResult path) (encodeHex secretValue ++ [10])
    (disk.afterStream path stream, if stream.goodAfterWrite then .ok else .deviceError)

/-- The stream is tested after closing. -/
def saveKeyPair (disk : FileSystem) (oracle : Oracle) (slot : Slot) (path : Path) (key : EvpKey)
    (label : Bytes) : FileSystem × Rv :=
  if oracle.statFails path then (disk, Exception.filesystemError.code)
  else if disk.hasPath path then (disk, .templateInconsistent)
  else
    match oracle.createPkcs12 (cString slot.p12Password) (cString label) key with
    | none => (disk, .deviceError)
    | some der =>
        if der = [] then (disk, .deviceError)
        else
          let stream := streamResult (oracle.writeResult path) der
          (disk.afterStream path stream, if stream.goodAfterClose then .ok else .deviceError)

end HsmSimulator
