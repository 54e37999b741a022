import HsmSimulator.Core.Paths
import HsmSimulator.Pkcs11.EntryPoints

/-!
# Files are not read while the module is open

An open module asks which files there are, writes files and removes them, but only
`C_Initialize` reads them.  So with other contents in the same files every other call gives
the same response, and leaves the same files.
-/

namespace HsmSimulator

/-- The same files and directories, whatever the files contain. -/
structure SamePresence (left right : FileSystem) : Prop where
  files : ∀ path, (left.content path).isSome = (right.content path).isSome
  directories : left.directories = right.directories

/-- A file operation comes out the same on two disks, and leaves the same files there. -/
structure SameReport {ρ : Type} (left right : FileSystem × ρ) : Prop where
  files : SamePresence left.1 right.1
  outcome : right.2 = left.2

theorem SameReport.cases {ρ : Type} {left right : FileSystem × ρ} (same : SameReport left right) :
    ∃ first second outcome, left = (first, outcome) ∧ right = (second, outcome) ∧
      SamePresence first second :=
  ⟨left.1, right.1, left.2, rfl, Prod.ext rfl same.outcome, same.files⟩

/-- The state with another disk. -/
def State.withDisk (state : State) (disk : FileSystem) : State :=
  { state with disk := disk }

/-- Two results of an operation that differ in the contents of files only. -/
structure SameButContents {ρ : Type} (first second : State × ρ) : Prop where
  frame : second = (first.1.withDisk second.1.disk, first.2)
  files : SamePresence first.1.disk second.1.disk

section

variable (state : State) (disk : FileSystem)

@[simp]
theorem disk_withDisk : (state.withDisk disk).disk = disk :=
  rfl

@[simp]
theorem objects_withDisk : (state.withDisk disk).objects = state.objects :=
  rfl

@[simp]
theorem findSession_withDisk (sessionHandle : Nat) :
    (state.withDisk disk).findSession sessionHandle = state.findSession sessionHandle :=
  rfl

end

/-! ## File operations -/

namespace SamePresence

open FileSystem

variable {left right : FileSystem} (same : SamePresence left right) (oracle : Oracle)

include same

omit same in
theorem of_keys (files : left.files.keys = right.files.keys)
    (directories : left.directories = right.directories) : SamePresence left right := by
  refine ⟨fun path => ?_, directories⟩
  rw [Bool.eq_iff_iff, FileSystem.content, FileSystem.content, Option.isSome_iff_exists,
    Option.isSome_iff_exists, ← OrderedMap.mem_keys_iff, ← OrderedMap.mem_keys_iff, files]

theorem hasPath (path : Path) : right.hasPath path = left.hasPath path := by
  have present : (left.files.get? path).isSome = (right.files.get? path).isSome := same.files path
  rw [FileSystem.hasPath, FileSystem.hasPath, present, same.directories]

theorem writeFile (path : Path) (bytes : Bytes) :
    SamePresence (left.writeFile path bytes) (right.writeFile path bytes) := by
  refine ⟨fun other => ?_, same.directories⟩
  rw [content_writeFile, content_writeFile]
  split
  · rfl
  · exact same.files other

theorem removeFile (path : Path) : SamePresence (left.removeFile path) (right.removeFile path) := by
  refine ⟨fun other => ?_, same.directories⟩
  rw [content_removeFile, content_removeFile]
  split
  · rfl
  · exact same.files other

theorem remove (path : Path) : SameReport (left.remove oracle path) (right.remove oracle path) := by
  unfold FileSystem.remove
  split
  · exact ⟨same, rfl⟩
  · exact ⟨same.removeFile path, rfl⟩

theorem afterStream (path : Path) (stream : StreamResult) :
    SamePresence (left.afterStream path stream) (right.afterStream path stream) := by
  unfold FileSystem.afterStream
  split
  · exact same.writeFile path _
  · exact same

theorem publish (temporary file : Path) (data : Bytes) (complete : Bool) :
    SameReport (left.publish oracle temporary file data complete)
      (right.publish oracle temporary file data complete) := by
  have output := same.afterStream temporary (streamResult (oracle.writeResult temporary) data)
  unfold FileSystem.publish
  dsimp only
  split
  · exact ⟨(output.removeFile temporary).writeFile file data, rfl⟩
  · exact ⟨(output.remove oracle temporary).files, rfl⟩

theorem create (key : Path) (records : Metadata.Records) (replace : Bool) :
    SameReport (Metadata.create left oracle key records replace)
      (Metadata.create right oracle key records replace) := by
  unfold Metadata.create
  dsimp only
  rw [same.hasPath, same.hasPath]
  split
  · exact ⟨same, rfl⟩
  · exact same.publish oracle _ _ _ _

theorem saveSecretKey (path : Path) (secretValue : Bytes) :
    SameReport (HsmSimulator.saveSecretKey left oracle path secretValue)
      (HsmSimulator.saveSecretKey right oracle path secretValue) := by
  unfold HsmSimulator.saveSecretKey
  rw [same.hasPath]
  split
  · exact ⟨same, rfl⟩
  · split
    · exact ⟨same, rfl⟩
    · exact ⟨same.afterStream path _, rfl⟩

theorem saveKeyPair (slot : Slot) (path : Path) (key : EvpKey) (label : Bytes) :
    SameReport (HsmSimulator.saveKeyPair left oracle slot path key label)
      (HsmSimulator.saveKeyPair right oracle slot path key label) := by
  unfold HsmSimulator.saveKeyPair
  rw [same.hasPath]
  split
  · exact ⟨same, rfl⟩
  · split
    · exact ⟨same, rfl⟩
    · split
      · exact ⟨same, rfl⟩
      · split
        · exact ⟨same, rfl⟩
        · exact ⟨same.afterStream path _, rfl⟩

theorem storePin (slot : Slot) (userType : UserType) (pin : Buffer) :
    SameReport (HsmSimulator.storePin left oracle slot userType pin)
      (HsmSimulator.storePin right oracle slot userType pin) := by
  unfold HsmSimulator.storePin
  split
  · exact ⟨same, rfl⟩
  · dsimp only
    rw [same.hasPath]
    split
    · exact ⟨same, rfl⟩
    · obtain ⟨first, second, published, isLeft, isRight, files⟩ :=
        (same.publish oracle (slot.pinTemporary userType) (slot.pinPath userType) pin.content
          true).cases
      rw [isLeft, isRight]
      cases published with
      | true => exact ⟨files, rfl⟩
      | false => exact ⟨files, rfl⟩

end SamePresence

/-! ## Calls -/

section

variable {host : Host} {oracle : Oracle} {state : State} {disk : FileSystem}

/-- An operation that neither asks for files nor changes any. -/
theorem SameButContents.kept {ρ : Type} (files : SamePresence state.disk disk) {first : State × ρ}
    (same : first.1.disk = state.disk) :
    SameButContents first (first.1.withDisk disk, first.2) := by
  refine ⟨rfl, ?_⟩
  rw [same]
  exact files

theorem setAttributeValue_contents (files : SamePresence state.disk disk)
    (sessionHandle handle : Nat) (attributes : Template) :
    SameButContents (setAttributeValue state oracle sessionHandle handle attributes)
      (setAttributeValue (state.withDisk disk) oracle sessionHandle handle attributes) := by
  have same : changedObject (state.withDisk disk) sessionHandle handle attributes =
      changedObject state sessionHandle handle attributes := rfl
  unfold setAttributeValue
  rw [same]
  split
  · exact .kept files rfl
  · rename_i changed _
    split
    · obtain ⟨first, second, published, isLeft, isRight, created⟩ :=
        (files.create oracle changed.path
          (collectMetadata oracle state.objects changed.path (some changed)) true).cases
      dsimp only
      rw [disk_withDisk, objects_withDisk, isLeft, isRight]
      cases published with
      | true => exact ⟨rfl, created⟩
      | false => exact ⟨rfl, created⟩
    · exact .kept files rfl

theorem destroyObject_contents (files : SamePresence state.disk disk)
    (sessionHandle handle : Nat) :
    SameButContents (destroyObject state oracle sessionHandle handle)
      (destroyObject (state.withDisk disk) oracle sessionHandle handle) := by
  have same : destroyableObject (state.withDisk disk) sessionHandle handle =
      destroyableObject state sessionHandle handle := rfl
  unfold destroyObject
  rw [same]
  split
  · exact .kept files rfl
  · rename_i object _
    split
    · obtain ⟨first, second, failed, isLeft, isRight, removed⟩ :=
        (files.remove oracle object.path).cases
      unfold destroyKeyFile
      rw [disk_withDisk, isLeft, isRight]
      cases failed with
      | true => exact ⟨rfl, removed⟩
      | false =>
          obtain ⟨third, fourth, metadataFailed, isThird, isFourth, emptied⟩ :=
            (removed.remove oracle (Metadata.path object.path)).cases
          dsimp only
          rw [isThird, isFourth]
          exact ⟨rfl, emptied⟩
    · exact .kept files rfl

theorem changePin_contents (files : SamePresence state.disk disk) (slotId : Nat) (slot : Slot)
    (userType : UserType) (pin : Buffer) :
    SameButContents (changePin state oracle slotId slot userType pin)
      (changePin (state.withDisk disk) oracle slotId slot userType pin) := by
  obtain ⟨first, second, stored, isLeft, isRight, changed⟩ :=
    (files.storePin oracle slot userType pin).cases
  unfold changePin
  rw [disk_withDisk, isLeft, isRight]
  cases stored with
  | ok slot => exact ⟨rfl, changed⟩
  | error code => exact ⟨rfl, changed⟩

/-! ## Creations -/

theorem publishKey_contents (files : SamePresence state.disk disk) (path : Path)
    (output : Output) :
    SameButContents (publishKey state oracle path output)
      (publishKey (state.withDisk disk) oracle path output) := by
  obtain ⟨first, second, published, isLeft, isRight, created⟩ :=
    (files.create oracle path (collectMetadata oracle state.objects path none) false).cases
  unfold publishKey persistMetadata
  rw [disk_withDisk, objects_withDisk, isLeft, isRight]
  cases published with
  | true => exact ⟨rfl, created⟩
  | false => exact ⟨rfl, (created.remove oracle path).files⟩

theorem storeSecretKey_contents (files : SamePresence state.disk disk) (object : Object)
    (token : Bool) :
    SameButContents (storeSecretKey oracle state object token)
      (storeSecretKey oracle (state.withDisk disk) object token) := by
  obtain ⟨first, second, code, isLeft, isRight, saved⟩ :=
    (files.saveSecretKey oracle object.path object.secretValue).cases
  unfold storeSecretKey
  rw [disk_withDisk, objects_withDisk, isLeft, isRight]
  cases token with
  | false => exact ⟨rfl, files⟩
  | true =>
      rw [if_pos rfl, if_pos rfl]
      cases code with
      | ok =>
          exact @publishKey_contents oracle
            { state with disk := first, objects := state.objects.emplace object.handle object }
            second saved object.path (.handle object.handle)
      | _ => exact ⟨rfl, saved⟩

/-- Registering a pair does not look at the disk, and does not touch it. -/
theorem registerKeyPair_contents (files : SamePresence state.disk disk) (slotId : Nat)
    (label : Bytes) (path : Path) (key : EvpKey) :
    SameButContents (registerKeyPair host oracle state slotId label path key none)
      (registerKeyPair host oracle (state.withDisk disk) slotId label path key none) := by
  unfold registerKeyPair
  split
  · exact .kept files rfl
  · split
    · exact .kept files rfl
    · exact .kept files rfl

theorem finishKeyPair_contents (files : SamePresence state.disk disk) (handle : Nat)
    (request : PairRequest) (output : Output) :
    SameButContents (finishKeyPair oracle state handle request output)
      (finishKeyPair oracle (state.withDisk disk) handle request output) := by
  unfold finishKeyPair
  rw [objects_withDisk]
  split
  · exact .kept files rfl
  · dsimp only
    split
    · exact ⟨rfl, files⟩
    · rename_i privateObject _ _ publicObject _
      have published := @publishKey_contents oracle
        { state with
          objects := (state.objects.insert handle (request.patchPrivate privateObject.id
            privateObject)).insert (handle + 1)
              (request.patchPublic privateObject.id publicObject) }
        disk files request.path output
      split
      · exact published
      · exact ⟨rfl, files⟩

theorem storeKeyPair_contents (files : SamePresence state.disk disk) (request : PairRequest)
    (output : Nat → Output) :
    SameButContents (storeKeyPair host oracle state request output)
      (storeKeyPair host oracle (state.withDisk disk) request output) := by
  have saving : SameReport
      (if request.token then
        saveKeyPair state.disk oracle request.slot request.path request.key request.label
      else (state.disk, .ok))
      (if request.token then
        saveKeyPair disk oracle request.slot request.path request.key request.label
      else (disk, .ok)) := by
    split
    · exact files.saveKeyPair oracle _ _ _ _
    · exact ⟨files, rfl⟩
  obtain ⟨first, second, code, isLeft, isRight, saved⟩ := saving.cases
  unfold storeKeyPair
  rw [disk_withDisk, isLeft, isRight]
  cases code with
  | ok =>
      have registered := @registerKeyPair_contents host oracle { state with disk := first } second
        saved request.slot.id request.label request.path request.key
      dsimp only
      rw [show ({ state.withDisk disk with disk := second } : State) =
        ({ state with disk := first } : State).withDisk second from rfl, registered.frame]
      generalize registerKeyPair host oracle
        (({ state with disk := first } : State).withDisk second) request.slot.id request.label
        request.path request.key none = other at registered ⊢
      generalize registerKeyPair host oracle { state with disk := first } request.slot.id
        request.label request.path request.key none = result at registered ⊢
      obtain ⟨next, flag⟩ := result
      cases flag with
      | true => exact finishKeyPair_contents registered.files _ request _
      | false => exact ⟨rfl, registered.files⟩
  | _ => exact ⟨rfl, saved⟩

theorem generateKey_contents (files : SamePresence state.disk disk) (sessionHandle : Nat)
    (mechanism : Option Mechanism) (attributes : Template) (hasHandle : Bool) :
    SameButContents (generateKey oracle state sessionHandle mechanism attributes hasHandle)
      (generateKey oracle (state.withDisk disk) sessionHandle mechanism attributes hasHandle) := by
  have sameLength : generatedKeyLength (state.withDisk disk) sessionHandle mechanism attributes
      hasHandle = generatedKeyLength state sessionHandle mechanism attributes hasHandle := rfl
  unfold generateKey
  rw [sameLength]
  split
  · exact .kept files rfl
  · rename_i keyLength _
    have sameObject : generatedKey oracle (state.withDisk disk) sessionHandle attributes
        keyLength = generatedKey oracle state sessionHandle attributes keyLength := rfl
    rw [sameObject]
    split
    · exact .kept files rfl
    · rename_i object _
      exact @storeSecretKey_contents oracle state.takeHandle disk files object _

theorem generateKeyPair_contents (files : SamePresence state.disk disk) (sessionHandle : Nat)
    (mechanism : Option Mechanism) (publicTemplate privateTemplate : Template)
    (hasHandles : Bool) :
    SameButContents
      (generateKeyPair host oracle state sessionHandle mechanism publicTemplate privateTemplate
        hasHandles)
      (generateKeyPair host oracle (state.withDisk disk) sessionHandle mechanism publicTemplate
        privateTemplate hasHandles) := by
  have same : generatedPair oracle (state.withDisk disk) sessionHandle mechanism publicTemplate
      privateTemplate hasHandles = generatedPair oracle state sessionHandle mechanism
        publicTemplate privateTemplate hasHandles := rfl
  unfold generateKeyPair
  rw [same]
  split
  · exact .kept files rfl
  · exact storeKeyPair_contents files _ _

theorem unwrapKey_contents (files : SamePresence state.disk disk) (sessionHandle : Nat)
    (mechanism : Option Mechanism) (wrappingHandle : Nat) (input : Buffer)
    (attributes : Template) (hasHandle : Bool) :
    SameButContents
      (unwrapKey host oracle state sessionHandle mechanism wrappingHandle input attributes
        hasHandle)
      (unwrapKey host oracle (state.withDisk disk) sessionHandle mechanism wrappingHandle input
        attributes hasHandle) := by
  have same : unwrappedBytes host oracle (state.withDisk disk) sessionHandle mechanism
      wrappingHandle input attributes hasHandle = unwrappedBytes host oracle state sessionHandle
        mechanism wrappingHandle input attributes hasHandle := rfl
  unfold unwrapKey
  rw [same]
  split
  · exact .kept files rfl
  · rename_i raw _
    dsimp only
    split
    · split
      · exact .kept files rfl
      · have sameSecret : unwrappedSecret (state.withDisk disk) sessionHandle attributes
            (templateString attributes ckaLabel (ascii "unwrapped-key")) raw =
            unwrappedSecret state sessionHandle attributes
              (templateString attributes ckaLabel (ascii "unwrapped-key")) raw := rfl
        rw [sameSecret]
        split
        · exact .kept files rfl
        · rename_i object _
          exact @storeSecretKey_contents oracle state.takeHandle disk files object _
    · split
      · exact .kept files rfl
      · have samePair : unwrappedPair host (state.withDisk disk) sessionHandle attributes
            (templateString attributes ckaLabel (ascii "unwrapped-key")) raw =
            unwrappedPair host state sessionHandle attributes
              (templateString attributes ckaLabel (ascii "unwrapped-key")) raw := rfl
        rw [samePair]
        split
        · exact .kept files rfl
        · exact storeKeyPair_contents files _ _

theorem deriveKey_contents (files : SamePresence state.disk disk) (sessionHandle : Nat)
    (mechanism : Option Mechanism) (baseKey : Nat) (attributes : Template) (hasHandle : Bool) :
    SameButContents
      (deriveKey host oracle state sessionHandle mechanism baseKey attributes hasHandle)
      (deriveKey host oracle (state.withDisk disk) sessionHandle mechanism baseKey attributes
        hasHandle) := by
  have same : derivation host oracle (state.withDisk disk) sessionHandle mechanism baseKey
      attributes hasHandle = derivation host oracle state sessionHandle mechanism baseKey
        attributes hasHandle := rfl
  unfold deriveKey
  rw [same]
  split
  · exact .kept files rfl
  · rename_i session slot value _
    exact @storeSecretKey_contents oracle state.takeHandle disk files
      (derivedObject state sessionHandle session slot attributes value) _

/-! ## Sessions, searches and signatures -/

theorem openSession_contents (files : SamePresence state.disk disk) (slotId flags : Nat)
    (hasHandle : Bool) :
    SameButContents (openSession state slotId flags hasHandle)
      (openSession (state.withDisk disk) slotId flags hasHandle) := by
  have same : openSessionChecks (state.withDisk disk) slotId flags hasHandle =
      openSessionChecks state slotId flags hasHandle := rfl
  unfold openSession
  rw [same]
  split
  · exact .kept files rfl
  · exact .kept files rfl

theorem closeSession_contents (files : SamePresence state.disk disk) (sessionHandle : Nat) :
    SameButContents (closeSession state sessionHandle)
      (closeSession (state.withDisk disk) sessionHandle) := by
  unfold closeSession
  rw [findSession_withDisk]
  split
  · exact .kept files rfl
  · rename_i session _
    have sameSessions :
        ((state.withDisk disk).dropSession sessionHandle).hasSession session.slotId =
          (state.dropSession sessionHandle).hasSession session.slotId := rfl
    have sameSlot : ((state.withDisk disk).dropSession sessionHandle).findSlot session.slotId =
        (state.dropSession sessionHandle).findSlot session.slotId := rfl
    dsimp only
    rw [sameSessions, sameSlot]
    split
    · exact .kept files rfl
    · split
      · exact .kept files rfl
      · exact .kept files rfl

theorem closeAllSessions_contents (files : SamePresence state.disk disk) (slotId : Nat) :
    SameButContents (closeAllSessions state slotId)
      (closeAllSessions (state.withDisk disk) slotId) := by
  have same : (state.withDisk disk).findSlot slotId = state.findSlot slotId := rfl
  unfold closeAllSessions
  rw [same]
  split
  · exact .kept files rfl
  · exact .kept files rfl

theorem initPin_contents (files : SamePresence state.disk disk) (sessionHandle : Nat)
    (pin : Buffer) :
    SameButContents (initPin state oracle sessionHandle pin)
      (initPin (state.withDisk disk) oracle sessionHandle pin) := by
  have same : initPinChecks (state.withDisk disk) sessionHandle =
      initPinChecks state sessionHandle := rfl
  unfold initPin
  rw [same]
  split
  · exact .kept files rfl
  · exact changePin_contents files _ _ _ _

theorem setPin_contents (files : SamePresence state.disk disk) (sessionHandle : Nat)
    (oldPin newPin : Buffer) :
    SameButContents (setPin state oracle sessionHandle oldPin newPin)
      (setPin (state.withDisk disk) oracle sessionHandle oldPin newPin) := by
  have same : setPinChecks (state.withDisk disk) sessionHandle oldPin newPin =
      setPinChecks state sessionHandle oldPin newPin := rfl
  unfold setPin
  rw [same]
  split
  · exact .kept files rfl
  · exact changePin_contents files _ _ _ _

theorem login_contents (files : SamePresence state.disk disk) (sessionHandle userType : Nat)
    (pin : Buffer) :
    SameButContents (login state sessionHandle userType pin)
      (login (state.withDisk disk) sessionHandle userType pin) := by
  have same : loginChecks (state.withDisk disk) sessionHandle userType pin =
      loginChecks state sessionHandle userType pin := rfl
  unfold login
  rw [same]
  split
  · exact .kept files rfl
  · exact .kept files rfl

theorem logout_contents (files : SamePresence state.disk disk) (sessionHandle : Nat) :
    SameButContents (logout state sessionHandle)
      (logout (state.withDisk disk) sessionHandle) := by
  have sameSlot : (state.withDisk disk).sessionSlot sessionHandle =
      state.sessionSlot sessionHandle := rfl
  unfold logout
  rw [findSession_withDisk, sameSlot]
  split
  · exact .kept files rfl
  · exact .kept files rfl

theorem findObjectsInit_contents (files : SamePresence state.disk disk) (sessionHandle : Nat)
    (attributes : Template) :
    SameButContents (findObjectsInit host state sessionHandle attributes)
      (findObjectsInit host (state.withDisk disk) sessionHandle attributes) := by
  have same : searchingSession (state.withDisk disk) sessionHandle attributes =
      searchingSession state sessionHandle attributes := rfl
  unfold findObjectsInit
  rw [same]
  split
  · exact .kept files rfl
  · exact .kept files rfl

theorem findObjects_contents (files : SamePresence state.disk disk) (sessionHandle : Nat)
    (hasOutput : Bool) (capacity : Nat) (hasCount : Bool) :
    SameButContents (findObjects state sessionHandle hasOutput capacity hasCount)
      (findObjects (state.withDisk disk) sessionHandle hasOutput capacity hasCount) := by
  unfold findObjects
  rw [findSession_withDisk]
  split
  · exact .kept files rfl
  · exact .kept files rfl

theorem findObjectsFinal_contents (files : SamePresence state.disk disk) (sessionHandle : Nat) :
    SameButContents (findObjectsFinal state sessionHandle)
      (findObjectsFinal (state.withDisk disk) sessionHandle) := by
  unfold findObjectsFinal
  rw [findSession_withDisk]
  split
  · exact .kept files rfl
  · exact .kept files rfl

theorem initializeSignature_contents (files : SamePresence state.disk disk)
    (sessionHandle : Nat) (mechanism : Option Mechanism) (keyHandle : Nat) (verify : Bool) :
    SameButContents (initializeSignature host state sessionHandle mechanism keyHandle verify)
      (initializeSignature host (state.withDisk disk) sessionHandle mechanism keyHandle
        verify) := by
  have same : signatureOperation host (state.withDisk disk) sessionHandle mechanism keyHandle
      verify = signatureOperation host state sessionHandle mechanism keyHandle verify := rfl
  unfold initializeSignature
  rw [same]
  split
  · exact .kept files rfl
  · exact .kept files rfl

theorem completeSign_contents (files : SamePresence state.disk disk) (sessionHandle : Nat)
    (session : Session) (data : Bytes) (signature : OutputBuffer) :
    SameButContents (completeSign host oracle state sessionHandle session data signature)
      (completeSign host oracle (state.withDisk disk) sessionHandle session data signature) := by
  have same : executeSign host oracle (state.withDisk disk) sessionHandle session.operation data
      signature = executeSign host oracle state sessionHandle session.operation data signature :=
    rfl
  unfold completeSign
  rw [same]
  dsimp only
  split
  · exact .kept files rfl
  · exact .kept files rfl

theorem sign_contents (files : SamePresence state.disk disk) (sessionHandle : Nat)
    (data : Buffer) (signature : OutputBuffer) (hasLength : Bool) :
    SameButContents (sign host oracle state sessionHandle data signature hasLength)
      (sign host oracle (state.withDisk disk) sessionHandle data signature hasLength) := by
  have same : signingSession (state.withDisk disk) sessionHandle false =
      signingSession state sessionHandle false := rfl
  unfold sign
  rw [same]
  split
  · exact .kept files rfl
  · exact completeSign_contents files _ _ _ _

theorem signFinal_contents (files : SamePresence state.disk disk) (sessionHandle : Nat)
    (signature : OutputBuffer) (hasLength : Bool) :
    SameButContents (signFinal host oracle state sessionHandle signature hasLength)
      (signFinal host oracle (state.withDisk disk) sessionHandle signature hasLength) := by
  have same : signingSession (state.withDisk disk) sessionHandle false =
      signingSession state sessionHandle false := rfl
  unfold signFinal
  rw [same]
  split
  · exact .kept files rfl
  · exact completeSign_contents files _ _ _ _

theorem appendSignatureData_contents (files : SamePresence state.disk disk)
    (sessionHandle : Nat) (data : Buffer) (verify : Bool) :
    SameButContents (appendSignatureData state sessionHandle data verify)
      (appendSignatureData (state.withDisk disk) sessionHandle data verify) := by
  have same : signingSession (state.withDisk disk) sessionHandle verify =
      signingSession state sessionHandle verify := rfl
  unfold appendSignatureData
  rw [same]
  split
  · exact .kept files rfl
  · split
    · exact .kept files rfl
    · split
      · exact .kept files rfl
      · exact .kept files rfl

theorem verify_contents (files : SamePresence state.disk disk) (sessionHandle : Nat)
    (data signature : Buffer) :
    SameButContents (verify host oracle state sessionHandle data signature)
      (verify host oracle (state.withDisk disk) sessionHandle data signature) := by
  have same : signingSession (state.withDisk disk) sessionHandle true =
      signingSession state sessionHandle true := rfl
  unfold verify
  rw [same]
  split
  · exact .kept files rfl
  · exact .kept files rfl

theorem verifyFinal_contents (files : SamePresence state.disk disk) (sessionHandle : Nat)
    (signature : Buffer) :
    SameButContents (verifyFinal host oracle state sessionHandle signature)
      (verifyFinal host oracle (state.withDisk disk) sessionHandle signature) := by
  have same : signingSession (state.withDisk disk) sessionHandle true =
      signingSession state sessionHandle true := rfl
  unfold verifyFinal
  rw [same]
  split
  · exact .kept files rfl
  · exact .kept files rfl

theorem cFinalize_contents (files : SamePresence state.disk disk) (hasReserved : Bool) :
    SameButContents (cFinalize state hasReserved)
      (cFinalize (state.withDisk disk) hasReserved) := by
  have same : (state.withDisk disk).initialized = state.initialized := rfl
  unfold cFinalize
  rw [same]
  split
  · exact .kept files rfl
  · split
    · exact .kept files rfl
    · exact .kept files rfl

/-! ## All calls -/

/-- A call that does not open the module does not read files. -/
theorem step_contents (files : SamePresence state.disk disk) {call : Call}
    (reads : ∀ hasReserved, call = .cInitialize hasReserved → state.initialized = true) :
    SameButContents (step host state (call, oracle))
      (step host (state.withDisk disk) (call, oracle)) := by
  have same : (state.withDisk disk).initialized = state.initialized := rfl
  unfold step
  rw [same]
  split
  · exact .kept files rfl
  · cases call with
    | cInitialize hasReserved =>
        have isOpen := reads hasReserved rfl
        simp only [service, cInitialize, same, isOpen, if_true]
        exact .kept files rfl
    | cFinalize => exact cFinalize_contents files _
    | openSession => exact openSession_contents files _ _ _
    | closeSession => exact closeSession_contents files _
    | closeAllSessions => exact closeAllSessions_contents files _
    | initPin => exact initPin_contents files _ _
    | setPin => exact setPin_contents files _ _ _
    | login => exact login_contents files _ _ _
    | logout => exact logout_contents files _
    | destroyObject => exact destroyObject_contents files _ _
    | setAttributeValue => exact setAttributeValue_contents files _ _ _
    | findObjectsInit => exact findObjectsInit_contents files _ _
    | findObjects => exact findObjects_contents files _ _ _ _
    | findObjectsFinal => exact findObjectsFinal_contents files _
    | signInit => exact initializeSignature_contents files _ _ _ _
    | sign => exact sign_contents files _ _ _ _
    | signUpdate => exact appendSignatureData_contents files _ _ _
    | signFinal => exact signFinal_contents files _ _ _
    | verifyInit => exact initializeSignature_contents files _ _ _ _
    | verify => exact verify_contents files _ _ _
    | verifyUpdate => exact appendSignatureData_contents files _ _ _
    | verifyFinal => exact verifyFinal_contents files _ _
    | generateKey => exact generateKey_contents files _ _ _ _
    | generateKeyPair => exact generateKeyPair_contents files _ _ _ _ _
    | unwrapKey => exact unwrapKey_contents files _ _ _ _ _ _
    | deriveKey => exact deriveKey_contents files _ _ _ _ _
    | _ => exact .kept files rfl

end

end HsmSimulator
