import HsmSimulator.Crypto.Creation
import HsmSimulator.Storage.Records

/-!
# Storing a key without faults

With free names and a file system without faults a new key is stored, and its objects
are registered.
-/

namespace HsmSimulator

open FileSystem

/-- The answers of a file system without faults. -/
structure Oracle.StorageWorks (oracle : Oracle) : Prop where
  stat : ∀ path, oracle.statFails path = false
  writes : ∀ path, oracle.writeResult path = .complete
  renames : ∀ path, oracle.renameFails path = false

/-- The names of a new key file are free: no file has one, and no token object is of it. -/
structure FreePath (state : State) (path : Path) : Prop where
  key : state.disk.hasPath path = false
  metadata : state.disk.hasPath (Metadata.path path) = false
  temporary : state.disk.hasPath (Metadata.temporaryPath path) = false
  objects : ∀ handle object, ¬FileObject state.objects path handle object

/-- The strings of an object fit into a record. -/
def Object.FitsRecord (object : Object) : Prop :=
  object.label.length ≤ 65536 ∧ object.id.length ≤ 65536

variable {oracle : Oracle} {state : State}

/-! ## Metadata -/

theorem Metadata.create_ok {disk : FileSystem} {key : Path} {records : Metadata.Records}
    (works : oracle.StorageWorks) (file : disk.hasPath (Metadata.path key) = false)
    (temporary : disk.hasPath (Metadata.temporaryPath key) = false)
    (complete : (Metadata.encode records).complete = true) :
    Metadata.create disk oracle key records false =
      (disk.writeFile (Metadata.path key) (Metadata.encode records).bytes, true) := by
  have published : (Metadata.create disk oracle key records false).2 = true := by
    simp [Metadata.create, FileSystem.publish, streamResult, works.stat, works.writes,
      works.renames, file, temporary, complete]
  rcases Metadata.create_cases disk oracle key records false with
    ⟨outcome, _⟩ | unchanged | ⟨left, leftover, _⟩
  · exact outcome
  · rw [unchanged] at published
    contradiction
  · rw [leftover] at published
    contradiction

/-- Records of objects whose strings fit can be written. -/
theorem collectMetadata_complete {objects : OrderedMap Nat Object} {path : Path}
    (fits : ∀ handle object, FileObject objects path handle object → object.FitsRecord) :
    (Metadata.encode (collectMetadata oracle objects path none)).complete = true := by
  rw [Metadata.complete_encode]
  intro cls record stored
  rw [collectMetadata_eq] at stored
  rcases OrderedMap.get?_of_emplaceAll stored with old | listed
  · contradiction
  · rcases mem_recordEntries.mp listed with ⟨handle, object, isObject, _, rfl⟩
    exact fits handle object isObject

theorem hasPath_writeFile_of_ne {disk : FileSystem} {path other : Path} {bytes : Bytes}
    (different : other ≠ path) :
    (disk.writeFile path bytes).hasPath other = disk.hasPath other := by
  simp [FileSystem.hasPath, FileSystem.writeFile, OrderedMap.get?_insert, different]

/-- The metadata of a key that was just saved is published. -/
theorem publishKey_ok {path : Path} {output : Output} (works : oracle.StorageWorks)
    (file : state.disk.hasPath (Metadata.path path) = false)
    (temporary : state.disk.hasPath (Metadata.temporaryPath path) = false)
    (fits : ∀ handle object, FileObject state.objects path handle object → object.FitsRecord) :
    ∃ disk, publishKey state oracle path output =
      ({ state with disk := disk }, .success output) := by
  have complete := @collectMetadata_complete oracle _ _ fits
  unfold publishKey persistMetadata
  rw [Metadata.create_ok works file temporary complete]
  exact ⟨_, rfl⟩

/-! ## Secret keys -/

theorem storeSecretKey_ok {object : Object} (token : Bool) (works : oracle.StorageWorks)
    (fresh : state.FreshHandles) (handle : object.handle = state.nextObjectHandle)
    (free : token = true → object.FitsRecord ∧ FreePath state object.path) :
    ∃ next, storeSecretKey oracle state.takeHandle object token =
        (next, .success (.handle object.handle)) ∧
      next.objects.get? object.handle = some object := by
  have registered : (state.objects.emplace object.handle object).get? object.handle =
      some object := by
    rw [OrderedMap.emplace_of_fresh (fresh _ handle.ge), OrderedMap.get?_insert_self]
  cases token with
  | false => exact ⟨_, rfl, registered⟩
  | true =>
      rcases free rfl with ⟨fits, names⟩
      have saved : saveSecretKey state.disk oracle object.path object.secretValue =
          (state.disk.writeFile object.path (encodeHex object.secretValue ++ [10]), .ok) := by
        simp [saveSecretKey, works.stat, works.writes, names.key, streamResult,
          FileSystem.afterStream]
      unfold storeSecretKey
      simp only [State.takeHandle, saved, if_true]
      have published := @publishKey_ok oracle
        { state with
          nextObjectHandle := state.nextObjectHandle + 1
          disk := state.disk.writeFile object.path (encodeHex object.secretValue ++ [10])
          objects := state.objects.emplace object.handle object }
        object.path (.handle object.handle) works
        (by rw [hasPath_writeFile_of_ne (Metadata.path_ne _), names.metadata])
        (by rw [hasPath_writeFile_of_ne (Metadata.temporaryPath_ne _), names.temporary])
        (by
          intro other stored isObject
          have found := isObject.found
          dsimp only at found
          rw [OrderedMap.emplace_of_fresh (fresh _ handle.ge), OrderedMap.get?_insert] at found
          split at found
          · cases found
            exact fits
          · exact (names.objects other stored ⟨found, isObject.token, isObject.samePath⟩).elim)
      rcases published with ⟨disk, outcome⟩
      exact ⟨_, outcome, registered⟩

/-! ## Key pairs -/

/-- The strings of the objects of a pair fit into records. -/
def PairRequest.FitsRecords (request : PairRequest) (id : Bytes) : Prop :=
  request.label.length ≤ 65536 ∧ (request.privateId id).length ≤ 65536 ∧
    request.publicLabel.length ≤ 65536 ∧ (request.publicId id).length ≤ 65536

theorem storeKeyPair_ok {host : Host} {request : PairRequest} {id : Bytes} {half : EvpKey}
    (output : Nat → Output) (works : oracle.StorageWorks) (fresh : state.FreshHandles)
    (digest : objectIdForFilename host request.path.filename = some id)
    (isHalf : publicKeyOnly oracle request.key = some half)
    (fits : request.token = true → request.FitsRecords id)
    (free : request.token = true → FreePath state request.path ∧
      pairContent oracle request.slot request.label request.key ≠ none) :
    ∃ next object, storeKeyPair host oracle state request output =
        (next, .success (output state.nextObjectHandle)) ∧
      next.objects.get? state.nextObjectHandle = some object ∧
      object.objectClass = ckoPrivateKey ∧ object.asymmetricKey = some request.key := by
  have freshHere := fresh state.nextObjectHandle (Nat.le_refl _)
  have freshNext := fresh (state.nextObjectHandle + 1) (Nat.le_succ _)
  let privateObject : Object :=
    { pairPrivateObject host request.slot.id request.label id request.path request.key with
      handle := state.nextObjectHandle }
  let publicObject : Object :=
    { pairPublicObject host request.slot.id request.label id request.path request.key half with
      handle := state.nextObjectHandle + 1 }
  have registers (disk : FileSystem) : registerKeyPair host oracle { state with disk := disk }
      request.slot.id request.label request.path request.key none =
        ({ state with
            disk := disk
            nextObjectHandle := state.nextObjectHandle + 1 + 1
            objects := (state.objects.emplace state.nextObjectHandle privateObject).emplace
              (state.nextObjectHandle + 1) publicObject }, true) := by
    simp [registerKeyPair, digest, isHalf, State.register, privateObject, publicObject]
  let patched : OrderedMap Nat Object :=
    (((state.objects.emplace state.nextObjectHandle privateObject).emplace
      (state.nextObjectHandle + 1) publicObject).insert state.nextObjectHandle
        (request.patchPrivate id privateObject)).insert (state.nextObjectHandle + 1)
          (request.patchPublic id publicObject)
  have patchedFound : patched.get? state.nextObjectHandle =
      some (request.patchPrivate id privateObject) := by
    simp [patched, OrderedMap.get?_insert]
  have finishes (disk : FileSystem) : finishKeyPair oracle
      { state with
        disk := disk
        nextObjectHandle := state.nextObjectHandle + 1 + 1
        objects := (state.objects.emplace state.nextObjectHandle privateObject).emplace
          (state.nextObjectHandle + 1) publicObject }
      state.nextObjectHandle request (output state.nextObjectHandle) =
        if request.token then
          publishKey { state with
            disk := disk
            nextObjectHandle := state.nextObjectHandle + 1 + 1
            objects := patched } oracle request.path (output state.nextObjectHandle)
        else ({ state with
            disk := disk
            nextObjectHandle := state.nextObjectHandle + 1 + 1
            objects := patched }, .success (output state.nextObjectHandle)) :=
    finishKeyPair_found privateObject publicObject
      (by simp [OrderedMap.get?_emplace, freshHere]) (by simp [OrderedMap.get?_emplace, freshNext])
  unfold storeKeyPair
  cases isToken : request.token with
  | false =>
      simp only [Bool.false_eq_true, if_false, registers, finishes, isToken]
      exact ⟨_, _, rfl, patchedFound, rfl, rfl⟩
  | true =>
      rcases free isToken with ⟨names, container⟩
      rcases Option.ne_none_iff_exists'.mp container with ⟨der, isContainer⟩
      have saved : saveKeyPair state.disk oracle request.slot request.path request.key
          request.label = (state.disk.writeFile request.path der, .ok) := by
        simp only [pairContent, Option.filter_eq_some_iff, decide_eq_true_eq] at isContainer
        simp [saveKeyPair, works.stat, works.writes, names.key, isContainer, streamResult,
          FileSystem.afterStream]
      simp only [if_true, saved, registers, finishes, isToken]
      have published := @publishKey_ok oracle
        { state with
          disk := state.disk.writeFile request.path der
          nextObjectHandle := state.nextObjectHandle + 1 + 1
          objects := patched }
        request.path (output state.nextObjectHandle) works
        (by rw [hasPath_writeFile_of_ne (Metadata.path_ne _), names.metadata])
        (by rw [hasPath_writeFile_of_ne (Metadata.temporaryPath_ne _), names.temporary])
        (by
          intro other stored isObject
          have found := isObject.found
          simp only [patched, insert_emplace_pair, OrderedMap.get?_insert] at found
          split at found
          · cases found
            exact ⟨(fits isToken).2.2.1, (fits isToken).2.2.2⟩
          · split at found
            · cases found
              exact ⟨(fits isToken).1, (fits isToken).2.1⟩
            · exact (names.objects other stored ⟨found, isObject.token, isObject.samePath⟩).elim)
      rcases published with ⟨disk, outcome⟩
      exact ⟨_, _, outcome, patchedFound, rfl, rfl⟩

end HsmSimulator
