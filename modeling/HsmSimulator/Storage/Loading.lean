import HsmSimulator.Core.Paths
import HsmSimulator.Storage.KeyStore

/-!
# What loading finds

The objects a key file holds are a function of the file, and loading registers the
objects of every key file of every slot under successive handles, whatever the order
of the listings.  A successful load is described by membership: an object is
registered exactly when one of the files holds it.
-/

namespace HsmSimulator

open FileSystem

/-! ## Key files -/

/-- Extensions of key files. -/
def keyExtensions : List Bytes := [ascii ".p12", ascii ".pfx", ascii ".key"]

/-- The path names a key file in one of the two key directories of a slot. -/
def IsKeyPath (directory path : Path) : Prop :=
  ∃ kind name, (kind = asymmetricDirectory ∨ kind = symmetricDirectory) ∧
    Path.extension name ∈ keyExtensions ∧ path = Path.child (Path.child directory kind) name

theorem IsKeyPath.ne_nil {directory path : Path} (keyPath : IsKeyPath directory path) :
    path ≠ [] := by
  rcases keyPath with ⟨kind, name, _, _, rfl⟩
  exact Path.child_ne_nil _ _

/-- A key file lies in the directories of one slot only. -/
theorem IsKeyPath.directory_eq {directory other path : Path} (first : IsKeyPath directory path)
    (second : IsKeyPath other path) : directory = other := by
  rcases first with ⟨kind, name, _, _, rfl⟩
  rcases second with ⟨otherKind, otherName, _, _, same⟩
  exact (Path.child_inj.mp (Path.child_inj.mp same).1).1

theorem IsKeyPath.length_eq {directory path : Path} (keyPath : IsKeyPath directory path) :
    path.length = directory.length + 2 := by
  rcases keyPath with ⟨kind, name, _, _, rfl⟩
  simp [Path.child]

/-- The name of a key file ends in one of three letters. -/
theorem IsKeyPath.getLast {directory path : Path} (keyPath : IsKeyPath directory path) :
    path.filename.getLast? ∈ [some 50, some 120, some 121] := by
  rcases keyPath with ⟨kind, name, _, isKey, rfl⟩
  rw [Path.filename_child]
  have whole : Path.stem name ++ Path.extension name = name := List.take_append_drop _ _
  rw [← whole]
  simp only [keyExtensions, List.mem_cons, List.not_mem_nil, or_false] at isKey
  rcases isKey with isKey | isKey | isKey <;> rw [isKey] <;> simp [ascii]

/-- A key file is no metadata file. -/
theorem IsKeyPath.ne_metadata {directory path : Path} (keyPath : IsKeyPath directory path)
    (key : Path) : path ≠ Metadata.path key := by
  rintro rfl
  have last := keyPath.getLast
  rw [Metadata.path, Path.filename_extend] at last
  simp [ascii] at last

/-- A key file is no temporary metadata file. -/
theorem IsKeyPath.ne_temporary {directory path : Path} (keyPath : IsKeyPath directory path)
    (key : Path) : path ≠ Metadata.temporaryPath key := by
  rintro rfl
  have last := keyPath.getLast
  rw [Metadata.temporaryPath, Path.filename_extend] at last
  simp [ascii] at last

/-- Different key files have different metadata files. -/
theorem IsKeyPath.metadata_inj {directory other path key : Path}
    (keyPath : IsKeyPath directory path) (otherPath : IsKeyPath other key)
    (same : Metadata.path path = Metadata.path key) : path = key :=
  Path.extend_inj keyPath.ne_nil otherPath.ne_nil same

/-- The objects of a registered container, without handles. -/
def pairObjects (host : Host) (half : EvpKey → Option EvpKey) (slotId : Nat) (label id : Bytes)
    (path : Path) (privateKey : EvpKey) (certificate : Option Bytes) : List Object :=
  pairPrivateObject host slotId label id path privateKey ::
    (((half privateKey).toList.map
        (pairPublicObject host slotId label id path privateKey)) ++
      certificate.toList.map (certificateObject slotId label id path))

/-- The objects in the content of a file of the asymmetric directory. -/
def asymmetricObjects (host : Host) (half : EvpKey → Option EvpKey) (slot : Slot) (path : Path)
    (content : Bytes) : List Object :=
  if Path.extension path.filename ≠ ascii ".p12" ∧ Path.extension path.filename ≠ ascii ".pfx" then
    []
  else if content = [] then []
  else
    match host.openSsl.parsePkcs12 (cString slot.p12Password) content,
        objectIdForFilename host path.filename with
    | some (privateKey, certificate), some id =>
        pairObjects host half slot.id (Path.stem path.filename) id path privateKey certificate
    | _, _ => []

/-- The objects in the content of a file of the symmetric directory. -/
def symmetricObjects (host : Host) (slotId : Nat) (path : Path) (content : Bytes) : List Object :=
  if Path.extension path.filename ≠ ascii ".key" then []
  else if decodeHex content = [] then []
  else
    match objectIdForFilename host path.filename with
    | some id => [secretObject slotId (Path.stem path.filename) id path (decodeHex content)]
    | none => []

/-- The objects a file of a slot holds, as they are before their metadata is applied. -/
def fileObjects (host : Host) (half : EvpKey → Option EvpKey) (slot : Slot) (path : Path)
    (content : Bytes) : List Object :=
  if path.dropLast = slot.directory.child asymmetricDirectory then
    asymmetricObjects host half slot path content
  else if path.dropLast = slot.directory.child symmetricDirectory then
    symmetricObjects host slot.id path content
  else []

theorem asymmetricDirectory_ne : asymmetricDirectory ≠ symmetricDirectory := by
  decide

@[simp]
theorem dropLast_child (directory : Path) (name : Bytes) :
    (Path.child directory name).dropLast = directory :=
  List.dropLast_concat

theorem fileObjects_asymmetric (host : Host) (half : EvpKey → Option EvpKey)
    (slot : Slot) (name content : Bytes) :
    fileObjects host half slot ((slot.directory.child asymmetricDirectory).child name) content =
      asymmetricObjects host half slot ((slot.directory.child asymmetricDirectory).child name)
        content := by
  rw [fileObjects, dropLast_child, if_pos rfl]

theorem fileObjects_symmetric (host : Host) (half : EvpKey → Option EvpKey)
    (slot : Slot) (name content : Bytes) :
    fileObjects host half slot ((slot.directory.child symmetricDirectory).child name) content =
      symmetricObjects host slot.id ((slot.directory.child symmetricDirectory).child name)
        content := by
  have different : slot.directory.child symmetricDirectory ≠
      slot.directory.child asymmetricDirectory := by
    intro same
    exact asymmetricDirectory_ne (Path.child_inj.mp same).2.symm
  rw [fileObjects, dropLast_child, if_neg different, if_pos rfl]

/-- What every object of a key file is like. -/
structure RawObject (slot : Slot) (path : Path) (object : Object) : Prop where
  handle : object.handle = 0
  slotId : object.slotId = slot.id
  path : object.path = path
  owner : object.ownerSession = 0
  policy : object.policy = ∅
  classes : 1 ≤ object.objectClass ∧ object.objectClass ≤ 4

theorem pairObjects_raw {host : Host} {half : EvpKey → Option EvpKey}
    {slot : Slot} {label id : Bytes} {path : Path}
    {privateKey : EvpKey} {certificate : Option Bytes} {object : Object}
    (member : object ∈ pairObjects host half slot.id label id path privateKey certificate) :
    RawObject slot path object := by
  simp only [pairObjects, List.mem_cons, List.mem_append, List.mem_map] at member
  rcases member with rfl | ⟨publicKey, _, rfl⟩ | ⟨der, _, rfl⟩
  · exact ⟨rfl, rfl, rfl, rfl, rfl, by simp [pairPrivateObject, ckoPrivateKey]⟩
  · exact ⟨rfl, rfl, rfl, rfl, rfl, by simp [pairPublicObject, ckoPublicKey]⟩
  · exact ⟨rfl, rfl, rfl, rfl, rfl, by simp [certificateObject, ckoCertificate]⟩

/-- The objects of one file have distinct classes. -/
theorem pairObjects_classes (host : Host) (half : EvpKey → Option EvpKey)
    (slotId : Nat) (label id : Bytes) (path : Path)
    (privateKey : EvpKey) (certificate : Option Bytes) :
    (pairObjects host half slotId label id path privateKey certificate).Pairwise
      fun left right => left.objectClass ≠ right.objectClass := by
  unfold pairObjects
  cases half privateKey with
  | none =>
      cases certificate with
      | none => simp
      | some der => simp [pairPrivateObject, certificateObject, ckoPrivateKey, ckoCertificate]
  | some publicKey =>
      cases certificate with
      | none => simp [pairPrivateObject, pairPublicObject, ckoPrivateKey, ckoPublicKey]
      | some der =>
          simp [pairPrivateObject, pairPublicObject, certificateObject, ckoPrivateKey,
            ckoPublicKey, ckoCertificate]

theorem asymmetricObjects_raw {host : Host} {half : EvpKey → Option EvpKey}
    {slot : Slot} {path : Path} {content : Bytes}
    {object : Object} (member : object ∈ asymmetricObjects host half slot path content) :
    RawObject slot path object ∧ Path.extension path.filename ∈ keyExtensions := by
  unfold asymmetricObjects at member
  split at member
  · contradiction
  · rename_i extension
    split at member
    · contradiction
    · split at member
      · constructor
        · exact pairObjects_raw member
        · by_cases isP12 : Path.extension path.filename = ascii ".p12"
          · simp [keyExtensions, isP12]
          · by_cases isPfx : Path.extension path.filename = ascii ".pfx"
            · simp [keyExtensions, isPfx]
            · exact (extension ⟨isP12, isPfx⟩).elim
      · contradiction

theorem asymmetricObjects_classes (host : Host) (half : EvpKey → Option EvpKey)
    (slot : Slot) (path : Path) (content : Bytes) :
    (asymmetricObjects host half slot path content).Pairwise
      fun left right => left.objectClass ≠ right.objectClass := by
  unfold asymmetricObjects
  split
  · exact .nil
  · split
    · exact .nil
    · split
      · exact pairObjects_classes _ _ _ _ _ _ _ _
      · exact .nil

theorem symmetricObjects_raw {host : Host} {slot : Slot} {path : Path} {content : Bytes}
    {object : Object} (member : object ∈ symmetricObjects host slot.id path content) :
    RawObject slot path object ∧ Path.extension path.filename ∈ keyExtensions := by
  unfold symmetricObjects at member
  split at member
  · contradiction
  · rename_i extension
    rw [not_not] at extension
    split at member
    · contradiction
    · split at member
      · rw [List.mem_singleton] at member
        subst member
        exact ⟨⟨rfl, rfl, rfl, rfl, rfl, by simp [secretObject, ckoSecretKey]⟩,
          by simp [keyExtensions, extension]⟩
      · contradiction

theorem symmetricObjects_classes (host : Host) (slotId : Nat) (path : Path) (content : Bytes) :
    (symmetricObjects host slotId path content).Pairwise
      fun left right => left.objectClass ≠ right.objectClass := by
  unfold symmetricObjects
  split
  · exact .nil
  · split
    · exact .nil
    · split
      · exact List.pairwise_singleton _ _
      · exact .nil

/-- A path with a parent that is a directory of a slot is an entry of it. -/
theorem eq_child_of_dropLast {directory path : Path} {kind : Bytes}
    (parent : path.dropLast = directory.child kind) :
    path = Path.child (directory.child kind) path.filename := by
  have nonempty : path ≠ [] := by
    rintro rfl
    exact Path.child_ne_nil _ _ parent.symm
  rw [← parent, Path.child, Path.filename, List.getLastD_eq_getLast?,
    List.getLast?_eq_some_getLast nonempty, Option.getD_some, List.dropLast_concat_getLast]

/-- The objects of a file belong to its slot and its path, which is a key file's. -/
theorem fileObjects_raw {host : Host} {half : EvpKey → Option EvpKey}
    {slot : Slot} {path : Path} {content : Bytes}
    {object : Object} (member : object ∈ fileObjects host half slot path content) :
    RawObject slot path object ∧ IsKeyPath slot.directory path := by
  unfold fileObjects at member
  split at member
  · rename_i parent
    rcases asymmetricObjects_raw member with ⟨raw, extension⟩
    exact ⟨raw, asymmetricDirectory, path.filename, Or.inl rfl, extension,
      eq_child_of_dropLast parent⟩
  · split at member
    · rename_i parent
      rcases symmetricObjects_raw member with ⟨raw, extension⟩
      exact ⟨raw, symmetricDirectory, path.filename, Or.inr rfl, extension,
        eq_child_of_dropLast parent⟩
    · contradiction

theorem fileObjects_classes (host : Host) (half : EvpKey → Option EvpKey)
    (slot : Slot) (path : Path) (content : Bytes) :
    (fileObjects host half slot path content).Pairwise
      fun left right => left.objectClass ≠ right.objectClass := by
  unfold fileObjects
  split
  · exact asymmetricObjects_classes _ _ _ _ _
  · split
    · exact symmetricObjects_classes _ _ _ _
    · exact .nil

/-! ## Registering objects -/

/-- Register objects one after the other. -/
def State.registerList (state : State) (objects : List Object) : State :=
  objects.foldl State.register state

@[simp]
theorem registerList_nil (state : State) : state.registerList [] = state :=
  rfl

@[simp]
theorem registerList_cons (state : State) (object : Object) (rest : List Object) :
    state.registerList (object :: rest) = (state.register object).registerList rest :=
  rfl

theorem registerList_append (state : State) (first second : List Object) :
    state.registerList (first ++ second) = (state.registerList first).registerList second :=
  List.foldl_append

/-- Registration touches the object table and its counter only. -/
theorem registerList_eq (state : State) (objects : List Object) :
    state.registerList objects = { state with
      nextObjectHandle := state.nextObjectHandle + objects.length
      objects := (state.registerList objects).objects } := by
  induction objects generalizing state with
  | nil => rfl
  | cons object rest ih =>
      rw [registerList_cons, ih]
      simp [State.register, Nat.add_assoc, Nat.add_comm 1]

/-- The table after registration depends on the table and the counter only. -/
theorem registerList_objects_congr {first second : State}
    (counter : first.nextObjectHandle = second.nextObjectHandle)
    (table : first.objects = second.objects) (objects : List Object) :
    (first.registerList objects).objects = (second.registerList objects).objects := by
  induction objects generalizing first second with
  | nil => exact table
  | cons object rest ih =>
      apply ih
      · simp [State.register, counter]
      · simp [State.register, counter, table]

/-- No object has a handle that was not given out yet. -/
def State.FreshHandles (state : State) : Prop :=
  ∀ handle, state.nextObjectHandle ≤ handle → state.objects.get? handle = none

theorem State.FreshHandles.register {state : State} (fresh : state.FreshHandles)
    (object : Object) : (state.register object).FreshHandles := by
  intro handle bound
  have next : (state.register object).nextObjectHandle = state.nextObjectHandle + 1 := rfl
  rw [next] at bound
  simp only [State.register, OrderedMap.get?_emplace]
  rw [if_neg (by omega)]
  exact fresh handle (by omega)

/-- Afterwards the old objects are there, and the new ones under successive handles. -/
theorem get?_registerList {state : State} (fresh : state.FreshHandles) (objects : List Object)
    (handle : Nat) (object : Object) :
    (state.registerList objects).objects.get? handle = some object ↔
      state.objects.get? handle = some object ∨
        ∃ index raw, objects[index]? = some raw ∧ handle = state.nextObjectHandle + index ∧
          object = { raw with handle := handle } := by
  induction objects generalizing state with
  | nil => simp
  | cons first rest ih =>
      rw [registerList_cons, ih (fresh.register first)]
      have next : (state.register first).nextObjectHandle = state.nextObjectHandle + 1 := rfl
      have here : (state.register first).objects.get? handle = some object ↔
          state.objects.get? handle = some object ∨ handle = state.nextObjectHandle ∧
            object = { first with handle := handle } := by
        simp only [State.register]
        rw [OrderedMap.emplace_of_fresh (fresh _ (Nat.le_refl _)), OrderedMap.get?_insert]
        by_cases same : handle = state.nextObjectHandle
        · subst same
          rw [if_pos rfl, fresh _ (Nat.le_refl _)]
          simp [eq_comm]
        · simp [same]
      rw [here, next, or_assoc]
      apply or_congr_right
      constructor
      · rintro (⟨same, rfl⟩ | ⟨index, raw, found, same, rfl⟩)
        · exact ⟨0, first, rfl, same, rfl⟩
        · exact ⟨index + 1, raw, found, by omega, rfl⟩
      · rintro ⟨index, raw, found, same, rfl⟩
        cases index with
        | zero =>
            cases found
            exact Or.inl ⟨same, rfl⟩
        | succ index => exact Or.inr ⟨index, raw, found, by omega, rfl⟩

/-! ## Loading the files of the slots -/

/-- The objects found in a file that is read. -/
def openedObjects (host : Host) (oracle : Oracle) (disk : FileSystem) (slot : Slot)
    (path : Path) : List Object :=
  match disk.opened oracle path with
  | some content => fileObjects host (publicKeyOnly oracle) slot path content
  | none => []

theorem registerKeyPair_eq_true {host : Host} {oracle : Oracle} {state next : State}
    {slotId : Nat} {label : Bytes} {path : Path} {privateKey : EvpKey} {certificate : Option Bytes}
    (registers : registerKeyPair host oracle state slotId label path privateKey certificate =
      (next, true)) :
    ∃ id, objectIdForFilename host path.filename = some id ∧
      next = state.registerList
        (pairObjects host (publicKeyOnly oracle) slotId label id path privateKey certificate) := by
  unfold registerKeyPair at registers
  cases digest : objectIdForFilename host path.filename with
  | none => simp [digest] at registers
  | some id =>
      refine ⟨id, rfl, ?_⟩
      rw [digest] at registers
      simp only [Prod.mk.injEq, and_true] at registers
      subst registers
      unfold pairObjects
      cases publicKeyOnly oracle privateKey with
      | none => cases certificate <;> rfl
      | some publicKey => cases certificate <;> rfl

theorem loadAsymmetricFile_eq_true {host : Host} {oracle : Oracle} {slot : Slot}
    {state next : State} {name : Bytes}
    (loads : loadAsymmetricFile host oracle slot state
      ((slot.directory.child asymmetricDirectory).child name) = (next, true)) :
    next = state.registerList (openedObjects host oracle state.disk slot
      ((slot.directory.child asymmetricDirectory).child name)) := by
  unfold loadAsymmetricFile at loads
  unfold openedObjects
  simp only [fileObjects_asymmetric]
  unfold asymmetricObjects
  dsimp only at loads
  split at loads
  · rename_i other
    cases loads
    cases state.disk.opened oracle ((slot.directory.child asymmetricDirectory).child name) with
    | none => rfl
    | some content =>
        dsimp only
        rw [if_pos other]
        rfl
  · rename_i extension
    cases read : state.disk.opened oracle
        ((slot.directory.child asymmetricDirectory).child name) with
    | none =>
        rw [read] at loads
        cases loads
        rfl
    | some content =>
        rw [read] at loads
        simp only [if_neg extension]
        dsimp only at loads
        split at loads
        · rename_i empty
          cases loads
          simp [empty]
        · rename_i nonempty
          rw [if_neg nonempty]
          cases parsed : host.openSsl.parsePkcs12 (cString slot.p12Password) content with
          | none =>
              rw [parsed] at loads
              cases loads
              rfl
          | some pair =>
              rcases pair with ⟨privateKey, certificate⟩
              rw [parsed] at loads
              rcases registerKeyPair_eq_true loads with ⟨id, digest, registered⟩
              rw [digest]
              exact registered

theorem loadSymmetricFile_eq_true {host : Host} {oracle : Oracle} {slot : Slot}
    {state next : State} {name : Bytes}
    (loads : loadSymmetricFile host oracle slot.id state
      ((slot.directory.child symmetricDirectory).child name) = (next, true)) :
    next = state.registerList (openedObjects host oracle state.disk slot
      ((slot.directory.child symmetricDirectory).child name)) := by
  unfold loadSymmetricFile at loads
  unfold openedObjects
  simp only [fileObjects_symmetric]
  unfold symmetricObjects
  dsimp only at loads
  split at loads
  · rename_i other
    cases loads
    cases state.disk.opened oracle ((slot.directory.child symmetricDirectory).child name) with
    | none => rfl
    | some content =>
        dsimp only
        rw [if_pos other]
        rfl
  · rename_i extension
    cases read : state.disk.opened oracle
        ((slot.directory.child symmetricDirectory).child name) with
    | none =>
        rw [read] at loads
        simp only [Option.getD_none] at loads
        rw [if_pos (by decide)] at loads
        cases loads
        rfl
    | some content =>
        rw [read] at loads
        simp only [Option.getD_some] at loads
        simp only [if_neg extension]
        split at loads
        · rename_i empty
          cases loads
          simp [empty]
        · rename_i nonempty
          rw [if_neg nonempty]
          cases digest : objectIdForFilename host
              (Path.filename ((slot.directory.child symmetricDirectory).child name)) with
          | none =>
              rw [digest] at loads
              cases loads
          | some id =>
              rw [digest] at loads
              cases loads
              rfl

/-- A loop over files registers what the files hold, as long as one file does. -/
theorem loadFiles_eq_true {load : State → Path → State × Bool} {objects : Path → List Object}
    {disk : FileSystem} {paths : List Path}
    (loads : ∀ path ∈ paths, ∀ state next : State, state.disk = disk →
      load state path = (next, true) → next = state.registerList (objects path))
    {state next : State} (sameDisk : state.disk = disk)
    (passes : loadFiles load state paths = (next, true)) :
    next = state.registerList (paths.flatMap objects) := by
  induction paths generalizing state with
  | nil =>
      cases passes
      rfl
  | cons path rest ih =>
      unfold loadFiles at passes
      split at passes
      · rename_i middle loaded
        have first := loads path (List.mem_cons_self ..) state middle sameDisk loaded
        have middleDisk : middle.disk = disk := by
          rw [first, registerList_eq]
          exact sameDisk
        have later := ih (fun other member => loads other (List.mem_cons_of_mem _ member))
          middleDisk passes
        rw [later, first, List.flatMap_cons, registerList_append]
      · cases passes

/-- The files of a slot in the order they are loaded. -/
def slotFiles (oracle : Oracle) (disk : FileSystem) (slot : Slot) : List Path :=
  oracle.listing.reorder (disk.regularFiles (slot.directory.child asymmetricDirectory)) ++
    oracle.listing.reorder (disk.regularFiles (slot.directory.child symmetricDirectory))

/-- The objects of a slot in the order they are registered. -/
def slotObjects (host : Host) (oracle : Oracle) (disk : FileSystem) (slot : Slot) : List Object :=
  (slotFiles oracle disk slot).flatMap (openedObjects host oracle disk slot)

theorem mem_listing {oracle : Oracle} {disk : FileSystem} {directory path : Path} :
    path ∈ oracle.listing.reorder (disk.regularFiles directory) ↔
      (∃ name, path = Path.child directory name) ∧ ∃ bytes, disk.content path = some bytes := by
  rw [(oracle.listing.perm _).mem_iff, mem_regularFiles]

theorem loadDirectory_eq_true {load : State → Path → State × Bool} {oracle : Oracle}
    (objects : Path → List Object) {state next : State} {directory : Path}
    (loads : ∀ name, ∀ current next : State, current.disk = state.disk →
      load current (Path.child directory name) = (next, true) →
        next = current.registerList (objects (Path.child directory name)))
    (passes : loadDirectory load oracle state directory = (next, true)) :
    oracle.listingFails directory = false ∧ next = state.registerList
      ((oracle.listing.reorder (state.disk.regularFiles directory)).flatMap objects) := by
  unfold loadDirectory at passes
  split at passes
  · cases passes
  · rename_i listed
    constructor
    · simpa using listed
    · refine loadFiles_eq_true ?_ rfl passes
      intro path member current result sameDisk loaded
      rcases (mem_listing.mp member).1 with ⟨name, rfl⟩
      exact loads name current result sameDisk loaded

/-- Directories are created and nothing else changes. -/
structure Prepared (before after : FileSystem) (directories : List Path) : Prop where
  files : after.files = before.files
  directories : ∀ path, after.directories.get? path =
    if path ∈ directories then some () else before.directories.get? path

theorem Prepared.refl (disk : FileSystem) : Prepared disk disk [] :=
  ⟨rfl, by simp⟩

theorem Prepared.trans {before middle after : FileSystem} {first second : List Path}
    (earlier : Prepared before middle first) (later : Prepared middle after second) :
    Prepared before after (first ++ second) := by
  constructor
  · exact later.files.trans earlier.files
  · intro path
    rw [later.directories, earlier.directories]
    by_cases inFirst : path ∈ first <;> by_cases inSecond : path ∈ second <;>
      simp [inFirst, inSecond]

theorem Prepared.content {before after : FileSystem} {directories : List Path}
    (prepared : Prepared before after directories) (path : Path) :
    after.content path = before.content path := by
  rw [FileSystem.content, FileSystem.content, prepared.files]

theorem createDirectories_prepared {oracle : Oracle} {disk created : FileSystem} {path : Path}
    (succeeds : disk.createDirectories oracle path = some created) :
    Prepared disk created [path] := by
  rcases createDirectories_eq_some succeeds with ⟨files, directories⟩
  refine ⟨files, ?_⟩
  intro other
  rw [directories]
  simp

/-- The directories of a slot. -/
def slotDirectories (slot : Slot) : List Path :=
  [slot.directory.child asymmetricDirectory, slot.directory.child symmetricDirectory]

theorem regularFiles_prepared {before after : FileSystem} {directories : List Path}
    (prepared : Prepared before after directories) (directory : Path) :
    after.regularFiles directory = before.regularFiles directory := by
  rw [regularFiles, regularFiles, prepared.files]

theorem slotObjects_prepared {host : Host} {oracle : Oracle} {before after : FileSystem}
    {directories : List Path} (prepared : Prepared before after directories) (slot : Slot) :
    slotObjects host oracle after slot = slotObjects host oracle before slot := by
  have opened (path : Path) : openedObjects host oracle after slot path =
      openedObjects host oracle before slot path := by
    rw [openedObjects, openedObjects, FileSystem.opened, FileSystem.opened, prepared.content]
  simp only [slotObjects, slotFiles, regularFiles_prepared prepared, funext opened]

theorem loadSlot_eq_true {host : Host} {oracle : Oracle} {state next : State} {slot : Slot}
    (loads : loadSlot host oracle state slot = (next, true)) :
    ∃ disk, Prepared state.disk disk (slotDirectories slot) ∧
      next = ({ state with disk := disk } : State).registerList
        (slotObjects host oracle state.disk slot) := by
  unfold loadSlot at loads
  dsimp only at loads
  split at loads
  · cases loads
  · rename_i first firstCreated
    split at loads
    · cases loads
    · rename_i second secondCreated
      have prepared : Prepared state.disk second (slotDirectories slot) :=
        (createDirectories_prepared firstCreated).trans (createDirectories_prepared secondCreated)
      split at loads
      · cases loads
      · rename_i middle loadedAsymmetric
        have asymmetric := (loadDirectory_eq_true (openedObjects host oracle second slot)
          (fun name current result sameDisk loaded => by
            rw [loadAsymmetricFile_eq_true loaded, sameDisk]) loadedAsymmetric).2
        have middleDisk : middle.disk = second := by
          rw [asymmetric, registerList_eq]
        have symmetric := (loadDirectory_eq_true (openedObjects host oracle second slot)
          (fun name current result sameDisk loaded => by
            rw [loadSymmetricFile_eq_true loaded, sameDisk, middleDisk]) loads).2
        refine ⟨second, prepared, ?_⟩
        rw [symmetric, middleDisk, asymmetric, ← slotObjects_prepared prepared slot, slotObjects,
          slotFiles, List.flatMap_append, registerList_append]

/-- The objects of all slots in the order they are registered. -/
def tokenObjects (host : Host) (oracle : Oracle) (disk : FileSystem) (slots : List Slot) :
    List Object :=
  slots.flatMap (slotObjects host oracle disk)

theorem loadSlots_eq_true {host : Host} {oracle : Oracle} {state next : State}
    {slots : List Slot} (loads : loadSlots host oracle state slots = (next, true)) :
    ∃ disk, Prepared state.disk disk (slots.flatMap slotDirectories) ∧
      next = ({ state with disk := disk } : State).registerList
        (tokenObjects host oracle state.disk slots) := by
  induction slots generalizing state with
  | nil =>
      cases loads
      exact ⟨_, Prepared.refl _, rfl⟩
  | cons slot rest ih =>
      unfold loadSlots at loads
      split at loads
      · rename_i middle loaded
        rcases loadSlot_eq_true loaded with ⟨first, firstPrepared, rfl⟩
        rcases ih loads with ⟨second, secondPrepared, rfl⟩
        have middleDisk : (State.registerList { state with disk := first }
            (slotObjects host oracle state.disk slot)).disk = first := by
          rw [registerList_eq]
        rw [middleDisk] at secondPrepared
        refine ⟨second, ?_, ?_⟩
        · rw [List.flatMap_cons]
          exact firstPrepared.trans secondPrepared
        · have sameRest : tokenObjects host oracle first rest =
              tokenObjects host oracle state.disk rest := by
            simp only [tokenObjects, funext (slotObjects_prepared firstPrepared)]
          have moved (objects : List Object) : ({ State.registerList { state with disk := first }
              objects with disk := second } : State) =
                State.registerList { state with disk := second } objects := by
            rw [registerList_eq, registerList_eq { state with disk := second }]
            rw [@registerList_objects_congr { state with disk := second }
              { state with disk := first } rfl rfl objects]
          rw [middleDisk, moved, sameRest, tokenObjects, tokenObjects, List.flatMap_cons,
            registerList_append]
      · cases loads

theorem mem_slotFiles {oracle : Oracle} {disk : FileSystem} {slot : Slot} {path : Path} :
    path ∈ slotFiles oracle disk slot ↔ (∃ kind name, (kind = asymmetricDirectory ∨
      kind = symmetricDirectory) ∧ path = Path.child (slot.directory.child kind) name) ∧
        ∃ bytes, disk.content path = some bytes := by
  rw [slotFiles, List.mem_append, mem_listing, mem_listing]
  constructor
  · rintro (⟨⟨name, rfl⟩, found⟩ | ⟨⟨name, rfl⟩, found⟩)
    · exact ⟨⟨_, name, Or.inl rfl, rfl⟩, found⟩
    · exact ⟨⟨_, name, Or.inr rfl, rfl⟩, found⟩
  · rintro ⟨⟨kind, name, rfl | rfl, rfl⟩, found⟩
    · exact Or.inl ⟨⟨name, rfl⟩, found⟩
    · exact Or.inr ⟨⟨name, rfl⟩, found⟩

/-- What is registered is what the readable files hold. -/
theorem mem_tokenObjects {host : Host} {oracle : Oracle} {disk : FileSystem} {slots : List Slot}
    {raw : Object} :
    raw ∈ tokenObjects host oracle disk slots ↔ ∃ slot ∈ slots, ∃ path content,
      disk.opened oracle path = some content ∧
        raw ∈ fileObjects host (publicKeyOnly oracle) slot path content := by
  simp only [tokenObjects, slotObjects, List.mem_flatMap]
  apply exists_congr
  intro slot
  apply and_congr_right
  intro _
  constructor
  · rintro ⟨path, _, member⟩
    unfold openedObjects at member
    split at member
    · rename_i content opened
      exact ⟨path, content, opened, member⟩
    · contradiction
  · rintro ⟨path, content, opened, member⟩
    refine ⟨path, ?_, by rw [openedObjects, opened]; exact member⟩
    rcases (fileObjects_raw member).2 with ⟨kind, name, isKind, _, isChild⟩
    refine mem_slotFiles.mpr ⟨⟨kind, name, isKind, isChild⟩, content, ?_⟩
    unfold FileSystem.opened at opened
    split at opened
    · contradiction
    · exact opened

theorem slotFiles_nodup (oracle : Oracle) (disk : FileSystem) (slot : Slot) :
    (slotFiles oracle disk slot).Nodup := by
  have listed (directory : Path) :
      (oracle.listing.reorder (disk.regularFiles directory)).Nodup :=
    (oracle.listing.perm _).nodup_iff.mpr ((OrderedMap.keys_nodup _).filter _)
  refine List.nodup_append.mpr ⟨listed _, listed _, ?_⟩
  intro path first other second same
  rcases (mem_listing.mp first).1 with ⟨name, rfl⟩
  rcases (mem_listing.mp second).1 with ⟨otherName, rfl⟩
  exact asymmetricDirectory_ne (Path.child_inj.mp (Path.child_inj.mp same).1).2

theorem openedObjects_raw {host : Host} {oracle : Oracle} {disk : FileSystem} {slot : Slot}
    {path : Path} {object : Object} (member : object ∈ openedObjects host oracle disk slot path) :
    RawObject slot path object ∧ IsKeyPath slot.directory path := by
  unfold openedObjects at member
  split at member
  · exact fileObjects_raw member
  · contradiction

/-- No two registered objects share path and class. -/
theorem tokenObjects_pairwise {host : Host} {oracle : Oracle} {disk : FileSystem}
    {slots : List Slot}
    (distinct : slots.Pairwise fun first second => first.directory ≠ second.directory) :
    (tokenObjects host oracle disk slots).Pairwise fun left right =>
      left.path = right.path → left.objectClass ≠ right.objectClass := by
  refine List.pairwise_flatMap.mpr ⟨?_, distinct.imp ?_⟩
  · intro slot _
    refine List.pairwise_flatMap.mpr ⟨?_, (slotFiles_nodup oracle disk slot).imp ?_⟩
    · intro path _
      unfold openedObjects
      split
      · refine (fileObjects_classes _ _ _ _ _).imp ?_
        intro left right different _
        exact different
      · exact .nil
    · intro first second different left leftMember right rightMember same
      rw [(openedObjects_raw leftMember).1.path, (openedObjects_raw rightMember).1.path] at same
      exact (different same).elim
  · intro first second different left leftMember right rightMember same
    rcases List.mem_flatMap.mp leftMember with ⟨path, _, leftOpened⟩
    rcases List.mem_flatMap.mp rightMember with ⟨otherPath, _, rightOpened⟩
    rcases openedObjects_raw leftOpened with ⟨leftRaw, leftPath⟩
    rcases openedObjects_raw rightOpened with ⟨rightRaw, rightPath⟩
    rw [leftRaw.path, rightRaw.path] at same
    rw [same] at leftPath
    exact (different (leftPath.directory_eq rightPath)).elim

theorem withMetadata_core (object : Object) (records : Metadata.Records) :
    (object.withMetadata records).objectClass = object.objectClass ∧
      (object.withMetadata records).handle = object.handle ∧
      (object.withMetadata records).slotId = object.slotId ∧
      (object.withMetadata records).path = object.path ∧
      (object.withMetadata records).ownerSession = object.ownerSession := by
  unfold Object.withMetadata
  split <;> exact ⟨rfl, rfl, rfl, rfl, rfl⟩

/-- What loading the token objects leaves. -/
structure TokenLoaded (host : Host) (oracle : Oracle) (before after : State) : Prop where
  prepared : Prepared before.disk after.disk (before.slots.values.flatMap slotDirectories)
  unchanged : after = { before with
    nextObjectHandle := after.nextObjectHandle
    objects := after.objects
    disk := after.disk }
  counter : after.nextObjectHandle =
    1 + (tokenObjects host oracle before.disk before.slots.values).length
  readable : ∀ raw ∈ tokenObjects host oracle before.disk before.slots.values,
    ∃ records, Metadata.read after.disk oracle raw.path = some records
  objects : ∀ handle object, after.objects.get? handle = some object ↔
    ∃ index raw, (tokenObjects host oracle before.disk before.slots.values)[index]? = some raw ∧
      handle = 1 + index ∧
      object = Object.withMetadata { raw with handle := handle }
        ((Metadata.read after.disk oracle raw.path).getD ∅)

theorem loadTokenObjects_eq_true {host : Host} {oracle : Oracle} {state next : State}
    (loads : loadTokenObjects host oracle state = (next, true)) :
    TokenLoaded host oracle state next := by
  unfold loadTokenObjects at loads
  split at loads
  · cases loads
  · rename_i loaded slotsLoaded
    rcases loadSlots_eq_true slotsLoaded with ⟨disk, prepared, rfl⟩
    have fresh : State.FreshHandles
        { state with objects := ∅, nextObjectHandle := 1, disk := disk } := fun _ _ => rfl
    have registered := get?_registerList fresh
      (tokenObjects host oracle state.disk state.slots.values)
    unfold loadObjectMetadata at loads
    split at loads
    · cases loads
    · rename_i readable
      cases loads
      rw [registerList_eq]
      refine ⟨prepared, rfl, rfl, ?_, ?_⟩
      · intro raw member
        rcases List.mem_iff_getElem?.mp member with ⟨index, found⟩
        have stored := (registered (1 + index) { raw with handle := 1 + index }).mpr
          (Or.inr ⟨index, raw, found, rfl, rfl⟩)
        rw [Bool.not_eq_true, List.any_eq_false] at readable
        have read := readable _ (OrderedMap.mem_values_iff.mpr ⟨1 + index, stored⟩)
        rw [registerList_eq] at read
        rw [Option.isNone_iff_eq_none, ← ne_eq, Option.ne_none_iff_exists'] at read
        exact read
      · intro handle object
        dsimp only
        rw [OrderedMap.get?_mapValues, Option.map_eq_some_iff]
        constructor
        · rintro ⟨stored, found, rfl⟩
          rcases (registered handle stored).mp found with old | ⟨index, raw, member, same, rfl⟩
          · simp at old
          · exact ⟨index, raw, member, same, rfl⟩
        · rintro ⟨index, raw, member, same, rfl⟩
          exact ⟨{ raw with handle := handle },
            (registered handle _).mpr (Or.inr ⟨index, raw, member, same, rfl⟩), rfl⟩

/-! ## Loads that are given up -/

/-- What a load changes at most, also where it is given up: the object table, its counter
and directories of the slots. -/
structure LoadFrame (directories : List Path) (before after : State) : Prop where
  unchanged : after = { before with
    nextObjectHandle := after.nextObjectHandle
    objects := after.objects
    disk := after.disk }
  counter : before.nextObjectHandle ≤ after.nextObjectHandle
  prepared : ∃ created, created ⊆ directories ∧ Prepared before.disk after.disk created

namespace LoadFrame

variable {before middle after : State} {first second directories : List Path}

theorem refl (directories : List Path) (state : State) : LoadFrame directories state state :=
  ⟨rfl, Nat.le_refl _, [], List.nil_subset _, Prepared.refl _⟩

theorem trans (earlier : LoadFrame first before middle) (later : LoadFrame second middle after) :
    LoadFrame (first ++ second) before after := by
  rcases earlier.prepared with ⟨created, subset, prepared⟩
  rcases later.prepared with ⟨createdLater, subsetLater, preparedLater⟩
  refine ⟨?_, earlier.counter.trans later.counter, created ++ createdLater, ?_,
    prepared.trans preparedLater⟩
  · rw [later.unchanged, earlier.unchanged]
  · exact List.append_subset.mpr ⟨List.subset_append_of_subset_left _ subset,
      List.subset_append_of_subset_right _ subsetLater⟩

theorem mono (subset : first ⊆ second) (frame : LoadFrame first before after) :
    LoadFrame second before after := by
  rcases frame.prepared with ⟨created, createdSubset, prepared⟩
  exact ⟨frame.unchanged, frame.counter, created, List.Subset.trans createdSubset subset,
    prepared⟩

theorem registerList (state : State) (objects : List Object) :
    LoadFrame directories state (state.registerList objects) := by
  rw [registerList_eq]
  exact ⟨rfl, Nat.le_add_right _ _, [], List.nil_subset _, Prepared.refl _⟩

theorem created {state : State} {oracle : Oracle} {path : Path} {disk : FileSystem}
    (succeeds : state.disk.createDirectories oracle path = some disk) :
    LoadFrame [path] state { state with disk := disk } :=
  ⟨rfl, Nat.le_refl _, [path], List.Subset.refl _, createDirectories_prepared succeeds⟩

end LoadFrame

theorem registerKeyPair_frame (host : Host) (oracle : Oracle) (state : State) (slotId : Nat)
    (label : Bytes) (path : Path) (privateKey : EvpKey) (certificate : Option Bytes) :
    LoadFrame [] state
      (registerKeyPair host oracle state slotId label path privateKey certificate).1 := by
  cases registers : registerKeyPair host oracle state slotId label path privateKey certificate with
  | mk next registered =>
      cases registered with
      | true =>
          rcases registerKeyPair_eq_true registers with ⟨id, _, rfl⟩
          exact .registerList _ _
      | false =>
          unfold registerKeyPair at registers
          split at registers
          · cases registers
            exact .refl _ _
          · cases registers

theorem loadAsymmetricFile_frame (host : Host) (oracle : Oracle) (slot : Slot) (state : State)
    (path : Path) : LoadFrame [] state (loadAsymmetricFile host oracle slot state path).1 := by
  unfold loadAsymmetricFile
  dsimp only
  split
  · exact .refl _ _
  · split
    · exact .refl _ _
    · split
      · exact .refl _ _
      · split
        · exact .refl _ _
        · exact registerKeyPair_frame _ _ _ _ _ _ _ _

theorem loadSymmetricFile_frame (host : Host) (oracle : Oracle) (slotId : Nat) (state : State)
    (path : Path) : LoadFrame [] state (loadSymmetricFile host oracle slotId state path).1 := by
  unfold loadSymmetricFile
  dsimp only
  split
  · exact .refl _ _
  · split
    · exact .refl _ _
    · split
      · exact ⟨rfl, Nat.le_succ _, [], List.nil_subset _, Prepared.refl _⟩
      · exact LoadFrame.registerList state [_]

theorem loadFiles_frame {load : State → Path → State × Bool}
    (frame : ∀ state path, LoadFrame [] state (load state path).1) (state : State)
    (paths : List Path) : LoadFrame [] state (loadFiles load state paths).1 := by
  induction paths generalizing state with
  | nil => exact .refl _ _
  | cons path rest ih =>
      have first := frame state path
      unfold loadFiles
      split
      · rename_i next loaded
        rw [loaded] at first
        exact first.trans (ih next)
      · rename_i next failed
        rw [failed] at first
        exact first

theorem loadDirectory_frame {load : State → Path → State × Bool}
    (frame : ∀ state path, LoadFrame [] state (load state path).1) (oracle : Oracle)
    (state : State) (directory : Path) :
    LoadFrame [] state (loadDirectory load oracle state directory).1 := by
  unfold loadDirectory
  split
  · exact .refl _ _
  · exact loadFiles_frame frame _ _

theorem loadSlot_frame (host : Host) (oracle : Oracle) (state : State) (slot : Slot) :
    LoadFrame (slotDirectories slot) state (loadSlot host oracle state slot).1 := by
  unfold loadSlot
  dsimp only
  split
  · exact .refl _ _
  · rename_i first firstCreated
    have created := LoadFrame.created firstCreated
    split
    · exact created.mono (by simp [slotDirectories])
    · rename_i second secondCreated
      have prepared := created.trans (LoadFrame.created secondCreated)
      have asymmetric := loadDirectory_frame (loadAsymmetricFile_frame host oracle slot) oracle
        { state with disk := second } (slot.directory.child asymmetricDirectory)
      split
      · rename_i next failed
        rw [failed] at asymmetric
        exact (prepared.trans asymmetric).mono (by simp [slotDirectories])
      · rename_i next loaded
        rw [loaded] at asymmetric
        have symmetric := loadDirectory_frame (loadSymmetricFile_frame host oracle slot.id) oracle
          next (slot.directory.child symmetricDirectory)
        exact ((prepared.trans asymmetric).trans symmetric).mono (by simp [slotDirectories])

theorem loadSlots_frame (host : Host) (oracle : Oracle) (state : State) (slots : List Slot) :
    LoadFrame (slots.flatMap slotDirectories) state (loadSlots host oracle state slots).1 := by
  induction slots generalizing state with
  | nil => exact .refl _ _
  | cons slot rest ih =>
      have first := loadSlot_frame host oracle state slot
      unfold loadSlots
      split
      · rename_i next loaded
        rw [loaded] at first
        exact first.trans (ih next)
      · rename_i next failed
        rw [failed] at first
        exact first.mono (List.subset_append_left _ _)

theorem loadTokenObjects_frame (host : Host) (oracle : Oracle) (state : State) :
    LoadFrame (state.slots.values.flatMap slotDirectories)
      { state with objects := ∅, nextObjectHandle := 1 }
      (loadTokenObjects host oracle state).1 := by
  have frame := loadSlots_frame host oracle { state with objects := ∅, nextObjectHandle := 1 }
    state.slots.values
  unfold loadTokenObjects
  split
  · rename_i loaded failed
    rw [failed] at frame
    exact frame
  · rename_i loaded succeeded
    rw [succeeded] at frame
    unfold loadObjectMetadata
    split
    · exact frame
    · refine ⟨?_, frame.counter, frame.prepared⟩
      have unchanged := frame.unchanged
      dsimp only at unchanged ⊢
      rw [unchanged]

end HsmSimulator
