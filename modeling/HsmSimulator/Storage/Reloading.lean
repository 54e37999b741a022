import HsmSimulator.Storage.Codec
import HsmSimulator.Storage.Loading

/-!
# Loading without faults

Where no file operation fails, loading depends on the files only.  It succeeds as long as
the key directories can be made and the metadata of every object that is found is read.
-/

namespace HsmSimulator

open FileSystem

/-- No file operation fails. -/
structure Faultless (oracle : Oracle) : Prop where
  stat : ∀ path, oracle.statFails path = false
  read : ∀ path, oracle.readFails path = false
  directory : ∀ path, oracle.directoryFails path = false
  listing : ∀ path, oracle.listingFails path = false
  write : ∀ path, oracle.writeResult path = .complete
  rename : ∀ path, oracle.renameFails path = false
  remove : ∀ path, oracle.removeFails path = false

/-- `EVP_Digest` gives every file name its digest. -/
def DigestsNames (host : Host) : Prop := ∀ name, host.openSsl.sha256 name ≠ none

/-- The records of a key file, as they are on the disk. -/
def FileSystem.records (disk : FileSystem) (key : Path) : Option Metadata.Records :=
  if disk.hasPath (Metadata.path key) = false then some ∅
  else (disk.content (Metadata.path key)).bind Metadata.decode

section

variable {host : Host} {oracle : Oracle} {disk : FileSystem}

theorem opened_of_readable (disk : FileSystem) {path : Path}
    (readable : oracle.readFails path = false) : disk.opened oracle path = disk.content path := by
  rw [FileSystem.opened, if_neg (by simp [readable])]

namespace Faultless

variable (faultless : Faultless oracle)

include faultless

theorem opened_eq (disk : FileSystem) (path : Path) :
    disk.opened oracle path = disk.content path :=
  opened_of_readable disk (faultless.read path)

theorem read_eq (disk : FileSystem) (key : Path) :
    Metadata.read disk oracle key = disk.records key := by
  unfold Metadata.read FileSystem.records
  simp only [faultless.stat, faultless.read, Bool.false_eq_true, if_false]

/-- A directory is made where no file has its name. -/
theorem createDirectories_eq (path : Path) (absent : disk.content path = none) :
    disk.createDirectories oracle path =
      some { disk with directories := disk.directories.emplace path () } := by
  unfold createDirectories
  rw [if_neg (by simp [faultless.directory, absent])]

end Faultless

theorem createDirectories_absent {path : Path} {created : FileSystem}
    (succeeds : disk.createDirectories oracle path = some created) : disk.content path = none := by
  unfold createDirectories at succeeds
  split at succeeds
  · contradiction
  · rename_i free
    simp only [Bool.or_eq_true, not_or, Bool.not_eq_true, Option.isSome_eq_false_iff,
      Option.isNone_iff_eq_none] at free
    exact free.2

/-! ## Records -/

theorem records_congr {before after : FileSystem} {key : Path}
    (sameContent : after.content (Metadata.path key) = before.content (Metadata.path key))
    (sameDirectory : after.directories.get? (Metadata.path key) =
      before.directories.get? (Metadata.path key)) : after.records key = before.records key := by
  have samePath : after.hasPath (Metadata.path key) = before.hasPath (Metadata.path key) :=
    hasPath_congr sameContent sameDirectory
  rw [FileSystem.records, FileSystem.records, samePath, sameContent]

theorem records_of_content {key : Path} {content : Bytes}
    (stored : disk.content (Metadata.path key) = some content) :
    disk.records key = Metadata.decode content := by
  have isThere : disk.hasPath (Metadata.path key) = true := by
    rw [FileSystem.content] at stored
    simp [hasPath, stored]
  rw [FileSystem.records, if_neg (by simp [isThere]), stored, Option.bind_some]

/-- Records that were read are those on the disk. -/
theorem records_of_read {key : Path} {records : Metadata.Records}
    (isRead : Metadata.read disk oracle key = some records) : disk.records key = some records := by
  unfold Metadata.read at isRead
  unfold FileSystem.records
  split at isRead
  · contradiction
  · split at isRead
    · rename_i absent
      rw [if_pos absent]
      exact isRead
    · rename_i present
      rw [if_neg present]
      split at isRead
      · contradiction
      · exact isRead

/-- Records on the disk are within the limits of the reader. -/
theorem records_withinLimits {key : Path} {records : Metadata.Records}
    (isRead : disk.records key = some records) : Metadata.WithinLimits records := by
  unfold FileSystem.records at isRead
  split at isRead
  · cases isRead
    constructor
    · exact Nat.zero_le _
    all_goals
      intro cls record stored
      contradiction
  · rcases Option.bind_eq_some_iff.mp isRead with ⟨content, _, decoded⟩
    rcases Metadata.decode_eq_some_iff.mp decoded with ⟨_, text, valid, rfl, _⟩
    exact valid.withinLimits

theorem records_prepared {before after : FileSystem} {created : List Path} {key : Path}
    (prepared : Prepared before after created) (outside : Metadata.path key ∉ created) :
    after.records key = before.records key := by
  apply records_congr
  · exact prepared.content _
  · rw [prepared.directories, if_neg outside]

/-- The metadata of a key file is none of the directories of slots on one level. -/
theorem IsKeyPath.metadata_not_directory {slots : List Slot} {directory key : Path}
    (keyPath : IsKeyPath directory key)
    (level : ∀ slot ∈ slots, slot.directory.length = directory.length) :
    Metadata.path key ∉ slots.flatMap slotDirectories := by
  intro member
  rcases List.mem_flatMap.mp member with ⟨slot, listed, isDirectory⟩
  have depth : (Metadata.path key).length = directory.length + 2 := by
    rw [Metadata.path, Path.depth_extend keyPath.ne_nil, keyPath.length_eq]
  have sameLevel := level slot listed
  simp only [slotDirectories, List.mem_cons, List.not_mem_nil, or_false] at isDirectory
  rcases isDirectory with same | same
  · rw [same, Path.child, List.length_append, List.length_singleton] at depth
    omega
  · rw [same, Path.child, List.length_append, List.length_singleton] at depth
    omega

/-! ## Loading succeeds -/

section

variable (digests : DigestsNames host)

include digests

theorem registerKeyPair_succeeds (state : State) (slotId : Nat) (label : Bytes) (path : Path)
    (privateKey : EvpKey) (certificate : Option Bytes) :
    (registerKeyPair host oracle state slotId label path privateKey certificate).2 = true := by
  unfold registerKeyPair
  split
  · rename_i noDigest
    exact (digests _ noDigest).elim
  · rfl

theorem loadAsymmetricFile_succeeds (slot : Slot) (state : State) (path : Path) :
    (loadAsymmetricFile host oracle slot state path).2 = true := by
  unfold loadAsymmetricFile
  dsimp only
  split
  · rfl
  · split
    · rfl
    · split
      · rfl
      · split
        · rfl
        · exact registerKeyPair_succeeds digests _ _ _ _ _ _

theorem loadSymmetricFile_succeeds (slotId : Nat) (state : State) (path : Path) :
    (loadSymmetricFile host oracle slotId state path).2 = true := by
  unfold loadSymmetricFile
  dsimp only
  split
  · rfl
  · split
    · rfl
    · split
      · rename_i noDigest
        exact (digests _ noDigest).elim
      · rfl

omit digests in
theorem loadFiles_succeeds {load : State → Path → State × Bool}
    (succeeds : ∀ state path, (load state path).2 = true) (state : State) (paths : List Path) :
    (loadFiles load state paths).2 = true := by
  induction paths generalizing state with
  | nil => rfl
  | cons path rest ih =>
      have first := succeeds state path
      unfold loadFiles
      split
      · exact ih _
      · rename_i failed
        rw [failed] at first
        contradiction

omit digests in
theorem loadDirectory_succeeds (faultless : Faultless oracle)
    {load : State → Path → State × Bool} (succeeds : ∀ state path, (load state path).2 = true)
    (state : State) (directory : Path) :
    (loadDirectory load oracle state directory).2 = true := by
  unfold loadDirectory
  rw [if_neg (by simp [faultless.listing])]
  exact loadFiles_succeeds succeeds _ _

theorem loadSlot_succeeds (faultless : Faultless oracle) (state : State) (slot : Slot)
    (absent : ∀ path ∈ slotDirectories slot, state.disk.content path = none) :
    (loadSlot host oracle state slot).2 = true := by
  have asymmetric : ∃ disk, state.disk.createDirectories oracle
      (slot.directory.child asymmetricDirectory) = some disk ∧ disk.files = state.disk.files :=
    ⟨_, faultless.createDirectories_eq _ (absent _ (by simp [slotDirectories])), rfl⟩
  rcases asymmetric with ⟨first, firstMade, sameFiles⟩
  have free : first.content (slot.directory.child symmetricDirectory) = none := by
    rw [FileSystem.content, sameFiles]
    exact absent _ (by simp [slotDirectories])
  unfold loadSlot
  simp only [firstMade, faultless.createDirectories_eq _ free]
  split
  · rename_i failed
    have loads := loadDirectory_succeeds faultless
      (@loadAsymmetricFile_succeeds host oracle digests slot) { state with disk :=
        { first with directories :=
          first.directories.emplace (slot.directory.child symmetricDirectory) () } }
      (slot.directory.child asymmetricDirectory)
    rw [failed] at loads
    contradiction
  · exact loadDirectory_succeeds faultless (loadSymmetricFile_succeeds digests slot.id) _ _

omit digests in
theorem loadSlot_absent {state next : State} {slot : Slot}
    (loads : loadSlot host oracle state slot = (next, true)) :
    ∀ path ∈ slotDirectories slot, state.disk.content path = none := by
  unfold loadSlot at loads
  dsimp only at loads
  split at loads
  · cases loads
  · rename_i first firstMade
    split at loads
    · cases loads
    · rename_i second secondMade
      have unchanged := (createDirectories_prepared firstMade).content
        (slot.directory.child symmetricDirectory)
      intro path member
      simp only [slotDirectories, List.mem_cons, List.not_mem_nil, or_false] at member
      rcases member with rfl | rfl
      · exact createDirectories_absent firstMade
      · exact unchanged.symm.trans (createDirectories_absent secondMade)

theorem loadSlots_succeeds (faultless : Faultless oracle) (state : State) (slots : List Slot)
    (absent : ∀ path ∈ slots.flatMap slotDirectories, state.disk.content path = none) :
    (loadSlots host oracle state slots).2 = true := by
  induction slots generalizing state with
  | nil => rfl
  | cons slot rest ih =>
      rw [List.flatMap_cons] at absent
      have first := @loadSlot_succeeds host oracle digests faultless state slot
        fun path member => absent path (List.mem_append_left _ member)
      unfold loadSlots
      split
      · rename_i next loaded
        rcases loadSlot_eq_true loaded with ⟨disk, prepared, rfl⟩
        apply ih
        intro path member
        rw [registerList_eq]
        exact (prepared.content path).trans (absent path (List.mem_append_right _ member))
      · rename_i failed
        rw [failed] at first
        contradiction

omit digests in
/-- Where the slots were loaded, no file has the name of one of their directories. -/
theorem loadSlots_absent {state next : State} {slots : List Slot}
    (loads : loadSlots host oracle state slots = (next, true)) :
    ∀ path ∈ slots.flatMap slotDirectories, state.disk.content path = none := by
  induction slots generalizing state with
  | nil => exact fun _ member => by contradiction
  | cons slot rest ih =>
      unfold loadSlots at loads
      split at loads
      · rename_i middle loaded
        intro path member
        rw [List.flatMap_cons] at member
        rcases List.mem_append.mp member with inSlot | inRest
        · exact loadSlot_absent loaded path inSlot
        · rcases loadSlot_eq_true loaded with ⟨disk, prepared, rfl⟩
          have absent := ih loads path inRest
          rw [registerList_eq] at absent
          exact (prepared.content path).symm.trans absent
      · cases loads

/-- The token objects are loaded where the metadata of each of them is read. -/
theorem loadTokenObjects_succeeds (faultless : Faultless oracle) (state : State)
    (absent : ∀ path ∈ state.slots.values.flatMap slotDirectories,
      state.disk.content path = none)
    (readable : ∀ after, Prepared state.disk after (state.slots.values.flatMap slotDirectories) →
      ∀ raw ∈ tokenObjects host oracle state.disk state.slots.values,
        after.records raw.path ≠ none) :
    (loadTokenObjects host oracle state).2 = true := by
  have slotsLoad := loadSlots_succeeds digests faultless
    { state with objects := ∅, nextObjectHandle := 1 } state.slots.values absent
  unfold loadTokenObjects
  split
  · rename_i failed
    rw [failed] at slotsLoad
    contradiction
  · rename_i loaded isLoaded
    rcases loadSlots_eq_true isLoaded with ⟨disk, prepared, rfl⟩
    have fresh : State.FreshHandles
        { state with objects := ∅, nextObjectHandle := 1, disk := disk } := fun _ _ => rfl
    unfold loadObjectMetadata
    rw [if_neg]
    rw [Bool.not_eq_true, List.any_eq_false]
    intro object member
    rcases OrderedMap.mem_values_iff.mp member with ⟨handle, found⟩
    rcases (get?_registerList fresh _ handle object).mp found with
      old | ⟨index, raw, listed, _, rfl⟩
    · contradiction
    · rw [registerList_eq, faultless.read_eq, Option.isNone_iff_eq_none]
      exact readable disk prepared raw (List.mem_of_getElem? listed)

end

end

end HsmSimulator
