import HsmSimulator.System.Crashes

/-!
# Key files stand alone

What a process finds in a key file is decided by the file, its metadata and the place of its
slot.  All other files, those that nobody can read among them, and all other slots may be
different: they decide at most whether the module opens.
-/

namespace HsmSimulator

open FileSystem

section

variable {host : Host} {half : EvpKey → Option EvpKey} {oracle : Oracle} {state next : State}

/-- Two states that mirror one key file have the same objects of it. -/
theorem Mirrored.alike {path : Path} (before : Mirrored host half state path)
    (after : Mirrored host half next path)
    (slots : ∀ id slot, state.findSlot id = some slot → IsKeyPath slot.directory path →
      ∃ other, next.findSlot id = some other ∧ SamePlace other slot)
    (content : next.disk.content path = state.disk.content path)
    (records : next.disk.records path = state.disk.records path)
    {handle : Nat} {object : Object} (isObject : FileObject state.objects path handle object) :
    ∃ later other, FileObject next.objects path later other ∧ other.core = object.core ∧
      other.record = object.record := by
  obtain ⟨raw, ⟨id, slot, bytes, found, isContent, member⟩, reads⟩ :=
    before.stored handle object isObject
  obtain ⟨other, otherFound, same⟩ := slots id slot found (fileObjects_raw member).2
  have storedAgain : StoredObject host half next path raw :=
    ⟨id, other, bytes, otherFound, content.trans isContent, by rwa [fileObjects_congr same]⟩
  obtain ⟨later, copy, isCopy, again⟩ := after.registered raw storedAgain
  obtain ⟨first, isFirst, record⟩ := reads.recorded
  obtain ⟨second, isSecond, sameRecord⟩ := again.recorded
  rw [records, isFirst] at isSecond
  cases isSecond
  exact ⟨later, copy, isCopy, again.core.trans reads.core.symm, sameRecord.trans record.symm⟩

/-- Opening the module leaves the metadata of the key files of its slots. -/
theorem Opened.records_kept {disk : FileSystem} {slots : OrderedMap Nat Slot}
    (opened : Opened host oracle state disk slots next) (level : SlotLayout slots)
    {id : Nat} {slot : Slot} (found : slots.get? id = some slot) {path : Path}
    (keyPath : IsKeyPath slot.directory path) :
    next.disk.records path = state.disk.records path := by
  have discovered := discoverSlotsIn_eq_some opened.discovers
  have loaded := loadTokenObjects_eq_true opened.loads
  obtain ⟨directory, legacyLayout, place, isLoaded⟩ := discovered.origin id slot found
  have inRoot := place.root_le
  rw [← isLoaded.directory] at inRoot
  rw [records_prepared loaded.prepared, records_prepared (createDirectories_prepared
    opened.rootMade)]
  · intro isRoot
    have depth := keyPath.metadata_stored.length_eq
    rw [List.mem_singleton.mp isRoot] at depth
    omega
  · apply keyPath.metadata_not_directory
    intro other listed
    obtain ⟨otherId, otherFound⟩ := OrderedMap.mem_values_iff.mp listed
    exact level.level _ _ _ _ otherFound found

/-- A process that opened has read the files of its disk. -/
structure Booted (host : Host) (half : EvpKey → Option EvpKey) (disk : FileSystem)
    (opened : State) : Prop where
  order : TokenOrder opened
  mirrored : ∀ path, Mirrored host half opened path
  content : ∀ path, opened.disk.content path = disk.content path
  records : ∀ id slot path, opened.findSlot id = some slot → IsKeyPath slot.directory path →
    opened.disk.records path = disk.records path

theorem booted {disk : FileSystem} (faultless : Faultless oracle)
    (opens : (boot host disk oracle).2.rv = .ok) :
    Booted host oracle.publicHalf disk (boot host disk oracle).1 := by
  have order : TokenOrder (boot host disk oracle).1 :=
    (tokenOrder_loaded disk).step _ fun _ _ isNew => by contradiction
  have closed : (State.loaded disk).initialized = false := rfl
  have initialization : Initialization host oracle (.loaded disk) (boot host disk oracle) :=
    cInitialize_initialization host oracle closed
  have answer : cInitialize host (.loaded disk) oracle false =
      ((boot host disk oracle).1, .plain .ok) := by
    change boot host disk oracle = _
    generalize boot host disk oracle = result at initialization opens ⊢
    cases initialization with
    | failed _ _ _ _ _ _ _ _ => contradiction
    | succeeded _ _ _ => rfl
  obtain ⟨made, slots, next, opened, isNext⟩ := (cInitialize_eq_ok_iff closed).mp answer
  have loaded := loadTokenObjects_eq_true opened.loads
  have sameSlots : next.slots = slots := loaded.slots_eq
  rw [isNext] at order ⊢
  constructor
  · exact order
  · exact fun path => opened.mirrored path (faultless.read path) rfl
  · intro path
    exact (loaded.prepared.content path).trans
      ((createDirectories_prepared opened.rootMade).content path)
  · intro id slot path found keyPath
    have layout : SlotLayout next.slots := order.wellFormed.layout
    rw [sameSlots] at layout
    change next.slots.get? id = some slot at found
    rw [sameSlots] at found
    exact opened.records_kept layout found keyPath

/-- What one process has of the key file the other one has, too. -/
theorem Booted.kept {left right : FileSystem} (before : Booted host half left state)
    (after : Booted host half right next) {id : Nat} {slot other : Slot}
    (found : state.findSlot id = some slot) (otherFound : next.findSlot id = some other)
    (same : SamePlace other slot) {path : Path} (keyPath : IsKeyPath slot.directory path)
    (content : right.content path = left.content path)
    (records : right.records path = left.records path) {handle : Nat} {object : Object}
    (isObject : FileObject state.objects path handle object) :
    ∃! later, next.objects.get? later = some { object with handle := later } := by
  have otherPath : IsKeyPath other.directory path := by rwa [same.directory]
  have slots : ∀ key owner, state.findSlot key = some owner → IsKeyPath owner.directory path →
      ∃ copy, next.findSlot key = some copy ∧ SamePlace copy owner := by
    intro key owner ownerFound ownerPath
    have isOwner : key = id := before.order.wellFormed.layout.distinct _ _ _ _ ownerFound found
      (ownerPath.directory_eq keyPath)
    rw [isOwner, found] at ownerFound
    cases ownerFound
    exact ⟨other, isOwner ▸ otherFound, same⟩
  have sameContent : next.disk.content path = state.disk.content path := by
    rw [before.content, after.content, content]
  have sameRecords : next.disk.records path = state.disk.records path := by
    rw [before.records id slot path found keyPath, after.records id other path otherFound
      otherPath, records]
  obtain ⟨later, copy, isCopy, core, record⟩ := (before.mirrored path).alike
    (after.mirrored path) slots sameContent sameRecords isObject
  exact after.order.handle_unique isObject.token (after.order.get?_renamed isCopy core record)

end

/-- On any two disks on which the module opens: a key file with the same content and the same
metadata, in the same place, gives the same objects, each once, whatever the other files are. -/
theorem key_files_apart (host : Host) (left right : FileSystem) (leftOracle rightOracle : Oracle)
    (leftFaultless : Faultless leftOracle) (rightFaultless : Faultless rightOracle)
    (halves : rightOracle.publicHalf = leftOracle.publicHalf)
    (leftOpens : (boot host left leftOracle).2.rv = .ok)
    (rightOpens : (boot host right rightOracle).2.rv = .ok) (id : Nat) (slot other : Slot)
    (leftSlot : (boot host left leftOracle).1.findSlot id = some slot)
    (rightSlot : (boot host right rightOracle).1.findSlot id = some other)
    (same : SamePlace other slot) (path : Path) (keyPath : IsKeyPath slot.directory path)
    (content : right.content path = left.content path)
    (records : right.records path = left.records path) :
    Returns path (boot host left leftOracle).1 (boot host right rightOracle).1 := by
  have before := booted leftFaultless leftOpens
  have after := booted rightFaultless rightOpens
  rw [halves] at after
  have otherPath : IsKeyPath other.directory path := by rwa [same.directory]
  constructor
  · intro handle object isObject
    exact before.kept after leftSlot rightSlot same keyPath content records isObject
  · intro later object isObject
    exact after.kept before rightSlot leftSlot same.symm otherPath content.symm records.symm
      isObject

/-- A key beside a file that is not the text of a key. -/
theorem key_files_apart_unreadable :
    let left := (Runs.final (step .plain) (.loaded ⟨∅, ∅⟩)
      (plainRun [.cInitialize false, .openSession 1 6 true, aesKey 1])).disk
    let right := left.writeFile [ascii "data", ascii "symmetric", ascii "other.key"] (ascii "zz")
    let path := [ascii "data", ascii "symmetric", ascii "aes-key.key"]
    left.content path ≠ none ∧
      Returns path (boot .plain left .plain).1 (boot .plain right .plain).1 := by
  intro left right path
  have opens : (boot .plain left .plain).2.rv = .ok ∧ (boot .plain right .plain).2.rv = .ok := by
    decide +kernel
  have sameSlots : (boot .plain left .plain).1.findSlot 1 =
      (boot .plain right .plain).1.findSlot 1 := by
    decide +kernel
  have directory : ((boot .plain left .plain).1.findSlot 1).map Slot.directory =
      some [ascii "data"] := by
    decide +kernel
  obtain ⟨slot, found, isDirectory⟩ := Option.map_eq_some_iff.mp directory
  have keyPath : IsKeyPath slot.directory path := by
    rw [isDirectory]
    exact ⟨ascii "symmetric", ascii "aes-key.key", Or.inr rfl, by decide, rfl⟩
  refine ⟨by decide +kernel, ?_⟩
  exact key_files_apart .plain left right .plain .plain dependable_plain.faultless
    dependable_plain.faultless rfl opens.1 opens.2 1 slot slot found (sameSlots.symm.trans found)
    ⟨rfl, rfl, rfl, rfl⟩ path keyPath (by decide +kernel) (by decide +kernel)

end HsmSimulator
