import HsmSimulator.Pkcs11.Standing

/-!
# Files of others

The module writes PIN files, key files, their metadata and the temporary files of these, in the
slots that the storage root had when the module was loaded.  Whatever else lies in the file
system stays as it is over every run, also in the directories of the slots.
-/

namespace HsmSimulator

open FileSystem

/-- A file that a slot has for a PIN, a key or the metadata of a key. -/
inductive OwnFile (directory path : Path) : Prop
  | pin (name : Bytes) : IsPinName name → path = directory.child name → OwnFile directory path
  | key (key : Path) : IsKeyPath directory key →
      (path = key ∨ path = Metadata.path key ∨ path = Metadata.temporaryPath key) →
      OwnFile directory path

/-- The root or one of the two key directories of a slot. -/
inductive OwnDirectory (host : Host) (disk : FileSystem) (path : Path) : Prop
  | root : path = host.dataDirectory → OwnDirectory host disk path
  | keys (id : Nat) (directory : Path) (legacyLayout : Bool) :
      SlotPlace disk host.dataDirectory id directory legacyLayout →
      (path = directory.child asymmetricDirectory ∨ path = directory.child symmetricDirectory) →
      OwnDirectory host disk path

/-- What a run leaves of a disk: the slots are where they were, files of others are unchanged,
directories stay, and only those of the slots are new. -/
structure LeavesAlone (host : Host) (disk : FileSystem) (state : State) : Prop where
  places : ∀ id directory legacyLayout,
    SlotPlace state.disk host.dataDirectory id directory legacyLayout ↔
      SlotPlace disk host.dataDirectory id directory legacyLayout
  slots : ∀ id slot, state.findSlot id = some slot →
    SlotPlace disk host.dataDirectory id slot.directory slot.legacyLayout
  files : ∀ path, (∀ id directory legacyLayout,
    SlotPlace disk host.dataDirectory id directory legacyLayout → ¬OwnFile directory path) →
    state.disk.content path = disk.content path
  kept : ∀ path, disk.directories.get? path = some () →
    state.disk.directories.get? path = some ()
  made : ∀ path, state.disk.directories.get? path = some () →
    disk.directories.get? path = some () ∨ OwnDirectory host disk path

section

variable {host : Host} {oracle : Oracle} {state : State} {call : Call}

/-! ## Files -/

theorem ownFile_pin (slot : Slot) (role : UserType) {path : Path}
    (isPin : path = slot.pinPath role ∨ path = slot.pinTemporary role) :
    OwnFile slot.directory path := by
  rcases isPin with rfl | rfl
  · exact .pin (pinFile role) ⟨role, Or.inl rfl⟩ rfl
  · exact .pin (pinFile role ++ ascii ".tmp") ⟨role, Or.inr rfl⟩ (pinTemporary_eq slot role)

/-- A call on an open module writes own files of its slots only. -/
theorem TokenEffect.ownFile {result : State × Response} (wellFormed : WellFormed state)
    (effect : TokenEffect host oracle state call result) (isOpen : state.initialized = true)
    (path : Path) : result.1.disk.content path = state.disk.content path ∨
      ∃ id slot, state.findSlot id = some slot ∧ OwnFile slot.directory path := by
  have keyFiles {id : Nat} {slot : Slot} {key : Path} {disk : FileSystem}
      (slotFound : state.findSlot id = some slot) (keyPath : IsKeyPath slot.directory key)
      (agrees : AgreesOutside [key, Metadata.path key, Metadata.temporaryPath key]
        state.disk disk) : disk.content path = state.disk.content path ∨
          ∃ id slot, state.findSlot id = some slot ∧ OwnFile slot.directory path := by
    by_cases member : path ∈ [key, Metadata.path key, Metadata.temporaryPath key]
    · right
      exact ⟨id, slot, slotFound, .key key keyPath (by simpa using member)⟩
    · exact Or.inl (agrees.content path member)
  have slotOf {sessionHandle handle : Nat} {object : Object}
      (isObject : state.findObject sessionHandle handle = some object)
      (token : object.ownerSession = 0) :
      ∃ id slot, state.findSlot id = some slot ∧ IsKeyPath slot.directory object.path := by
    obtain ⟨_, _, stored, _⟩ := State.findObject_eq_some_iff.mp isObject
    obtain ⟨_, _, slot, slotFound, keyPath⟩ := wellFormed.tokenObject handle object stored token
    exact ⟨_, slot, slotFound, keyPath⟩
  cases effect with
  | kept _ sameDisk => exact Or.inl (by rw [sameDisk])
  | @pinWritten _ slot role other content _ slotFound isPin _ written =>
      by_cases same : path = other
      · subst same
        exact Or.inr ⟨slot.id, slot, slotFound, ownFile_pin slot role (isPin.imp_right And.left)⟩
      · left
        rw [written, content_writeFile, if_neg same]
  | altered change token _ _ =>
      obtain ⟨id, slot, slotFound, keyPath⟩ := slotOf change.found token
      apply keyFiles slotFound keyPath
      exact (AgreesOutside.refl _ _).writeFile (by simp) _
  | metadataLeft change token _ =>
      obtain ⟨id, slot, slotFound, keyPath⟩ := slotOf change.found token
      apply keyFiles slotFound keyPath
      exact (AgreesOutside.refl _ _).writeFile (by simp) _
  | destroyed destruction token removed =>
      obtain ⟨id, slot, slotFound, keyPath⟩ := slotOf destruction.found token
      apply keyFiles slotFound keyPath
      exact keyFileRemoval_agrees removed (by simp) (by simp)
  | @creation _ _ _ _ new _ _ _ _ guard made creation =>
      obtain ⟨agrees, session⟩ := creation.agrees
      cases token : new.token with
      | false => exact Or.inl (by rw [session token])
      | true => exact keyFiles guard.slotFound (made.keyPath (Or.inl token)) agrees
  | finalized => exact Or.inl rfl
  | initializing closed _ =>
      rw [isOpen] at closed
      contradiction

/-! ## One call -/

namespace LeavesAlone

variable {disk : FileSystem} (alone : LeavesAlone host disk state)

include alone

/-- Creating directories of the root and its slots leaves everything else. -/
theorem prepared {next : State} {created : List Path}
    (prepared : Prepared state.disk next.disk created)
    (own : ∀ path ∈ created, OwnDirectory host disk path)
    (places : ∀ id directory legacyLayout,
      SlotPlace next.disk host.dataDirectory id directory legacyLayout ↔
        SlotPlace state.disk host.dataDirectory id directory legacyLayout)
    (slots : ∀ id slot, next.findSlot id = some slot →
      SlotPlace state.disk host.dataDirectory id slot.directory slot.legacyLayout) :
    LeavesAlone host disk next := by
  constructor
  · intro id directory legacyLayout
    exact (places id directory legacyLayout).trans (alone.places id directory legacyLayout)
  · intro id slot found
    exact (alone.places _ _ _).mp (slots id slot found)
  · intro path other
    exact (prepared.content path).trans (alone.files path other)
  · intro path wasThere
    rw [prepared.directories]
    split
    · rfl
    · exact alone.kept path wasThere
  · intro path isThere
    rw [prepared.directories] at isThere
    split at isThere
    · rename_i member
      exact Or.inr (own path member)
    · exact alone.made path isThere

theorem initialization {result : State × Response}
    (initialization : Initialization host oracle state result) :
    LeavesAlone host disk result.1 := by
  have places := initialization.slotPlace
  cases initialization with
  | failed _ noSlots _ _ _ _ prepared created =>
      apply alone.prepared prepared _ places
      · intro id slot found
        rw [State.findSlot, noSlots] at found
        contradiction
      · intro path member
        rcases created path member with isRoot | ⟨id, directory, layout, place, isKind⟩
        · exact .root isRoot
        · exact .keys id directory layout ((alone.places _ _ _).mp place) isKind
  | @succeeded middle slots next rootMade discovered loaded =>
      have sameSlots : next.slots = slots := loaded.slots_eq
      have rooted (id : Nat) (directory : Path) (legacyLayout : Bool) :
          SlotPlace middle host.dataDirectory id directory legacyLayout ↔
            SlotPlace state.disk host.dataDirectory id directory legacyLayout :=
        slotPlace_prepared rootMade (fun path member => Or.inl (List.mem_singleton.mp member)) _ _ _
      have placed {id : Nat} {slot : Slot} (found : slots.get? id = some slot) :
          SlotPlace state.disk host.dataDirectory id slot.directory slot.legacyLayout := by
        obtain ⟨directory, legacyLayout, place, isLoaded⟩ := discovered.origin id slot found
        rw [isLoaded.directory, isLoaded.layout]
        exact (rooted _ _ _).mp place
      apply @prepared _ _ _ alone { next with initialized := true } _
        (rootMade.trans loaded.prepared) _ places
      · intro id slot found
        change next.slots.get? id = some slot at found
        rw [sameSlots] at found
        exact placed found
      · intro path member
        rcases List.mem_append.mp member with isRoot | inSlots
        · exact .root (List.mem_singleton.mp isRoot)
        · obtain ⟨slot, listed, isKind⟩ := List.mem_flatMap.mp inSlots
          obtain ⟨id, found⟩ := OrderedMap.mem_values_iff.mp listed
          exact .keys id slot.directory slot.legacyLayout ((alone.places _ _ _).mp (placed found))
            (by simpa [slotDirectories] using isKind)

theorem effect {result : State × Response} (wellFormed : WellFormed state)
    (isOpen : state.initialized = true) (effect : TokenEffect host oracle state call result)
    (nextWellFormed : WellFormed result.1) : LeavesAlone host disk result.1 := by
  have directories := effect.directories isOpen
  constructor
  · intro id directory legacyLayout
    rw [slotPlace_of_directories directories]
    exact alone.places id directory legacyLayout
  · intro id slot found
    have stays : result.1.initialized = true := by
      by_contra closes
      have noSlots := (nextWellFormed.closed (Bool.eq_false_of_not_eq_true closes)).1
      rw [State.findSlot, noSlots] at found
      contradiction
    obtain ⟨old, oldFound, same⟩ := effect.slot_before isOpen stays found
    rw [← same.directory, ← same.layout]
    exact alone.slots id old oldFound
  · intro path other
    rcases effect.ownFile wellFormed isOpen path with same | ⟨id, slot, found, isOwn⟩
    · exact same.trans (alone.files path other)
    · exact (other _ _ _ (alone.slots id slot found) isOwn).elim
  · rw [directories]
    exact alone.kept
  · rw [directories]
    exact alone.made

theorem step (wellFormed : WellFormed state) (input : Call × Oracle) :
    LeavesAlone host disk (HsmSimulator.step host state input).1 := by
  obtain ⟨call, oracle⟩ := input
  cases isOpen : state.initialized with
  | true => exact alone.effect wellFormed isOpen (step_token wellFormed call) (wellFormed.step _)
  | false =>
      rcases @step_closed_cases host oracle state isOpen call with ⟨same, _⟩ | ⟨_, initialization⟩
      · rw [same]
        exact alone
      · exact alone.initialization initialization

end LeavesAlone

end

/-! ## Runs -/

end HsmSimulator
