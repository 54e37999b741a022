import HsmSimulator.Pkcs11.AcceptedPins
import HsmSimulator.Storage.Rediscovery

/-!
# Slots that stand

While the module is open, the slots in memory are those an initialisation would find on
the disk, with the same container password, and nothing is in the way of finding them
again.
-/

namespace HsmSimulator

open FileSystem

/-- The slots in memory are found on the disk again. -/
structure Standing (host : Host) (state : State) : Prop where
  placed : ∀ id directory legacyLayout,
    SlotPlace state.disk host.dataDirectory id directory legacyLayout ↔
      ∃ slot, state.findSlot id = some slot ∧ slot.directory = directory ∧
        slot.legacyLayout = legacyLayout
  root : state.disk.content host.dataDirectory = none
  keyDirectories : ∀ id slot, state.findSlot id = some slot →
    ∀ path ∈ slotDirectories slot, state.disk.content path = none
  container : ∀ id slot, state.findSlot id = some slot → ∃ stored,
    pinOfContent (state.disk.content (slot.directory.child p12PasswordFile)) = some stored ∧
      slot.p12Password = stored.getD (environmentValue host .p12Password)
  discoverable : ∀ later, Faultless later →
    Discoverable host state.disk later host.dataDirectory

section

variable {host : Host} {oracle : Oracle} {state : State} {call : Call}

/-! ## One call -/

/-- The place of a slot tells what its key files hold. -/
structure SamePlace (slot other : Slot) : Prop where
  id : slot.id = other.id
  directory : slot.directory = other.directory
  layout : slot.legacyLayout = other.legacyLayout
  password : slot.p12Password = other.p12Password

theorem SamePlace.symm {slot other : Slot} (same : SamePlace slot other) : SamePlace other slot :=
  ⟨same.id.symm, same.directory.symm, same.layout.symm, same.password.symm⟩

theorem samePlace_of_place {slot other : Slot} (same : slot.place = other.place) :
    SamePlace slot other := by
  simp only [Slot.place, Slot.mk.injEq] at same
  rcases same with ⟨id, _, directory, _, _, password, layout, _⟩
  exact ⟨id, directory, layout, password⟩

/-- A call that leaves the module open moves no slot. -/
theorem TokenEffect.places {result : State × Response}
    (effect : TokenEffect host oracle state call result) (isOpen : state.initialized = true)
    (stays : result.1.initialized = true) (id : Nat) :
    (result.1.findSlot id).map Slot.place = (state.findSlot id).map Slot.place := by
  cases effect with
  | kept same _ => exact same.places id
  | pinWritten _ _ same _ => exact same.places id
  | altered _ _ _ _ => rfl
  | metadataLeft _ _ _ => rfl
  | destroyed _ _ _ => rfl
  | creation _ _ _ _ _ creation => cases creation <;> rfl
  | finalized => contradiction
  | initializing closed _ =>
      rw [isOpen] at closed
      contradiction

theorem TokenEffect.slot_before {result : State × Response}
    (effect : TokenEffect host oracle state call result) (isOpen : state.initialized = true)
    (stays : result.1.initialized = true) {id : Nat} {slot : Slot}
    (found : result.1.findSlot id = some slot) :
    ∃ old, state.findSlot id = some old ∧ SamePlace old slot := by
  have same := effect.places isOpen stays id
  rw [found, Option.map_some] at same
  rcases Option.map_eq_some_iff.mp same.symm with ⟨old, oldFound, samePlace⟩
  exact ⟨old, oldFound, samePlace_of_place samePlace⟩

theorem TokenEffect.slot_after {result : State × Response}
    (effect : TokenEffect host oracle state call result) (isOpen : state.initialized = true)
    (stays : result.1.initialized = true) {id : Nat} {old : Slot}
    (found : state.findSlot id = some old) :
    ∃ slot, result.1.findSlot id = some slot ∧ SamePlace slot old := by
  have same := effect.places isOpen stays id
  rw [found, Option.map_some] at same
  rcases Option.map_eq_some_iff.mp same with ⟨slot, slotFound, samePlace⟩
  exact ⟨slot, slotFound, samePlace_of_place samePlace⟩

/-- A call on an open module writes files of keys and files of PINs only. -/
theorem TokenEffect.content_cases {result : State × Response} (wellFormed : WellFormed state)
    (effect : TokenEffect host oracle state call result) (isOpen : state.initialized = true)
    (path : Path) :
    result.1.disk.content path = state.disk.content path ∨
      (∃ slot role, state.findSlot slot.id = some slot ∧ (path = slot.pinPath role ∨
        path = slot.pinTemporary role ∧ oracle.removeFails path = true)) ∨
      ∃ id slot, state.findSlot id = some slot ∧ IsStored slot.directory path := by
  have keyFiles {id : Nat} {slot : Slot} {touched : List Path} {disk : FileSystem}
      (slotFound : state.findSlot id = some slot) (agrees : AgreesOutside touched state.disk disk)
      (stored : ∀ other ∈ touched, IsStored slot.directory other) :
      disk.content path = state.disk.content path ∨
        ∃ id slot, state.findSlot id = some slot ∧ IsStored slot.directory path := by
    by_cases member : path ∈ touched
    · exact Or.inr ⟨id, slot, slotFound, stored path member⟩
    · exact Or.inl (agrees.content path member)
  have slotOf {sessionHandle handle : Nat} {object : Object}
      (isObject : state.findObject sessionHandle handle = some object)
      (token : object.ownerSession = 0) :
      ∃ id slot, state.findSlot id = some slot ∧ IsKeyPath slot.directory object.path := by
    rcases State.findObject_eq_some_iff.mp isObject with ⟨_, _, stored, _⟩
    rcases wellFormed.tokenObject handle object stored token with ⟨_, _, slot, slotFound, keyPath⟩
    exact ⟨_, slot, slotFound, keyPath⟩
  cases effect with
  | kept _ sameDisk => exact Or.inl (by rw [sameDisk])
  | @pinWritten _ slot role other content _ slotFound isPin _ written =>
      by_cases same : path = other
      · subst same
        exact Or.inr (Or.inl ⟨slot, role, slotFound, isPin⟩)
      · left
        rw [written, content_writeFile, if_neg same]
  | altered change token _ _ =>
      rcases slotOf change.found token with ⟨id, slot, slotFound, keyPath⟩
      refine (keyFiles slotFound ((AgreesOutside.refl _ _).writeFile
        (List.mem_singleton.mpr rfl) _) ?_).imp_right Or.inr
      intro other member
      rw [List.mem_singleton.mp member]
      exact keyPath.metadata_stored
  | metadataLeft change token _ =>
      rcases slotOf change.found token with ⟨id, slot, slotFound, keyPath⟩
      refine (keyFiles slotFound ((AgreesOutside.refl _ _).writeFile
        (List.mem_singleton.mpr rfl) _) ?_).imp_right Or.inr
      intro other member
      rw [List.mem_singleton.mp member]
      exact keyPath.temporary_stored
  | @destroyed _ _ object disk _ destruction token removed =>
      rcases slotOf destruction.found token with ⟨id, slot, slotFound, keyPath⟩
      have agrees : AgreesOutside [object.path, Metadata.path object.path] state.disk disk :=
        keyFileRemoval_agrees removed (by simp) (by simp)
      refine (keyFiles slotFound agrees ?_).imp_right Or.inr
      have file := keyPath.stored
      have metadata := keyPath.metadata_stored
      simp [file, metadata]
  | @creation _ _ _ _ new _ _ _ _ guard made creation =>
      rcases creation.agrees with ⟨agrees, session⟩
      cases token : new.token with
      | false => exact Or.inl (by rw [session token])
      | true =>
          have keyPath := made.keyPath (Or.inl token)
          refine (keyFiles guard.slotFound agrees ?_).imp_right Or.inr
          have file := keyPath.stored
          have metadata := keyPath.metadata_stored
          have temporary := keyPath.temporary_stored
          simp [NewKey.files, file, metadata, temporary]
  | finalized => exact Or.inl rfl
  | initializing closed _ =>
      rw [isOpen] at closed
      contradiction

/-- A path that is neither the file of a PIN nor deep enough for one of a key is kept. -/
theorem TokenEffect.content_kept {result : State × Response} (wellFormed : WellFormed state)
    (effect : TokenEffect host oracle state call result) (isOpen : state.initialized = true)
    {path : Path}
    (shallow : ∀ id slot, state.findSlot id = some slot → path.length < slot.directory.length + 2)
    (notPin : ∀ slot role, state.findSlot slot.id = some slot →
      path ≠ slot.pinPath role ∧ path ≠ slot.pinTemporary role) :
    result.1.disk.content path = state.disk.content path := by
  rcases effect.content_cases wellFormed isOpen path with
    same | ⟨slot, role, slotFound, isPin | ⟨isTemporary, _⟩⟩ | ⟨id, slot, slotFound, stored⟩
  · exact same
  · exact ((notPin slot role slotFound).1 isPin).elim
  · exact ((notPin slot role slotFound).2 isTemporary).elim
  · have depth := stored.length_eq
    have bound := shallow id slot slotFound
    omega

/-- A call that succeeds leaves a valid PIN in the file it replaced. -/
theorem pinFile_kept (wellFormed : WellFormed state) (isOpen : state.initialized = true)
    {id : Nat} {slot : Slot} (found : state.findSlot id = some slot) (role : UserType) :
    PasswordKept state.disk (step host state (call, oracle)).1.disk (slot.pinPath role) := by
  have effect : Effect host oracle state call (step host state (call, oracle)) :=
    step_effect wellFormed call
  have directories := (effect.token wellFormed).directories isOpen
  by_cases same : (step host state (call, oracle)).1.disk.content (slot.pinPath role) =
      state.disk.content (slot.pinPath role)
  · left
    exact ⟨hasPath_congr same (by rw [directories]), same⟩
  · right
    have granted := effect.storedPin wellFormed found same
    rcases granted.request with ⟨_, session, other, pin, _, _, _, _, otherFound, asked⟩
    rw [found] at otherFound
    cases otherFound
    have stored := pinStored_of_ok wellFormed asked granted.succeeded
    refine ⟨pin.content, validatePin_content stored.valid, ?_⟩
    rw [stored.next_eq]
    change (state.disk.writeFile (slot.pinPath role) pin.content).content (slot.pinPath role) = _
    rw [content_writeFile, if_pos rfl]

theorem pinTemporary_eq (slot : Slot) (role : UserType) :
    slot.pinTemporary role = slot.directory.child (pinFile role ++ ascii ".tmp") :=
  Path.extend_child _ _ _

/-- The name of a PIN file, temporary or not. -/
def IsPinName (name : Bytes) : Prop :=
  ∃ role, name = pinFile role ∨ name = pinFile role ++ ascii ".tmp"

/-- No key directory has the name of a PIN file. -/
theorem IsPinName.not_kind {name kind : Bytes} (isPin : IsPinName name)
    (isKind : kind = asymmetricDirectory ∨ kind = symmetricDirectory) : name ≠ kind := by
  rcases isPin with ⟨role, rfl | rfl⟩ <;> rcases isKind with rfl | rfl <;> cases role <;> decide

/-- A PIN file is none that is written before one. -/
theorem IsPinName.of_password {name : Bytes} (isPassword : name ∈ passwordFiles)
    (isPin : IsPinName name) : ∃ role, name = pinFile role := by
  rcases isPin with ⟨role, isFile | rfl⟩
  · exact ⟨role, isFile⟩
  · exfalso
    revert isPassword
    cases role <;> decide

/-- What a slot directory holds beside its PIN files and its keys is kept. -/
theorem TokenEffect.child_kept {result : State × Response} (wellFormed : WellFormed state)
    (effect : TokenEffect host oracle state call result) (isOpen : state.initialized = true)
    {id : Nat} {slot : Slot} (found : state.findSlot id = some slot) {name : Bytes}
    (notPin : ¬IsPinName name) :
    result.1.disk.content (slot.directory.child name) =
      state.disk.content (slot.directory.child name) := by
  apply effect.content_kept wellFormed isOpen
  · intro other otherSlot otherFound
    have level := wellFormed.layout.level _ _ _ _ found otherFound
    rw [Path.child, List.length_append, List.length_singleton]
    omega
  · intro other role _
    constructor
    · intro same
      exact notPin ⟨role, Or.inl (Path.child_inj.mp same).2⟩
    · intro same
      rw [pinTemporary_eq] at same
      exact notPin ⟨role, Or.inr (Path.child_inj.mp same).2⟩

namespace Standing

variable (standing : Standing host state)

include standing

theorem root_le {id : Nat} {slot : Slot} (found : state.findSlot id = some slot) :
    host.dataDirectory.length ≤ slot.directory.length :=
  ((standing.placed id _ _).mpr ⟨slot, found, rfl, rfl⟩).root_le

/-- A call leaves the slots standing, whatever faults it meets. -/
theorem step (wellFormed : WellFormed state) (isOpen : state.initialized = true)
    (stays : (HsmSimulator.step host state (call, oracle)).1.initialized = true) :
    Standing host (HsmSimulator.step host state (call, oracle)).1 := by
  have effect : TokenEffect host oracle state call (HsmSimulator.step host state (call, oracle)) :=
    step_token wellFormed call
  have pins {id : Nat} {slot : Slot} (found : state.findSlot id = some slot) (role : UserType) :=
    @pinFile_kept host oracle state call wellFormed isOpen id slot found role
  generalize HsmSimulator.step host state (call, oracle) = result at effect pins stays ⊢
  have directories := effect.directories isOpen
  have hasPath_eq {path : Path} (same : result.1.disk.content path = state.disk.content path) :
      result.1.disk.hasPath path = state.disk.hasPath path :=
    hasPath_congr same (by rw [directories])
  constructor
  · intro id directory legacyLayout
    rw [slotPlace_of_directories directories, standing.placed]
    constructor
    · rintro ⟨old, found, rfl, rfl⟩
      rcases effect.slot_after isOpen stays found with ⟨slot, slotFound, same⟩
      exact ⟨slot, slotFound, same.directory, same.layout⟩
    · rintro ⟨slot, found, rfl, rfl⟩
      rcases effect.slot_before isOpen stays found with ⟨old, oldFound, same⟩
      exact ⟨old, oldFound, same.directory, same.layout⟩
  · rw [effect.content_kept wellFormed isOpen]
    · exact standing.root
    · intro id slot found
      have level := standing.root_le found
      omega
    · intro slot role found
      have level := standing.root_le found
      have depth := pinPath_length slot role
      constructor
      · intro same
        rw [← same] at depth
        omega
      · intro same
        rw [← same] at depth
        omega
  · intro id slot found path member
    rcases effect.slot_before isOpen stays found with ⟨old, oldFound, same⟩
    have free := standing.keyDirectories id old oldFound
    rw [slotDirectories, same.directory] at free
    have kept {kind : Bytes} (isKind : kind = asymmetricDirectory ∨ kind = symmetricDirectory) :
        result.1.disk.content (slot.directory.child kind) =
          state.disk.content (slot.directory.child kind) := by
      rw [← same.directory]
      exact effect.child_kept wellFormed isOpen oldFound fun isPin => isPin.not_kind isKind rfl
    have isFree := free path member
    simp only [slotDirectories, List.mem_cons, List.not_mem_nil, or_false] at member
    rcases member with rfl | rfl
    · rw [kept (Or.inl rfl), isFree]
    · rw [kept (Or.inr rfl), isFree]
  · intro id slot found
    rcases effect.slot_before isOpen stays found with ⟨old, oldFound, same⟩
    have notPin : ¬IsPinName p12PasswordFile := by
      rintro ⟨role, same | same⟩ <;> revert same <;> cases role <;> decide
    have kept := effect.child_kept wellFormed isOpen oldFound notPin
    rcases standing.container id old oldFound with ⟨stored, isStored, isPassword⟩
    rw [← kept, same.directory] at isStored
    exact ⟨stored, isStored, same.password.symm.trans isPassword⟩
  · intro later laterFaultless
    refine (standing.discoverable later laterFaultless).again laterFaultless ?_ ?_ ?_
    · intro entry digits label
      have sameEntries : entry ∈ result.1.disk.subdirectories host.dataDirectory ↔
          entry ∈ state.disk.subdirectories host.dataDirectory := by
        rw [mem_subdirectories, mem_subdirectories, directories]
      exact ⟨fun isEntry => ⟨sameEntries.mp isEntry.member, isEntry.named⟩,
        fun isEntry => ⟨sameEntries.mpr isEntry.member, isEntry.named⟩⟩
    · intro id directory legacyLayout place name isPassword
      rcases (standing.placed _ _ _).mp place with ⟨slot, found, rfl, _⟩
      by_cases isPin : IsPinName name
      · rcases isPin.of_password isPassword with ⟨role, rfl⟩
        exact pins found role
      · have kept := effect.child_kept wellFormed isOpen found isPin
        exact Or.inl ⟨hasPath_eq kept, kept⟩
    · intro entry digits label _ kind isKind
      apply hasPath_eq
      apply effect.content_kept wellFormed isOpen
      · intro id slot found
        have level := standing.root_le found
        rw [Path.child, List.length_append, List.length_singleton]
        omega
      · intro slot role _
        have isPin : IsPinName kind → False := fun isPin => isPin.not_kind isKind rfl
        constructor
        · intro same
          exact isPin ⟨role, Or.inl (Path.child_inj.mp same).2⟩
        · intro same
          rw [pinTemporary_eq] at same
          exact isPin ⟨role, Or.inr (Path.child_inj.mp same).2⟩

end Standing

/-! ## Initialisation -/

/-- An initialisation that succeeds, step by step. -/
structure Opened (host : Host) (oracle : Oracle) (state : State) (disk : FileSystem)
    (slots : OrderedMap Nat Slot) (next : State) : Prop where
  rootMade : state.disk.createDirectories oracle host.dataDirectory = some disk
  listed : oracle.listingFails host.dataDirectory = false
  discovers : discoverSlotsIn host disk oracle host.dataDirectory = some slots
  loads : loadTokenObjects host oracle
    { state with storageRoot := host.dataDirectory, disk := disk, slots := slots } = (next, true)

theorem cInitialize_eq_ok_iff (closed : state.initialized = false) {result : State} :
    cInitialize host state oracle false = (result, .plain .ok) ↔
      ∃ disk slots next, Opened host oracle state disk slots next ∧
        result = { next with initialized := true } := by
  unfold cInitialize
  rw [if_neg (by simp [closed]), if_neg (by simp)]
  unfold discoverSlots
  have failure : Response.plain .deviceError ≠ Response.plain .ok := by decide
  constructor
  · intro opens
    cases made : state.disk.createDirectories oracle host.dataDirectory with
    | none => simp [made, failure] at opens
    | some disk =>
        cases listed : oracle.listingFails host.dataDirectory with
        | true => simp [made, listed, failure] at opens
        | false =>
            cases discovers : discoverSlotsIn host disk oracle host.dataDirectory with
            | none => simp [made, listed, discovers, failure] at opens
            | some slots =>
                cases loads : loadTokenObjects host oracle
                    { state with storageRoot := host.dataDirectory, disk := disk,
                                 slots := slots } with
                | mk next loaded =>
                    cases loaded with
                    | false => simp [made, listed, discovers, loads, failure] at opens
                    | true =>
                        simp only [made, listed, discovers, loads, Bool.false_eq_true, if_false,
                          Prod.mk.injEq, and_true] at opens
                        exact ⟨disk, slots, next, ⟨made, listed, discovers, loads⟩, opens.symm⟩
  · rintro ⟨disk, slots, next, opened, rfl⟩
    simp [opened.rootMade, opened.listed, opened.discovers, opened.loads]

theorem loadTokenObjects_absent {next : State}
    (loads : loadTokenObjects host oracle state = (next, true)) :
    ∀ path ∈ state.slots.values.flatMap slotDirectories, state.disk.content path = none := by
  unfold loadTokenObjects at loads
  split at loads
  · cases loads
  · rename_i loaded slotsLoad
    have absent := loadSlots_absent slotsLoad
    exact absent

/-- The slots of an initialisation that succeeds stand. -/
theorem Opened.standing {disk : FileSystem} {slots : OrderedMap Nat Slot} {next : State}
    (opened : Opened host oracle state disk slots next) :
    Standing host { next with initialized := true } := by
  have discovered := discoverSlotsIn_eq_some opened.discovers
  have loaded := loadTokenObjects_eq_true opened.loads
  have prepared := loaded.prepared
  have absent := loadTokenObjects_absent opened.loads
  have sameSlots : next.slots = slots := loaded.slots_eq
  have valid : Discoverable host disk oracle host.dataDirectory :=
    (discoverSlotsIn_isSome_iff opened.listed).mp (by rw [opened.discovers]; rfl)
  have content (path : Path) : next.disk.content path = disk.content path := prepared.content path
  have found_iff (id : Nat) (slot : Slot) :
      State.findSlot { next with initialized := true } id = some slot ↔
        slots.get? id = some slot := by
    rw [State.findSlot, sameSlots]
  constructor
  · intro id directory legacyLayout
    change SlotPlace next.disk host.dataDirectory id directory legacyLayout ↔ _
    rw [slotPlace_prepared prepared fun path member => Or.inr (mem_flatMap_slotDirectories member)]
    constructor
    · intro place
      rcases discovered.listed id directory legacyLayout place with ⟨slot, found, isLoaded⟩
      exact ⟨slot, (found_iff id slot).mpr found, isLoaded.directory, isLoaded.layout⟩
    · rintro ⟨slot, found, rfl, rfl⟩
      rcases discovered.origin id slot ((found_iff id slot).mp found) with
        ⟨directory, legacyLayout, place, isLoaded⟩
      rw [isLoaded.directory, isLoaded.layout]
      exact place
  · change next.disk.content host.dataDirectory = none
    rw [content, (createDirectories_prepared opened.rootMade).content]
    exact createDirectories_absent opened.rootMade
  · intro id slot found path member
    have listed : slot ∈ slots.values :=
      OrderedMap.mem_values_iff.mpr ⟨id, (found_iff id slot).mp found⟩
    exact (content path).trans (absent path (List.mem_flatMap.mpr ⟨slot, listed, member⟩))
  · intro id slot found
    rcases discovered.origin id slot ((found_iff id slot).mp found) with ⟨_, _, _, isLoaded⟩
    rcases isLoaded.passwords.p12 with ⟨stored, reads, isPassword⟩
    refine ⟨stored, ?_, isPassword⟩
    change pinOfContent (next.disk.content _) = some stored
    rw [content]
    exact readPassword_eq_some reads
  · intro later faultless
    exact valid.prepared faultless prepared fun path member =>
      Or.inr (mem_slotDirectories discovered member)

/-! ## Discovery again -/

/-- The slots that are discovered again are those in memory. -/
structure Rediscovered (host : Host) (later : Oracle) (state : State) (disk : FileSystem)
    (slots : OrderedMap Nat Slot) : Prop where
  rootMade : state.disk.createDirectories later host.dataDirectory = some disk
  discovers : discoverSlotsIn host disk later host.dataDirectory = some slots
  before : ∀ id slot, slots.get? id = some slot →
    ∃ old, state.findSlot id = some old ∧ SamePlace old slot
  after : ∀ id old, state.findSlot id = some old →
    ∃ slot, slots.get? id = some slot ∧ SamePlace old slot

theorem Standing.rediscovered (standing : Standing host state) (wellFormed : WellFormed state)
    {later : Oracle} (faultless : Faultless later) :
    ∃ disk slots, Rediscovered host later state disk slots := by
  have rootMade := faultless.createDirectories_eq _ standing.root
  have prepared := createDirectories_prepared rootMade
  generalize ({ state.disk with
    directories := state.disk.directories.emplace host.dataDirectory () } : FileSystem) = disk
    at rootMade prepared
  have valid : Discoverable host disk later host.dataDirectory :=
    (standing.discoverable later faultless).prepared faultless prepared fun path member =>
      Or.inl (List.mem_singleton.mp member)
  rcases Option.isSome_iff_exists.mp
    ((discoverSlotsIn_isSome_iff (faultless.listing _)).mpr valid) with ⟨slots, discovers⟩
  have discovered := discoverSlotsIn_eq_some discovers
  have samePlace {id : Nat} {old slot : Slot} (oldFound : state.findSlot id = some old)
      (isLoaded : LoadedFrom host disk later old.directory id old.legacyLayout slot) :
      SamePlace old slot := by
    refine ⟨(wellFormed.slotKey id old oldFound).trans isLoaded.id.symm, isLoaded.directory.symm,
      isLoaded.layout.symm, ?_⟩
    rcases standing.container id old oldFound with ⟨stored, isStored, isPassword⟩
    rcases isLoaded.passwords.p12 with ⟨again, reads, samePassword⟩
    have isAgain := readPassword_eq_some reads
    rw [isLoaded.directory, prepared.content, isStored] at isAgain
    rw [isPassword, samePassword, Option.some.inj isAgain]
  refine ⟨disk, slots, rootMade, discovers, ?_, ?_⟩
  · intro id slot found
    rcases discovered.origin id slot found with ⟨directory, legacyLayout, place, isLoaded⟩
    rw [slotPlace_prepared_root prepared] at place
    rcases (standing.placed _ _ _).mp place with ⟨old, oldFound, rfl, rfl⟩
    exact ⟨old, oldFound, samePlace oldFound isLoaded⟩
  · intro id old oldFound
    have place := (standing.placed id _ _).mpr ⟨old, oldFound, rfl, rfl⟩
    rw [← slotPlace_prepared_root prepared] at place
    rcases discovered.listed _ _ _ place with ⟨slot, found, isLoaded⟩
    exact ⟨slot, found, samePlace oldFound isLoaded⟩

end

end HsmSimulator
