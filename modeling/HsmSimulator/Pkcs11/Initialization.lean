import HsmSimulator.Pkcs11.Effects
import HsmSimulator.Storage.Discovery

/-!
# What initialisation leaves

A successful `C_Initialize` leaves the discovered slots, nobody logged in, and the
token objects the files of the slots hold, with their metadata.  A failed one leaves a
closed module and, at most, directories it created.
-/

namespace HsmSimulator

open FileSystem

/-- How `C_Initialize` on a closed module ends. -/
inductive Initialization (host : Host) (oracle : Oracle) (state : State) :
    State × Response → Prop
  | failed {next : State} {created : List Path} : next.initialized = false → next.slots = ∅ →
      next.objects = ∅ → next.sessions = state.sessions →
      next.nextSessionHandle = state.nextSessionHandle →
      (0 < state.nextObjectHandle → 0 < next.nextObjectHandle) →
      Prepared state.disk next.disk created →
      (∀ path ∈ created, path = host.dataDirectory ∨ ∃ id directory legacyLayout,
        SlotPlace state.disk host.dataDirectory id directory legacyLayout ∧
          (path = directory.child asymmetricDirectory ∨
            path = directory.child symmetricDirectory)) →
      Initialization host oracle state (next, .plain .deviceError)
  | succeeded {disk : FileSystem} {slots : OrderedMap Nat Slot} {next : State} :
      Prepared state.disk disk [host.dataDirectory] →
      Discovered host disk oracle host.dataDirectory slots →
      TokenLoaded host oracle
        { state with storageRoot := host.dataDirectory, disk := disk, slots := slots } next →
      Initialization host oracle state ({ next with initialized := true }, .plain .ok)

/-- Where the slots are depends on the slot directories among the entries of the root. -/
theorem slotPlace_congr {before after : FileSystem} {root : Path}
    (same : ∀ entry id, SlotDirectory entry id →
      (entry ∈ after.subdirectories root ↔ entry ∈ before.subdirectories root)) (id : Nat)
    (directory : Path) (legacyLayout : Bool) :
    SlotPlace after root id directory legacyLayout ↔
      SlotPlace before root id directory legacyLayout := by
  constructor
  · intro place
    cases place with
    | entry member isSlot => exact .entry ((same _ _ isSlot).mp member) isSlot
    | legacy noEntry =>
        exact .legacy fun entry member id isSlot =>
          noEntry entry ((same _ _ isSlot).mpr member) id isSlot
  · intro place
    cases place with
    | entry member isSlot => exact .entry ((same _ _ isSlot).mpr member) isSlot
    | legacy noEntry =>
        exact .legacy fun entry member id isSlot =>
          noEntry entry ((same _ _ isSlot).mp member) id isSlot

/-- Creating the storage root and the key directories of slots makes no new slot. -/
theorem slotPlace_prepared {before after : FileSystem} {root : Path} {created : List Path}
    (prepared : Prepared before after created)
    (outside : ∀ path ∈ created, path = root ∨ ∃ directory : Path,
      path = directory.child asymmetricDirectory ∨ path = directory.child symmetricDirectory)
    (id : Nat) (directory : Path) (legacyLayout : Bool) :
    SlotPlace after root id directory legacyLayout ↔
      SlotPlace before root id directory legacyLayout := by
  apply slotPlace_congr
  intro entry other isSlot
  rw [mem_subdirectories, mem_subdirectories, prepared.directories]
  apply and_congr_right
  rintro ⟨name, rfl⟩
  rw [if_neg]
  intro member
  rw [SlotDirectory, Path.filename_child] at isSlot
  rcases outside _ member with isRoot | ⟨parent, isKind | isKind⟩
  · exact Path.ne_child root name isRoot.symm
  · rw [(Path.child_inj.mp isKind).2] at isSlot
    revert isSlot
    simp [show parseSlotId asymmetricDirectory = some none by decide]
  · rw [(Path.child_inj.mp isKind).2] at isSlot
    revert isSlot
    simp [show parseSlotId symmetricDirectory = some none by decide]

/-- Creating the storage root does not change its entries. -/
theorem slotPlace_prepared_root {before after : FileSystem} {root : Path}
    (prepared : Prepared before after [root]) (id : Nat) (directory : Path)
    (legacyLayout : Bool) :
    SlotPlace after root id directory legacyLayout ↔
      SlotPlace before root id directory legacyLayout :=
  slotPlace_prepared prepared (fun _ member => Or.inl (List.mem_singleton.mp member)) id
    directory legacyLayout

theorem mem_slotDirectories {host : Host} {disk : FileSystem} {oracle : Oracle} {root path : Path}
    {slots : OrderedMap Nat Slot} (discovered : Discovered host disk oracle root slots)
    (member : path ∈ slots.values.flatMap slotDirectories) :
    ∃ id directory legacyLayout, SlotPlace disk root id directory legacyLayout ∧
      (path = directory.child asymmetricDirectory ∨ path = directory.child symmetricDirectory) := by
  rcases List.mem_flatMap.mp member with ⟨slot, listed, inSlot⟩
  rcases OrderedMap.mem_values_iff.mp listed with ⟨id, found⟩
  rcases discovered.origin id slot found with ⟨directory, legacyLayout, place, loaded⟩
  refine ⟨id, directory, legacyLayout, place, ?_⟩
  simpa [slotDirectories, loaded.directory] using inSlot

/-- Discovery of the slots, with what it leaves where it fails. -/
theorem discoverSlots_cases (host : Host) (state : State) (oracle : Oracle) :
    (∃ disk slots, discoverSlots host state oracle =
        ({ state with disk := disk, slots := slots }, true) ∧
      Prepared state.disk disk [state.storageRoot] ∧
      Discovered host disk oracle state.storageRoot slots) ∨
    ∃ disk created, discoverSlots host state oracle = ({ state with disk := disk }, false) ∧
      created ⊆ [state.storageRoot] ∧ Prepared state.disk disk created := by
  unfold discoverSlots
  split
  · right
    exact ⟨state.disk, [], rfl, List.nil_subset _, Prepared.refl _⟩
  · rename_i disk created
    have prepared := createDirectories_prepared created
    split
    · right
      exact ⟨disk, [state.storageRoot], rfl, List.Subset.refl _, prepared⟩
    · rename_i slots discovers
      left
      split at discovers
      · contradiction
      · exact ⟨disk, slots, rfl, prepared, discoverSlotsIn_eq_some discovers⟩

theorem cInitialize_initialization (host : Host) (oracle : Oracle) {state : State}
    (closed : state.initialized = false) :
    Initialization host oracle state (cInitialize host state oracle false) := by
  unfold cInitialize
  rw [if_neg (by simp [closed]), if_neg (by simp)]
  rcases discoverSlots_cases host { state with storageRoot := host.dataDirectory } oracle with
    ⟨disk, slots, discovers, prepared, discovered⟩ | ⟨disk, created, fails, subset, prepared⟩
  · rw [discovers]
    dsimp only
    cases loads : loadTokenObjects host oracle
        { state with storageRoot := host.dataDirectory, disk := disk, slots := slots } with
    | mk next loaded =>
        cases loaded with
        | true => exact .succeeded prepared discovered (loadTokenObjects_eq_true loads)
        | false =>
            have frame := loadTokenObjects_frame host oracle
              { state with storageRoot := host.dataDirectory, disk := disk, slots := slots }
            rw [loads] at frame
            rcases frame.prepared with ⟨made, madeSubset, madePrepared⟩
            have unchanged := frame.unchanged
            dsimp only at unchanged
            refine Initialization.failed ?_ rfl rfl ?_ ?_ ?_ (prepared.trans madePrepared) ?_
            · change next.initialized = false
              rw [unchanged]
              exact closed
            · change next.sessions = state.sessions
              rw [unchanged]
            · change next.nextSessionHandle = state.nextSessionHandle
              rw [unchanged]
            · intro _
              exact frame.counter
            · intro path member
              rcases List.mem_append.mp member with isRoot | inSlots
              · exact Or.inl (List.mem_singleton.mp isRoot)
              · right
                rcases mem_slotDirectories discovered (madeSubset inSlots) with
                  ⟨id, directory, legacyLayout, place, isDirectory⟩
                exact ⟨id, directory, legacyLayout,
                  (slotPlace_prepared_root prepared _ _ _).mp place, isDirectory⟩
  · rw [fails]
    refine Initialization.failed closed rfl rfl rfl rfl id prepared ?_
    intro path member
    exact Or.inl (List.mem_singleton.mp (subset member))

/-! ## The loaded registry -/

/-- Every loaded object comes from a file of a slot. -/
structure LoadedObject (host : Host) (oracle : Oracle) (before after : State) (object : Object)
    (slot : Slot) (path : Path) (content : Bytes) (raw : Object) : Prop where
  slotFound : before.slots.get? slot.id = some slot
  opened : before.disk.opened oracle path = some content
  member : raw ∈ fileObjects host (publicKeyOnly oracle) slot path content
  loaded : object = Object.withMetadata { raw with handle := object.handle }
    ((Metadata.read after.disk oracle path).getD ∅)

section

variable {host : Host} {oracle : Oracle} {before after : State}

theorem TokenLoaded.origin (loaded : TokenLoaded host oracle before after)
    (slotKey : ∀ id slot, before.slots.get? id = some slot → slot.id = id) {handle : Nat}
    {object : Object} (found : after.objects.get? handle = some object) :
    object.handle = handle ∧ 0 < handle ∧ handle < after.nextObjectHandle ∧
      ∃ slot path content raw,
        LoadedObject host oracle before after object slot path content raw := by
  rcases (loaded.objects handle object).mp found with ⟨index, raw, listed, same, isLoaded⟩
  have handleEq : object.handle = handle := by
    rw [isLoaded]
    exact (withMetadata_core _ _).2.1
  have below : index < (tokenObjects host oracle before.disk before.slots.values).length :=
    (List.getElem?_eq_some_iff.mp listed).1
  rcases mem_tokenObjects.mp (List.mem_of_getElem? listed) with
    ⟨slot, inSlots, path, content, opened, member⟩
  rcases OrderedMap.mem_values_iff.mp inSlots with ⟨id, slotFound⟩
  have sameId := slotKey id slot slotFound
  subst sameId
  refine ⟨handleEq, by omega, by rw [loaded.counter]; omega, slot, path, content, raw,
    slotFound, opened, member, ?_⟩
  rw [handleEq, ← (fileObjects_raw member).1.path]
  exact isLoaded

/-- A loaded object is a token object of its slot. -/
theorem LoadedObject.core {object raw : Object} {slot : Slot} {path : Path} {content : Bytes}
    (origin : LoadedObject host oracle before after object slot path content raw) :
    object.slotId = slot.id ∧ object.path = path ∧ object.ownerSession = 0 ∧
      1 ≤ object.objectClass ∧ object.objectClass ≤ 4 ∧ IsKeyPath slot.directory path := by
  rcases fileObjects_raw origin.member with ⟨isRaw, keyPath⟩
  have loaded := origin.loaded
  generalize (Metadata.read after.disk oracle path).getD ∅ = records at loaded
  have kept := withMetadata_core { raw with handle := object.handle } records
  rw [← loaded] at kept
  rcases kept with ⟨objectClass, _, slotId, samePath, owner⟩
  rw [objectClass, slotId, samePath, owner]
  exact ⟨isRaw.slotId, isRaw.path, isRaw.owner, isRaw.classes.1, isRaw.classes.2, keyPath⟩

theorem TokenLoaded.slots_eq (loaded : TokenLoaded host oracle before after) :
    after.slots = before.slots := by
  rw [loaded.unchanged]

theorem TokenLoaded.sessions_eq (loaded : TokenLoaded host oracle before after) :
    after.sessions = before.sessions ∧ after.nextSessionHandle = before.nextSessionHandle := by
  rw [loaded.unchanged]
  exact ⟨rfl, rfl⟩

end

theorem Discovered.slotKey {host : Host} {disk : FileSystem} {oracle : Oracle} {root : Path}
    {slots : OrderedMap Nat Slot} (discovered : Discovered host disk oracle root slots) (id : Nat)
    (slot : Slot) (found : slots.get? id = some slot) : slot.id = id := by
  rcases discovered.origin id slot found with ⟨_, _, _, loaded⟩
  exact loaded.id

theorem Discovered.layout {host : Host} {disk : FileSystem} {oracle : Oracle} {root : Path}
    {slots : OrderedMap Nat Slot} (discovered : Discovered host disk oracle root slots) :
    SlotLayout slots := by
  constructor
  · intro id other slot otherSlot found otherFound same
    rcases discovered.origin id slot found with ⟨directory, legacyLayout, place, loaded⟩
    rcases discovered.origin other otherSlot otherFound with ⟨_, _, otherPlace, otherLoaded⟩
    rw [loaded.directory, otherLoaded.directory] at same
    subst same
    exact place.id_eq otherPlace
  · intro id other slot otherSlot found otherFound
    rcases discovered.origin id slot found with ⟨directory, legacyLayout, place, loaded⟩
    rcases discovered.origin other otherSlot otherFound with ⟨_, _, otherPlace, otherLoaded⟩
    rw [loaded.directory, otherLoaded.directory]
    exact place.length_eq otherPlace

theorem SlotLayout.values_pairwise {slots : OrderedMap Nat Slot} (layout : SlotLayout slots) :
    slots.values.Pairwise fun first second => first.directory ≠ second.directory := by
  apply OrderedMap.values_pairwise
  intro id other slot otherSlot found otherFound different same
  exact different (layout.distinct id other slot otherSlot found otherFound same)

end HsmSimulator
