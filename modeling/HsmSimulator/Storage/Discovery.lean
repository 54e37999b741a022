import HsmSimulator.Core.Paths
import HsmSimulator.Storage.Slots

/-!
# What discovery finds

Which slots there are, and where, depends on the names of the entries of the storage
root; what the slots hold depends on their password files.  Both are stated without the
order of the listing.
-/

namespace HsmSimulator

/-- What the password files of a slot say. -/
structure PasswordsLoaded (host : Host) (disk : FileSystem) (oracle : Oracle) (slot : Slot) :
    Prop where
  user : ∃ stored, readPassword disk oracle (slot.directory.child userPinFile) = some stored ∧
    initialUserPin host stored = some slot.userPin
  so : readPassword disk oracle (slot.directory.child soPinFile) = some slot.soPin
  p12 : ∃ stored, readPassword disk oracle (slot.directory.child p12PasswordFile) = some stored ∧
    slot.p12Password = stored.getD (environmentValue host .p12Password)

theorem loadPasswords_eq_some {host : Host} {disk : FileSystem} {oracle : Oracle}
    {slot loaded : Slot} (loads : loadPasswords host disk oracle slot = some loaded) :
    PasswordsLoaded host disk oracle loaded ∧ ∃ userPin soPin p12Password,
      loaded = { slot with userPin := userPin, soPin := soPin, p12Password := p12Password } := by
  simp only [loadPasswords, Option.bind_eq_bind, Option.bind_eq_some_iff, Option.pure_def,
    Option.some.injEq] at loads
  rcases loads with ⟨user, userRead, userPin, userLoaded, soPin, soRead, p12, p12Read, rfl⟩
  exact ⟨⟨⟨user, userRead, userLoaded⟩, soRead, p12, p12Read, rfl⟩, _, _, _, rfl⟩

/-- An entry of the storage root that is a slot's directory. -/
def SlotDirectory (entry : Path) (id : Nat) : Prop := parseSlotId entry.filename = some (some id)

/-- A slot that was loaded from a directory. -/
structure LoadedFrom (host : Host) (disk : FileSystem) (oracle : Oracle) (directory : Path)
    (id : Nat) (legacyLayout : Bool) (slot : Slot) : Prop where
  id : slot.id = id
  directory : slot.directory = directory
  layout : slot.legacyLayout = legacyLayout
  nobody : slot.loggedInUser = none
  passwords : PasswordsLoaded host disk oracle slot

theorem loadPasswords_ofDirectory {host : Host} {disk : FileSystem} {oracle : Oracle} {id : Nat}
    {label : Bytes} {directory : Path} {legacyLayout : Bool} {slot : Slot}
    (loads : loadPasswords host disk oracle (.ofDirectory id label directory legacyLayout) =
      some slot) : LoadedFrom host disk oracle directory id legacyLayout slot := by
  rcases loadPasswords_eq_some loads with ⟨passwords, _, _, _, rfl⟩
  exact ⟨rfl, rfl, rfl, rfl, passwords⟩

/-- Collection keeps the slots it started with and adds one for each slot directory. -/
theorem collectSlots_eq_some {host : Host} {disk : FileSystem} {oracle : Oracle}
    {entries : List Path} {before after : OrderedMap Nat Slot}
    (collects : collectSlots host disk oracle entries before = some after) :
    (∀ id slot, after.get? id = some slot → before.get? id = some slot ∨
        ∃ entry ∈ entries, SlotDirectory entry id ∧
          LoadedFrom host disk oracle entry id false slot) ∧
      (∀ id slot, before.get? id = some slot → after.get? id = some slot) ∧
      (∀ entry ∈ entries, ∀ id, SlotDirectory entry id → ∃ slot, after.get? id = some slot ∧
        LoadedFrom host disk oracle entry id false slot) := by
  induction entries generalizing before with
  | nil =>
      cases collects
      refine ⟨fun _ _ found => Or.inl found, fun _ _ found => found, ?_⟩
      intro entry member
      contradiction
  | cons entry rest ih =>
      unfold collectSlots at collects
      split at collects
      · contradiction
      · rename_i other
        rcases ih collects with ⟨origin, kept, listed⟩
        refine ⟨?_, kept, ?_⟩
        · intro id slot found
          rcases origin id slot found with old | ⟨entry', member, isSlot, loaded⟩
          · exact Or.inl old
          · exact Or.inr ⟨entry', List.mem_cons_of_mem _ member, isSlot, loaded⟩
        · intro entry' member id isSlot
          rcases List.mem_cons.mp member with rfl | member
          · rw [SlotDirectory, other] at isSlot
            cases isSlot
          · exact listed entry' member id isSlot
      · rename_i id isSlot
        simp only [Option.bind_eq_bind, Option.bind_eq_some_iff] at collects
        rcases collects with ⟨slot, loads, collects⟩
        split at collects
        · contradiction
        · rename_i absent
          have free : before.get? id = none := by simpa using absent
          have loaded := loadPasswords_ofDirectory loads
          rcases ih collects with ⟨origin, kept, listed⟩
          refine ⟨?_, ?_, ?_⟩
          · intro id' slot' found
            rcases origin id' slot' found with old | ⟨entry', member, isSlot', loaded'⟩
            · rw [OrderedMap.get?_insert] at old
              split at old
              · rename_i same
                subst same
                cases old
                exact Or.inr ⟨entry, List.mem_cons_self .., isSlot, loaded⟩
              · exact Or.inl old
            · exact Or.inr ⟨entry', List.mem_cons_of_mem _ member, isSlot', loaded'⟩
          · intro id' slot' found
            apply kept
            rw [OrderedMap.get?_insert_of_ne _ _ slot, found]
            rintro rfl
            rw [free] at found
            contradiction
          · intro entry' member id' isSlot'
            rcases List.mem_cons.mp member with rfl | member
            · rw [SlotDirectory, isSlot] at isSlot'
              cases isSlot'
              exact ⟨slot, kept _ _ (OrderedMap.get?_insert_self _ _ _), loaded⟩
            · exact listed entry' member id' isSlot'

/-- Where the slots of a storage root are: its slot directories, or without any the root
itself. -/
inductive SlotPlace (disk : FileSystem) (root : Path) : Nat → Path → Bool → Prop
  | entry {id : Nat} {entry : Path} : entry ∈ disk.subdirectories root → SlotDirectory entry id →
      SlotPlace disk root id entry false
  | legacy : (∀ entry ∈ disk.subdirectories root, ∀ id, ¬SlotDirectory entry id) →
      SlotPlace disk root 1 root true

theorem mem_subdirectories {disk : FileSystem} {root entry : Path} :
    entry ∈ disk.subdirectories root ↔
      (∃ name, entry = Path.child root name) ∧ disk.directories.get? entry = some () := by
  rw [FileSystem.subdirectories, List.mem_filter, Path.isEntryOf_iff, OrderedMap.mem_keys_iff]
  constructor
  · rintro ⟨⟨value, found⟩, child⟩
    exact ⟨child, found⟩
  · rintro ⟨child, found⟩
    exact ⟨⟨(), found⟩, child⟩

/-- The discovered slots are the places of the root, loaded. -/
structure Discovered (host : Host) (disk : FileSystem) (oracle : Oracle) (root : Path)
    (slots : OrderedMap Nat Slot) : Prop where
  origin : ∀ id slot, slots.get? id = some slot → ∃ directory legacyLayout,
    SlotPlace disk root id directory legacyLayout ∧
      LoadedFrom host disk oracle directory id legacyLayout slot
  listed : ∀ id directory legacyLayout, SlotPlace disk root id directory legacyLayout →
    ∃ slot, slots.get? id = some slot ∧
      LoadedFrom host disk oracle directory id legacyLayout slot

theorem discoverSlotsIn_eq_some {host : Host} {disk : FileSystem} {oracle : Oracle} {root : Path}
    {slots : OrderedMap Nat Slot} (discovers : discoverSlotsIn host disk oracle root = some slots) :
    Discovered host disk oracle root slots := by
  simp only [discoverSlotsIn, Option.bind_eq_bind, Option.bind_eq_some_iff] at discovers
  rcases discovers with ⟨collected, collects, discovers⟩
  rcases collectSlots_eq_some collects with ⟨origin, _, listed⟩
  have members (entry : Path) : entry ∈ oracle.listing.reorder (disk.subdirectories root) ↔
      entry ∈ disk.subdirectories root := (oracle.listing.perm _).mem_iff
  split at discovers
  · rename_i none'
    have empty (id : Nat) : collected.get? id = none := by
      cases found : collected.get? id with
      | none => rfl
      | some slot =>
          have member := OrderedMap.get?_eq_some_iff.mp found
          rw [none'] at member
          contradiction
    have noEntry : ∀ entry ∈ disk.subdirectories root, ∀ id, ¬SlotDirectory entry id := by
      intro entry member id isSlot
      rcases listed entry ((members entry).mpr member) id isSlot with ⟨slot, found, _⟩
      rw [empty] at found
      contradiction
    simp only [Option.bind_eq_some_iff, Option.pure_def, Option.some.injEq] at discovers
    rcases discovers with ⟨slot, loads, rfl⟩
    have loaded := loadPasswords_ofDirectory loads
    constructor
    · intro id stored found
      rw [OrderedMap.get?_insert, loaded.id] at found
      split at found
      · rename_i same
        subst same
        cases found
        exact ⟨root, true, .legacy noEntry, loaded⟩
      · rw [empty] at found
        contradiction
    · intro id directory legacyLayout place
      cases place with
      | entry member isSlot => exact (noEntry _ member _ isSlot).elim
      | legacy _ =>
          refine ⟨slot, ?_, loaded⟩
          rw [loaded.id, OrderedMap.get?_insert_self]
  · rename_i some'
    split at discovers
    · contradiction
    · cases discovers
      constructor
      · intro id slot found
        rcases origin id slot found with old | ⟨entry, member, isSlot, loaded⟩
        · simp at old
        · exact ⟨entry, false, .entry ((members entry).mp member) isSlot, loaded⟩
      · intro id directory legacyLayout place
        cases place with
        | entry member isSlot => exact listed _ ((members _).mpr member) _ isSlot
        | legacy noEntry =>
            exfalso
            apply some'
            apply List.eq_nil_iff_forall_not_mem.mpr
            rintro ⟨id, slot⟩ member
            rcases origin id slot (OrderedMap.get?_eq_some_iff.mpr member) with
              old | ⟨entry, listed, isSlot, _⟩
            · simp at old
            · exact noEntry entry ((members entry).mp listed) id isSlot

/-- A place determines its identifier, and all places are on one level. -/
theorem SlotPlace.id_eq {disk : FileSystem} {root directory : Path} {id other : Nat}
    {legacyLayout otherLayout : Bool} (first : SlotPlace disk root id directory legacyLayout)
    (second : SlotPlace disk root other directory otherLayout) : id = other := by
  cases first with
  | entry member isSlot =>
      cases second with
      | entry otherMember otherIsSlot =>
          rw [SlotDirectory, isSlot] at otherIsSlot
          cases otherIsSlot
          rfl
      | legacy noEntry => exact (noEntry _ member _ isSlot).elim
  | legacy noEntry =>
      cases second with
      | entry otherMember otherIsSlot => exact (noEntry _ otherMember _ otherIsSlot).elim
      | legacy _ => rfl

theorem SlotPlace.length_eq {disk : FileSystem} {root directory otherDirectory : Path}
    {id other : Nat} {legacyLayout otherLayout : Bool}
    (first : SlotPlace disk root id directory legacyLayout)
    (second : SlotPlace disk root other otherDirectory otherLayout) :
    directory.length = otherDirectory.length := by
  cases first with
  | entry member isSlot =>
      cases second with
      | entry otherMember otherIsSlot =>
          rcases (mem_subdirectories.mp member).1 with ⟨name, rfl⟩
          rcases (mem_subdirectories.mp otherMember).1 with ⟨otherName, rfl⟩
          simp [Path.child]
      | legacy noEntry => exact (noEntry _ member _ isSlot).elim
  | legacy noEntry =>
      cases second with
      | entry otherMember otherIsSlot => exact (noEntry _ otherMember _ otherIsSlot).elim
      | legacy _ => rfl

end HsmSimulator
