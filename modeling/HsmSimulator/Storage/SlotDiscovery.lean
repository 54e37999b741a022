import HsmSimulator.Storage.PinFiles
import HsmSimulator.Storage.SlotNames

/-!
# Discovery is exact

What the storage root says about the slots is stated without the loop: which entries are
slot directories, when they can be published together, and what is published for each of
them.  Discovery succeeds exactly then and publishes exactly that, and the order of the
listing does not matter.
-/

namespace HsmSimulator

open FileSystem

/-! ## What the storage root says -/

/-- What a password file that can be looked up and read says: nothing where there is
none. -/
inductive PasswordFile (disk : FileSystem) (oracle : Oracle) (path : Path) : Option Bytes → Prop
  | absent : oracle.statFails path = false → disk.hasPath path = false →
      PasswordFile disk oracle path none
  | present {content value : Bytes} : oracle.statFails path = false →
      oracle.readFails path = false → disk.content path = some content →
      PasswordContent content value → PasswordFile disk oracle path (some value)

/-- The USER PIN for what the file says: without a file the one of the environment, if
there is one. -/
inductive UserPin (host : Host) : Option Bytes → Option Bytes → Prop
  | stored (pin : Bytes) : UserPin host (some pin) (some pin)
  | unset : environmentValue host .pin = [] → UserPin host none none
  | fallback : environmentValue host .pin ≠ [] →
      (environmentValue host .pin).length ≤ maximumPinLength →
      (∀ c ∈ environmentValue host .pin, c ≠ 13 ∧ c ≠ 10) →
      UserPin host none (some (environmentValue host .pin))

/-- The slot of a directory, with the passwords its files say. -/
structure SlotOf (host : Host) (disk : FileSystem) (oracle : Oracle) (id : Nat) (label : Bytes)
    (directory : Path) (legacyLayout : Bool) (slot : Slot) : Prop where
  sameId : slot.id = id
  sameLabel : slot.label = label
  place : slot.directory = directory
  layout : slot.legacyLayout = legacyLayout
  nobody : slot.loggedInUser = none
  user : ∃ stored, PasswordFile disk oracle (directory.child userPinFile) stored ∧
    UserPin host stored slot.userPin
  so : PasswordFile disk oracle (directory.child soPinFile) slot.soPin
  p12 : ∃ stored, PasswordFile disk oracle (directory.child p12PasswordFile) stored ∧
    slot.p12Password = stored.getD (environmentValue host .p12Password)

/-- The password files of a directory are valid, and so is the fallback where it is used. -/
structure PasswordsValid (host : Host) (disk : FileSystem) (oracle : Oracle) (directory : Path) :
    Prop where
  user : ∃ stored pin, PasswordFile disk oracle (directory.child userPinFile) stored ∧
    UserPin host stored pin
  so : ∃ pin, PasswordFile disk oracle (directory.child soPinFile) pin
  p12 : ∃ stored, PasswordFile disk oracle (directory.child p12PasswordFile) stored

/-- A subdirectory of the storage root that is named like a slot. -/
structure SlotEntry (disk : FileSystem) (root entry : Path) (digits label : Bytes) : Prop where
  member : entry ∈ disk.subdirectories root
  named : SlotName entry.filename digits label

/-- The storage root can be listed, and its slots can be published together. -/
structure Discoverable (host : Host) (disk : FileSystem) (oracle : Oracle) (root : Path) :
    Prop where
  listed : oracle.listingFails root = false
  names : ∀ entry digits label, SlotEntry disk root entry digits label →
    label ≠ [] ∧ decimalValue digits < slotIdLimit
  distinct : ∀ entry other digits otherDigits label otherLabel,
    SlotEntry disk root entry digits label → SlotEntry disk root other otherDigits otherLabel →
    decimalValue digits = decimalValue otherDigits → entry = other
  passwords : ∀ entry digits label, SlotEntry disk root entry digits label →
    PasswordsValid host disk oracle entry
  legacy : (∀ entry digits label, ¬SlotEntry disk root entry digits label) →
    PasswordsValid host disk oracle root
  unmixed : ∀ entry digits label, SlotEntry disk root entry digits label →
    ∀ kind, kind = asymmetricDirectory ∨ kind = symmetricDirectory →
      oracle.statFails (root.child kind) = false ∧ disk.hasPath (root.child kind) = false

/-- What is published: a slot for every slot directory, or else the legacy slot. -/
inductive DiscoveredSlot (host : Host) (disk : FileSystem) (oracle : Oracle) (root : Path) :
    Nat → Slot → Prop
  | entry {entry : Path} {digits label : Bytes} {slot : Slot} :
      SlotEntry disk root entry digits label →
      SlotOf host disk oracle (decimalValue digits) label entry false slot →
      DiscoveredSlot host disk oracle root (decimalValue digits) slot
  | legacy {slot : Slot} : (∀ entry digits label, ¬SlotEntry disk root entry digits label) →
      SlotOf host disk oracle 1 (ascii "HSM Simulator") root true slot →
      DiscoveredSlot host disk oracle root 1 slot

/-! ## Passwords -/

section

variable {host : Host} {disk : FileSystem} {oracle : Oracle}

theorem readPassword_eq_some_iff {path : Path} {stored : Option Bytes} :
    readPassword disk oracle path = some stored ↔ PasswordFile disk oracle path stored := by
  constructor
  · intro reads
    unfold readPassword at reads
    split at reads
    · contradiction
    · rename_i stat
      rw [Bool.not_eq_true] at stat
      split at reads
      · rename_i absent
        cases reads
        exact .absent stat absent
      · split at reads
        · contradiction
        · rename_i opens
          rw [Bool.not_eq_true] at opens
          rcases Option.bind_eq_some_iff.mp reads with ⟨content, found, parsed⟩
          rcases Option.map_eq_some_iff.mp parsed with ⟨value, isValue, rfl⟩
          exact .present stat opens found (parsePassword_eq_some_iff.mp isValue)
  · intro isFile
    cases isFile with
    | absent stat absent => simp [readPassword, stat, absent]
    | present stat opens found valid =>
        rw [readPassword_of_content stat opens found, parsePassword_eq_some_iff.mpr valid,
          Option.map_some]

theorem initialUserPin_eq_some_iff {stored pin : Option Bytes} :
    initialUserPin host stored = some pin ↔ UserPin host stored pin := by
  constructor
  · intro initial
    cases stored with
    | some value =>
        cases initial
        exact .stored value
    | none =>
        unfold initialUserPin at initial
        dsimp only at initial
        split at initial
        · rename_i unset
          cases initial
          exact .unset unset
        · rename_i isSet
          split at initial
          · contradiction
          · rename_i valid
            cases initial
            simp only [Bool.or_eq_true, decide_eq_true_eq, not_or, not_lt, List.any_eq_true,
              not_exists, not_and] at valid
            refine .fallback isSet valid.1 fun c member => ?_
            simpa [not_or] using valid.2 c member
  · intro isPin
    cases isPin with
    | stored value => rfl
    | unset unset => simp [initialUserPin, unset]
    | fallback isSet short plain =>
        unfold initialUserPin
        dsimp only
        rw [if_neg isSet, if_neg]
        simp only [Bool.or_eq_true, decide_eq_true_eq, not_or, not_lt, List.any_eq_true,
          not_exists, not_and]
        refine ⟨short, fun c member => ?_⟩
        simpa [not_or] using plain c member

theorem loadPasswords_eq_some_iff {id : Nat} {label : Bytes} {directory : Path}
    {legacyLayout : Bool} {slot : Slot} :
    loadPasswords host disk oracle (.ofDirectory id label directory legacyLayout) = some slot ↔
      SlotOf host disk oracle id label directory legacyLayout slot := by
  simp only [loadPasswords, Option.bind_eq_bind, Option.bind_eq_some_iff, Option.pure_def,
    Option.some.injEq, readPassword_eq_some_iff, initialUserPin_eq_some_iff]
  constructor
  · rintro ⟨stored, user, pin, isPin, so, isSo, p12, isP12, rfl⟩
    exact ⟨rfl, rfl, rfl, rfl, rfl, ⟨stored, user, isPin⟩, isSo, p12, isP12, rfl⟩
  · rintro ⟨rfl, rfl, rfl, rfl, nobody, ⟨stored, user, isPin⟩, isSo, p12, isP12, password⟩
    refine ⟨stored, user, slot.userPin, isPin, slot.soPin, isSo, p12, isP12, ?_⟩
    rw [← password]
    simp [Slot.ofDirectory, ← nobody]

theorem passwordsValid_iff (id : Nat) (label : Bytes) (directory : Path) (legacyLayout : Bool) :
    PasswordsValid host disk oracle directory ↔
      ∃ slot, SlotOf host disk oracle id label directory legacyLayout slot := by
  constructor
  · rintro ⟨⟨stored, pin, user, isPin⟩, ⟨so, isSo⟩, p12, isP12⟩
    exact ⟨⟨id, label, directory, pin, so, p12.getD (environmentValue host .p12Password),
      legacyLayout, none⟩, rfl, rfl, rfl, rfl, rfl, ⟨stored, user, isPin⟩, isSo, p12, isP12, rfl⟩
  · rintro ⟨slot, isSlot⟩
    rcases isSlot.user with ⟨stored, user, isPin⟩
    rcases isSlot.p12 with ⟨p12, isP12, _⟩
    exact ⟨⟨stored, slot.userPin, user, isPin⟩, ⟨slot.soPin, isSlot.so⟩, p12, isP12⟩

/-! ## The loop over the entries -/

/-- One pass of the loop. -/
def collectSlot (host : Host) (disk : FileSystem) (oracle : Oracle)
    (slots : OrderedMap Nat Slot) (entry : Path) : Option (OrderedMap Nat Slot) :=
  match parseSlotId entry.filename with
  | none => none
  | some none => some slots
  | some (some id) =>
      (loadPasswords host disk oracle (.ofDirectory id (slotLabel entry.filename) entry false)).bind
        fun slot => if (slots.get? id).isSome then none else some (slots.insert id slot)

theorem collectSlots_cons (entry : Path) (rest : List Path) (slots : OrderedMap Nat Slot) :
    collectSlots host disk oracle (entry :: rest) slots =
      (collectSlot host disk oracle slots entry).bind (collectSlots host disk oracle rest) := by
  unfold collectSlot
  rw [collectSlots]
  cases parseSlotId entry.filename with
  | none => rfl
  | some parsed =>
      cases parsed with
      | none => rfl
      | some id =>
          simp only [Option.bind_eq_bind]
          cases loadPasswords host disk oracle
              (.ofDirectory id (slotLabel entry.filename) entry false) with
          | none => rfl
          | some slot =>
              simp only [Option.bind_some]
              split <;> rfl

/-- What a pass adds is what the entry says. -/
theorem collectSlot_eq_some_iff {slots after : OrderedMap Nat Slot} {entry : Path} :
    collectSlot host disk oracle slots entry = some after ↔
      (∀ digits label, ¬SlotName entry.filename digits label) ∧ after = slots ∨
      ∃ digits label slot, SlotName entry.filename digits label ∧ label ≠ [] ∧
        decimalValue digits < slotIdLimit ∧
        SlotOf host disk oracle (decimalValue digits) label entry false slot ∧
        slots.get? (decimalValue digits) = none ∧
        after = slots.insert (decimalValue digits) slot := by
  constructor
  · intro collects
    unfold collectSlot at collects
    split at collects
    · contradiction
    · rename_i ignored
      cases collects
      exact Or.inl ⟨parseSlotId_eq_some_none_iff.mp ignored, rfl⟩
    · rename_i id parsed
      rcases parseSlotId_eq_some_iff.mp parsed with ⟨digits, label, named, hasLabel, inRange, rfl⟩
      rcases Option.bind_eq_some_iff.mp collects with ⟨slot, loads, added⟩
      split at added
      · contradiction
      · rename_i free
        cases added
        rw [named.label] at loads
        exact Or.inr ⟨digits, label, slot, named, hasLabel, inRange,
          loadPasswords_eq_some_iff.mp loads, by simpa using free, rfl⟩
  · rintro (⟨ignored, rfl⟩ | ⟨digits, label, slot, named, hasLabel, inRange, isSlot, free, rfl⟩)
    · rw [collectSlot, parseSlotId_eq_some_none_iff.mpr ignored]
    · have parsed := parseSlotId_eq_some_iff.mpr ⟨digits, label, named, hasLabel, inRange, rfl⟩
      rw [collectSlot, parsed]
      dsimp only
      rw [named.label, loadPasswords_eq_some_iff.mpr isSlot, Option.bind_some,
        if_neg (by simp [free])]

/-- Two passes can be exchanged. -/
theorem collectSlot_comm (slots : OrderedMap Nat Slot) (first second : Path) :
    (collectSlot host disk oracle slots first).bind
        (fun after => collectSlot host disk oracle after second) =
      (collectSlot host disk oracle slots second).bind
        fun after => collectSlot host disk oracle after first := by
  unfold collectSlot
  rcases parseSlotId first.filename with _ | _ | id
  · cases parseSlotId second.filename with
    | none => rfl
    | some parsed =>
        cases parsed with
        | none => rfl
        | some other =>
            dsimp only
            cases loadPasswords host disk oracle
                (.ofDirectory other (slotLabel second.filename) second false) with
            | none => rfl
            | some slot => simp
  · dsimp only [Option.bind_some]
    rcases parseSlotId second.filename with _ | _ | other
    · rfl
    · rfl
    · dsimp only
      simp
  · rcases parseSlotId second.filename with _ | _ | other
    · simp
    · simp
    · dsimp only
      generalize loadPasswords host disk oracle
        (.ofDirectory id (slotLabel first.filename) first false) = loaded
      generalize loadPasswords host disk oracle
        (.ofDirectory other (slotLabel second.filename) second false) = otherLoaded
      cases loaded with
      | none => simp
      | some slot =>
          cases otherLoaded with
          | none => simp
          | some otherSlot =>
              by_cases stored : (slots.get? id).isSome = true
              · by_cases otherStored : (slots.get? other).isSome = true
                · simp [stored, otherStored]
                · by_cases same : id = other
                  · simp [same] at stored
                    simp [stored] at otherStored
                  · simp [stored, otherStored, OrderedMap.get?_insert, same]
              · by_cases otherStored : (slots.get? other).isSome = true
                · by_cases same : id = other
                  · simp [same, otherStored] at stored
                  · simp [stored, otherStored, OrderedMap.get?_insert, Ne.symm same]
                · by_cases same : id = other
                  · subst same
                    simp [stored]
                  · simp [stored, otherStored, OrderedMap.get?_insert, same, Ne.symm same,
                      OrderedMap.insert_comm slots same]

/-- The collection is a fold whose passes can be exchanged, so the order of the entries
does not matter. -/
theorem collectSlots_eq_foldl (entries : List Path) (slots : OrderedMap Nat Slot) :
    collectSlots host disk oracle entries slots =
      entries.foldl (fun slots entry => slots.bind fun slots =>
        collectSlot host disk oracle slots entry) (some slots) := by
  have stopped (rest : List Path) : rest.foldl (fun slots entry => slots.bind fun slots =>
      collectSlot host disk oracle slots entry) none = none := by
    induction rest with
    | nil => rfl
    | cons entry rest ih => exact ih
  induction entries generalizing slots with
  | nil => rfl
  | cons entry rest ih =>
      rw [collectSlots_cons, List.foldl_cons, Option.bind_some]
      cases collectSlot host disk oracle slots entry with
      | none => exact (stopped rest).symm
      | some after => exact ih after

theorem collectSlots_perm {entries listed : List Path} (perm : entries.Perm listed)
    (slots : OrderedMap Nat Slot) :
    collectSlots host disk oracle entries slots = collectSlots host disk oracle listed slots := by
  rw [collectSlots_eq_foldl, collectSlots_eq_foldl]
  refine perm.foldl_eq' ?_ (some slots)
  intro first _ second _ collected
  cases collected with
  | none => rfl
  | some collected => exact collectSlot_comm collected first second

/-! ## What is collected -/

theorem SlotName.unique {name digits label otherDigits otherLabel : Bytes}
    (named : SlotName name digits label) (again : SlotName name otherDigits otherLabel) :
    digits = otherDigits ∧ label = otherLabel :=
  ⟨named.number.symm.trans again.number, named.label.symm.trans again.label⟩

theorem SlotOf.unique {id : Nat} {label : Bytes} {directory : Path} {legacyLayout : Bool}
    {slot other : Slot} (isSlot : SlotOf host disk oracle id label directory legacyLayout slot)
    (again : SlotOf host disk oracle id label directory legacyLayout other) : slot = other := by
  rw [← loadPasswords_eq_some_iff] at isSlot again
  exact Option.some.inj (isSlot.symm.trans again)

/-- An entry that does not stop the collection by itself. -/
structure EntryAccepted (host : Host) (disk : FileSystem) (oracle : Oracle) (entry : Path) :
    Prop where
  name : ∀ digits label, SlotName entry.filename digits label →
    label ≠ [] ∧ decimalValue digits < slotIdLimit
  passwords : ∀ digits label, SlotName entry.filename digits label →
    PasswordsValid host disk oracle entry

/-- Two entries that are not the same slot. -/
def DifferentNumbers (entry other : Path) : Prop :=
  ∀ digits label otherDigits otherLabel, SlotName entry.filename digits label →
    SlotName other.filename otherDigits otherLabel →
    decimalValue digits ≠ decimalValue otherDigits

/-- A slot of one of the entries. -/
def CollectedSlot (host : Host) (disk : FileSystem) (oracle : Oracle) (entries : List Path)
    (id : Nat) (slot : Slot) : Prop :=
  ∃ entry ∈ entries, ∃ digits label, SlotName entry.filename digits label ∧
    decimalValue digits = id ∧ SlotOf host disk oracle id label entry false slot

theorem collectSlots_get?_iff {entries : List Path} {before after : OrderedMap Nat Slot}
    (collects : collectSlots host disk oracle entries before = some after) (id : Nat)
    (slot : Slot) :
    after.get? id = some slot ↔
      before.get? id = some slot ∨ CollectedSlot host disk oracle entries id slot := by
  induction entries generalizing before with
  | nil =>
      cases collects
      simp [CollectedSlot]
  | cons entry rest ih =>
      rw [collectSlots_cons] at collects
      rcases Option.bind_eq_some_iff.mp collects with ⟨middle, first, others⟩
      rw [ih others]
      simp only [CollectedSlot, List.exists_mem_cons_iff]
      rcases collectSlot_eq_some_iff.mp first with ⟨ignored, rfl⟩ |
        ⟨digits, label, added, named, _, _, isSlot, free, rfl⟩
      · have noSlot : ¬∃ digits label, SlotName entry.filename digits label ∧
            decimalValue digits = id ∧ SlotOf host disk oracle id label entry false slot := by
          rintro ⟨digits, label, named, _⟩
          exact ignored digits label named
        simp only [noSlot, false_or]
      · have here : (∃ digits label, SlotName entry.filename digits label ∧
            decimalValue digits = id ∧ SlotOf host disk oracle id label entry false slot) ↔
            id = decimalValue digits ∧ added = slot := by
          constructor
          · rintro ⟨otherDigits, otherLabel, again, rfl, found⟩
            rcases named.unique again with ⟨rfl, rfl⟩
            exact ⟨rfl, isSlot.unique found⟩
          · rintro ⟨rfl, rfl⟩
            exact ⟨digits, label, named, rfl, isSlot⟩
        rw [here, ← or_assoc, OrderedMap.get?_insert]
        by_cases same : id = decimalValue digits
        · subst same
          simp [free]
        · simp [same]

theorem collectSlots_isSome_iff {entries : List Path} {before : OrderedMap Nat Slot} :
    (collectSlots host disk oracle entries before).isSome = true ↔
      (∀ entry ∈ entries, EntryAccepted host disk oracle entry) ∧
        entries.Pairwise DifferentNumbers ∧
        ∀ entry ∈ entries, ∀ digits label, SlotName entry.filename digits label →
          before.get? (decimalValue digits) = none := by
  induction entries generalizing before with
  | nil => simp [collectSlots]
  | cons entry rest ih =>
      rw [collectSlots_cons, List.pairwise_cons]
      simp only [List.forall_mem_cons]
      constructor
      · intro collects
        rcases Option.isSome_iff_exists.mp collects with ⟨after, collects⟩
        rcases Option.bind_eq_some_iff.mp collects with ⟨middle, first, others⟩
        rcases ih.mp (Option.isSome_iff_exists.mpr ⟨after, others⟩) with
          ⟨accepted, distinct, fresh⟩
        rcases collectSlot_eq_some_iff.mp first with ⟨ignored, rfl⟩ |
          ⟨digits, label, slot, named, hasLabel, inRange, isSlot, free, rfl⟩
        · refine ⟨⟨⟨?_, ?_⟩, accepted⟩, ⟨?_, distinct⟩, ?_, fresh⟩
          · exact fun digits label named => (ignored digits label named).elim
          · exact fun digits label named => (ignored digits label named).elim
          · exact fun other _ digits label _ _ named => (ignored digits label named).elim
          · exact fun digits label named => (ignored digits label named).elim
        · have valid := (passwordsValid_iff (decimalValue digits) label entry false).mpr
            ⟨slot, isSlot⟩
          have apart : ∀ other ∈ rest, ∀ otherDigits otherLabel,
              SlotName other.filename otherDigits otherLabel →
              decimalValue otherDigits ≠ decimalValue digits ∧
                before.get? (decimalValue otherDigits) = none := by
            intro other member otherDigits otherLabel otherNamed
            have absent := fresh other member otherDigits otherLabel otherNamed
            rw [OrderedMap.get?_insert] at absent
            split at absent
            · contradiction
            · rename_i different
              exact ⟨different, absent⟩
          refine ⟨⟨⟨?_, fun _ _ _ => valid⟩, accepted⟩, ⟨?_, distinct⟩, ?_, ?_⟩
          · intro otherDigits otherLabel again
            rcases named.unique again with ⟨rfl, rfl⟩
            exact ⟨hasLabel, inRange⟩
          · intro other member firstDigits firstLabel otherDigits otherLabel again otherNamed
            rcases named.unique again with ⟨rfl, rfl⟩
            exact (apart other member otherDigits otherLabel otherNamed).1.symm
          · intro otherDigits otherLabel again
            rcases named.unique again with ⟨rfl, rfl⟩
            exact free
          · exact fun other member otherDigits otherLabel otherNamed =>
              (apart other member otherDigits otherLabel otherNamed).2
      · rintro ⟨⟨entryAccepted, accepted⟩, ⟨differs, distinct⟩, free, fresh⟩
        by_cases form : ∃ digits label, SlotName entry.filename digits label
        · rcases form with ⟨digits, label, named⟩
          rcases entryAccepted.name digits label named with ⟨hasLabel, inRange⟩
          rcases (passwordsValid_iff (decimalValue digits) label entry false).mp
            (entryAccepted.passwords digits label named) with ⟨slot, isSlot⟩
          have first := collectSlot_eq_some_iff.mpr (Or.inr ⟨digits, label, slot, named, hasLabel,
            inRange, isSlot, free digits label named, rfl⟩)
          rw [first, Option.bind_some]
          refine ih.mpr ⟨accepted, distinct, ?_⟩
          intro other member otherDigits otherLabel otherNamed
          have different := differs other member digits label otherDigits otherLabel named
            otherNamed
          rw [OrderedMap.get?_insert_of_ne _ (Ne.symm different)]
          exact fresh other member otherDigits otherLabel otherNamed
        · push Not at form
          have first : collectSlot host disk oracle before entry = some before :=
            collectSlot_eq_some_iff.mpr (Or.inl ⟨form, rfl⟩)
          rw [first, Option.bind_some]
          exact ih.mpr ⟨accepted, distinct, fresh⟩

/-! ## The whole storage root -/

theorem collectSlots_listing (listing : Order Path) (entries : List Path)
    (slots : OrderedMap Nat Slot) :
    collectSlots host disk { oracle with listing := listing } entries slots =
      collectSlots host disk oracle entries slots := by
  induction entries generalizing slots with
  | nil => rfl
  | cons entry rest ih =>
      rw [collectSlots_cons, collectSlots_cons]
      exact Option.bind_congr fun after _ => ih after

/-- The order of the listing does not matter. -/
theorem discoverSlotsIn_listing (listing : Order Path) (root : Path) :
    discoverSlotsIn host disk { oracle with listing := listing } root =
      discoverSlotsIn host disk oracle root := by
  have collected : collectSlots host disk { oracle with listing := listing }
      (listing.reorder (disk.subdirectories root)) ∅ =
      collectSlots host disk oracle (oracle.listing.reorder (disk.subdirectories root)) ∅ := by
    rw [collectSlots_listing]
    exact collectSlots_perm ((listing.perm _).trans (oracle.listing.perm _).symm) ∅
  unfold discoverSlotsIn
  dsimp only
  rw [collected]
  rfl

theorem subdirectories_nodup (disk : FileSystem) (root : Path) :
    (disk.subdirectories root).Nodup :=
  (OrderedMap.keys_nodup disk.directories).filter _

/-- What the collection needs of the entries, without their order. -/
theorem collects_root_iff (root : Path) :
    (collectSlots host disk oracle
        (oracle.listing.reorder (disk.subdirectories root)) ∅).isSome = true ↔
      (∀ entry ∈ disk.subdirectories root, EntryAccepted host disk oracle entry) ∧
        ∀ entry ∈ disk.subdirectories root, ∀ other ∈ disk.subdirectories root,
          entry ≠ other → DifferentNumbers entry other := by
  have symmetric : Std.Symm DifferentNumbers :=
    ⟨fun entry other differ digits label otherDigits otherLabel named otherNamed same =>
      differ otherDigits otherLabel digits label otherNamed named same.symm⟩
  rw [collectSlots_perm (oracle.listing.perm _), collectSlots_isSome_iff]
  simp only [OrderedMap.get?_empty, implies_true, and_true]
  refine and_congr_right fun _ => ?_
  constructor
  · intro distinct entry member other otherMember different
    exact distinct.forall member otherMember different
  · intro distinct
    exact (subdirectories_nodup disk root).pairwise_of_forall_ne distinct

theorem collects_root_get?_iff {root : Path} {collected : OrderedMap Nat Slot}
    (collects : collectSlots host disk oracle
      (oracle.listing.reorder (disk.subdirectories root)) ∅ = some collected) (id : Nat)
    (slot : Slot) :
    collected.get? id = some slot ↔ ∃ entry digits label,
      SlotEntry disk root entry digits label ∧ decimalValue digits = id ∧
        SlotOf host disk oracle id label entry false slot := by
  rw [collectSlots_perm (oracle.listing.perm _)] at collects
  rw [collectSlots_get?_iff collects, OrderedMap.get?_empty]
  constructor
  · rintro (absent | ⟨entry, member, digits, label, named, same, isSlot⟩)
    · contradiction
    · exact ⟨entry, digits, label, ⟨member, named⟩, same, isSlot⟩
  · rintro ⟨entry, digits, label, ⟨member, named⟩, same, isSlot⟩
    exact Or.inr ⟨entry, member, digits, label, named, same, isSlot⟩

/-- Nothing is collected exactly where no entry is named like a slot. -/
theorem collected_empty_iff {root : Path} {collected : OrderedMap Nat Slot}
    (collects : collectSlots host disk oracle
      (oracle.listing.reorder (disk.subdirectories root)) ∅ = some collected) :
    collected.entries = [] ↔ ∀ entry digits label, ¬SlotEntry disk root entry digits label := by
  have content := collects_root_get?_iff collects
  rw [OrderedMap.entries_eq_nil_iff]
  constructor
  · intro empty entry digits label isEntry
    have accepted := ((collects_root_iff root).mp (Option.isSome_iff_exists.mpr
      ⟨collected, collects⟩)).1 entry isEntry.member
    rcases (passwordsValid_iff (decimalValue digits) label entry false).mp
      (accepted.passwords digits label isEntry.named) with ⟨slot, isSlot⟩
    exact empty _ slot ((content _ slot).mpr ⟨entry, digits, label, isEntry, rfl, isSlot⟩)
  · intro noEntry id slot found
    rcases (content id slot).mp found with ⟨entry, digits, label, isEntry, _⟩
    exact noEntry entry digits label isEntry

theorem discoverSlotsIn_get?_iff {root : Path} {slots : OrderedMap Nat Slot}
    (discovers : discoverSlotsIn host disk oracle root = some slots) (id : Nat) (slot : Slot) :
    slots.get? id = some slot ↔ DiscoveredSlot host disk oracle root id slot := by
  simp only [discoverSlotsIn, Option.bind_eq_bind, Option.bind_eq_some_iff] at discovers
  rcases discovers with ⟨collected, collects, discovers⟩
  have content := collects_root_get?_iff collects
  split at discovers
  · rename_i empty
    have noEntry := (collected_empty_iff collects).mp empty
    have absent := OrderedMap.entries_eq_nil_iff.mp empty
    simp only [Option.bind_eq_some_iff, Option.pure_def, Option.some.injEq] at discovers
    rcases discovers with ⟨loaded, loads, rfl⟩
    have isSlot := loadPasswords_eq_some_iff.mp loads
    rw [OrderedMap.get?_insert, isSlot.sameId]
    constructor
    · intro found
      split at found
      · rename_i same
        cases found
        subst same
        exact .legacy noEntry isSlot
      · exact (absent id slot found).elim
    · intro discovered
      cases discovered with
      | entry isEntry _ => exact (noEntry _ _ _ isEntry).elim
      | legacy _ again => rw [if_pos rfl, isSlot.unique again]
  · rename_i some'
    split at discovers
    · contradiction
    · cases discovers
      rw [content]
      constructor
      · rintro ⟨entry, digits, label, isEntry, rfl, isSlot⟩
        exact .entry isEntry isSlot
      · intro discovered
        cases discovered with
        | entry isEntry isSlot => exact ⟨_, _, _, isEntry, rfl, isSlot⟩
        | legacy noEntry _ => exact (some' ((collected_empty_iff collects).mpr noEntry)).elim

/-- Discovery in a root that can be listed succeeds exactly where the specification
holds. -/
theorem discoverSlotsIn_isSome_iff {root : Path} (listed : oracle.listingFails root = false) :
    (discoverSlotsIn host disk oracle root).isSome = true ↔
      Discoverable host disk oracle root := by
  constructor
  · intro discovers
    rcases Option.isSome_iff_exists.mp discovers with ⟨slots, discovers⟩
    simp only [discoverSlotsIn, Option.bind_eq_bind, Option.bind_eq_some_iff] at discovers
    rcases discovers with ⟨collected, collects, discovers⟩
    rcases (collects_root_iff root).mp (Option.isSome_iff_exists.mpr ⟨collected, collects⟩) with
      ⟨accepted, distinct⟩
    refine ⟨listed, ?_, ?_, ?_, ?_, ?_⟩
    · intro entry digits label isEntry
      exact (accepted entry isEntry.member).name digits label isEntry.named
    · intro entry other digits otherDigits label otherLabel isEntry otherIsEntry same
      by_contra different
      exact distinct entry isEntry.member other otherIsEntry.member different digits label
        otherDigits otherLabel isEntry.named otherIsEntry.named same
    · intro entry digits label isEntry
      exact (accepted entry isEntry.member).passwords digits label isEntry.named
    · intro noEntry
      rw [if_pos ((collected_empty_iff collects).mpr noEntry)] at discovers
      simp only [Option.bind_eq_some_iff] at discovers
      rcases discovers with ⟨slot, loads, _⟩
      exact (passwordsValid_iff 1 (ascii "HSM Simulator") root true).mpr
        ⟨slot, loadPasswords_eq_some_iff.mp loads⟩
    · intro entry digits label isEntry kind isKind
      have some' : collected.entries ≠ [] := by
        intro empty
        exact (collected_empty_iff collects).mp empty entry digits label isEntry
      rw [if_neg some'] at discovers
      split at discovers
      · contradiction
      · rename_i unmixed
        simp only [Bool.or_eq_true, not_or, Bool.not_eq_true] at unmixed
        rcases isKind with rfl | rfl
        · exact unmixed.1
        · exact unmixed.2
  · intro valid
    have collects := (@collects_root_iff host disk oracle root).mpr ⟨fun entry member =>
      ⟨fun digits label named => valid.names entry digits label ⟨member, named⟩,
        fun digits label named => valid.passwords entry digits label ⟨member, named⟩⟩,
      fun entry member other otherMember different digits label otherDigits otherLabel named
        otherNamed same => different (valid.distinct entry other digits otherDigits label
          otherLabel ⟨member, named⟩ ⟨otherMember, otherNamed⟩ same)⟩
    rcases Option.isSome_iff_exists.mp collects with ⟨collected, collects⟩
    simp only [discoverSlotsIn, Option.bind_eq_bind, collects, Option.bind_some]
    split
    · rename_i empty
      rcases (passwordsValid_iff 1 (ascii "HSM Simulator") root true).mp
        (valid.legacy ((collected_empty_iff collects).mp empty)) with ⟨slot, isSlot⟩
      rw [loadPasswords_eq_some_iff.mpr isSlot]
      rfl
    · rename_i some'
      have found : ∃ entry digits label, SlotEntry disk root entry digits label := by
        by_contra noEntry
        push Not at noEntry
        exact some' ((collected_empty_iff collects).mpr noEntry)
      rcases found with ⟨entry, digits, label, isEntry⟩
      have first := valid.unmixed entry digits label isEntry asymmetricDirectory (Or.inl rfl)
      have second := valid.unmixed entry digits label isEntry symmetricDirectory (Or.inr rfl)
      simp [first, second]

end

/-! ## Discovery -/

/-- Discovery succeeds exactly where the storage root follows the specification, then
publishes exactly what the root says, changes no slot where it fails, and does not depend
on the order of the listing. -/
theorem discoverSlots_exact (host : Host) (state : State) (oracle : Oracle) :
    ((discoverSlots host state oracle).2 = true ↔
      ∃ disk, state.disk.createDirectories oracle state.storageRoot = some disk ∧
        Discoverable host disk oracle state.storageRoot) ∧
    ((discoverSlots host state oracle).2 = true → ∀ id slot,
      (discoverSlots host state oracle).1.slots.get? id = some slot ↔
        DiscoveredSlot host (discoverSlots host state oracle).1.disk oracle state.storageRoot id
          slot) ∧
    ((discoverSlots host state oracle).2 = false →
      (discoverSlots host state oracle).1.slots = state.slots) ∧
    ∀ listing, discoverSlots host state { oracle with listing := listing } =
      discoverSlots host state oracle := by
  refine ⟨?_, ?_, ?_, ?_⟩
  · unfold discoverSlots
    cases created : state.disk.createDirectories oracle state.storageRoot with
    | none => simp
    | some disk =>
        simp only [Option.some.injEq, exists_eq_left']
        cases listed : oracle.listingFails state.storageRoot with
        | true =>
            simp only [if_true, Bool.false_eq_true, false_iff]
            intro valid
            rw [valid.listed] at listed
            contradiction
        | false =>
            rw [← discoverSlotsIn_isSome_iff listed]
            cases discoverSlotsIn host disk oracle state.storageRoot <;> simp
  · unfold discoverSlots
    cases created : state.disk.createDirectories oracle state.storageRoot with
    | none => simp
    | some disk =>
        dsimp only
        split
        · simp
        · rename_i slots discovers
          intro _ id slot
          split at discovers
          · contradiction
          · exact discoverSlotsIn_get?_iff discovers id slot
  · unfold discoverSlots
    cases created : state.disk.createDirectories oracle state.storageRoot with
    | none => simp
    | some disk =>
        dsimp only
        split <;> simp
  · intro listing
    unfold discoverSlots
    simp only [discoverSlotsIn_listing]
    rfl

end HsmSimulator
