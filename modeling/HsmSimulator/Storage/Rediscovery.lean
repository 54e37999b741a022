import HsmSimulator.Storage.Reloading
import HsmSimulator.Storage.SlotDiscovery

/-!
# Discovery again

Slots that were discovered are discovered again where the directories named like slots are
the same and their password files are as they were or hold a valid PIN.
-/

namespace HsmSimulator

open FileSystem

/-- A password file is as it was, or it holds a valid PIN. -/
def PasswordKept (before after : FileSystem) (path : Path) : Prop :=
  after.hasPath path = before.hasPath path ∧ after.content path = before.content path ∨
    ∃ pin, validatePin (.bytes pin) = .ok () ∧ after.content path = some pin

/-- The password files of a slot. -/
def passwordFiles : List Bytes := [userPinFile, soPinFile, p12PasswordFile]

section

variable {host : Host} {before after : FileSystem} {oracle later : Oracle}

/-- What a kept password file says: the same, or some password. -/
theorem PasswordKept.read {path : Path} (kept : PasswordKept before after path)
    (faultless : Faultless later) {stored : Option Bytes}
    (isFile : PasswordFile before oracle path stored) :
    PasswordFile after later path stored ∨ ∃ pin, PasswordFile after later path (some pin) := by
  rcases kept with ⟨samePath, sameContent⟩ | ⟨pin, valid, written⟩
  · left
    cases isFile with
    | absent _ absent => exact .absent (faultless.stat _) (samePath.trans absent)
    | present _ _ content value =>
        exact .present (faultless.stat _) (faultless.read _) (sameContent.trans content) value
  · right
    exact ⟨_, .present (faultless.stat _) (faultless.read _) written
      (parsePassword_eq_some_iff.mp (parsePassword_valid valid))⟩

theorem PasswordsValid.kept {directory : Path}
    (valid : PasswordsValid host before oracle directory) (faultless : Faultless later)
    (kept : ∀ name ∈ passwordFiles, PasswordKept before after (directory.child name)) :
    PasswordsValid host after later directory := by
  constructor
  · rcases valid.user with ⟨stored, pin, isFile, isPin⟩
    rcases (kept userPinFile (by simp [passwordFiles])).read faultless isFile with
      same | ⟨other, isOther⟩
    · exact ⟨stored, pin, same, isPin⟩
    · exact ⟨some other, some other, isOther, .stored other⟩
  · rcases valid.so with ⟨pin, isFile⟩
    rcases (kept soPinFile (by simp [passwordFiles])).read faultless isFile with
      same | ⟨other, isOther⟩
    · exact ⟨pin, same⟩
    · exact ⟨some other, isOther⟩
  · rcases valid.p12 with ⟨stored, isFile⟩
    rcases (kept p12PasswordFile (by simp [passwordFiles])).read faultless isFile with
      same | ⟨other, isOther⟩
    · exact ⟨stored, same⟩
    · exact ⟨some other, isOther⟩

/-- Where the root may be listed with the same slot entries. -/
theorem Discoverable.again {root : Path} (valid : Discoverable host before oracle root)
    (faultless : Faultless later)
    (entries : ∀ entry digits label,
      SlotEntry after root entry digits label ↔ SlotEntry before root entry digits label)
    (passwords : ∀ id directory legacyLayout, SlotPlace before root id directory legacyLayout →
      ∀ name ∈ passwordFiles, PasswordKept before after (directory.child name))
    (unmixed : ∀ entry digits label, SlotEntry before root entry digits label →
      ∀ kind, kind = asymmetricDirectory ∨ kind = symmetricDirectory →
        after.hasPath (root.child kind) = before.hasPath (root.child kind)) :
    Discoverable host after later root := by
  constructor
  · exact faultless.listing root
  · intro entry digits label isEntry
    exact valid.names entry digits label ((entries _ _ _).mp isEntry)
  · intro entry other digits otherDigits label otherLabel isEntry otherIsEntry
    exact valid.distinct entry other digits otherDigits label otherLabel
      ((entries _ _ _).mp isEntry) ((entries _ _ _).mp otherIsEntry)
  · intro entry digits label isEntry
    have wasEntry := (entries _ _ _).mp isEntry
    rcases valid.names entry digits label wasEntry with ⟨hasLabel, inRange⟩
    have isSlot : SlotDirectory entry (decimalValue digits) :=
      parseSlotId_eq_some_iff.mpr ⟨digits, label, wasEntry.named, hasLabel, inRange, rfl⟩
    exact (valid.passwords entry digits label wasEntry).kept faultless
      (passwords _ _ _ (.entry wasEntry.member isSlot))
  · intro noEntry
    have neverEntry : ∀ entry digits label, ¬SlotEntry before root entry digits label :=
      fun entry digits label wasEntry => noEntry entry digits label ((entries _ _ _).mpr wasEntry)
    refine (valid.legacy neverEntry).kept faultless (passwords 1 root true (.legacy ?_))
    intro entry member id isSlot
    rcases parseSlotId_eq_some_iff.mp isSlot with ⟨digits, label, named, _, _, _⟩
    exact neverEntry entry digits label ⟨member, named⟩
  · intro entry digits label isEntry kind isKind
    have wasEntry := (entries _ _ _).mp isEntry
    refine ⟨faultless.stat _, ?_⟩
    rw [unmixed entry digits label wasEntry kind isKind]
    exact (valid.unmixed entry digits label wasEntry kind isKind).2

theorem SlotPlace.root_le {disk : FileSystem} {root directory : Path} {id : Nat}
    {legacyLayout : Bool} (place : SlotPlace disk root id directory legacyLayout) :
    root.length ≤ directory.length := by
  cases place with
  | entry member _ =>
      rcases (mem_subdirectories.mp member).1 with ⟨name, rfl⟩
      simp [Path.child]
  | legacy _ => exact Nat.le_refl _

/-- Creating the storage root and key directories of slots makes no entry of the root that
is named like a slot. -/
theorem slotEntry_prepared {root : Path} {created : List Path}
    (prepared : Prepared before after created)
    (outside : ∀ path ∈ created, path = root ∨ ∃ directory : Path,
      path = directory.child asymmetricDirectory ∨ path = directory.child symmetricDirectory)
    (entry : Path) (digits label : Bytes) :
    SlotEntry after root entry digits label ↔ SlotEntry before root entry digits label := by
  have same (named : SlotName entry.filename digits label) :
      entry ∈ after.subdirectories root ↔ entry ∈ before.subdirectories root := by
    rw [mem_subdirectories, mem_subdirectories, prepared.directories]
    apply and_congr_right
    rintro ⟨name, rfl⟩
    rw [if_neg]
    intro member
    rw [Path.filename_child] at named
    have noSlot (kind : Bytes) (ignored : parseSlotId kind = some none) (isKind : name = kind) :
        False := by
      rw [isKind] at named
      exact parseSlotId_eq_some_none_iff.mp ignored digits label named
    rcases outside _ member with isRoot | ⟨parent, isKind | isKind⟩
    · exact Path.ne_child root name isRoot.symm
    · exact noSlot _ (by decide) (Path.child_inj.mp isKind).2
    · exact noSlot _ (by decide) (Path.child_inj.mp isKind).2
  constructor
  · rintro ⟨member, named⟩
    exact ⟨(same named).mp member, named⟩
  · rintro ⟨member, named⟩
    exact ⟨(same named).mpr member, named⟩

/-- Paths outside the created directories are as they were. -/
theorem hasPath_prepared {created : List Path} (prepared : Prepared before after created)
    {path : Path} (outside : path ∉ created) : after.hasPath path = before.hasPath path := by
  apply hasPath_congr (prepared.content path)
  rw [prepared.directories, if_neg outside]

/-- No key directory of a slot has the name of a password file. -/
theorem passwordFile_not_kind {name kind : Bytes} (isPassword : name ∈ passwordFiles)
    (isKind : kind = asymmetricDirectory ∨ kind = symmetricDirectory) : name ≠ kind := by
  rintro rfl
  revert isPassword
  rcases isKind with rfl | rfl <;> decide

/-- Where the storage root and key directories of its slots are created, the slots are
discovered as before. -/
theorem Discoverable.prepared {root : Path} {created : List Path}
    (valid : Discoverable host before oracle root) (faultless : Faultless later)
    (prepared : Prepared before after created)
    (outside : ∀ path ∈ created, path = root ∨ ∃ id directory legacyLayout,
      SlotPlace before root id directory legacyLayout ∧
        (path = directory.child asymmetricDirectory ∨
          path = directory.child symmetricDirectory)) :
    Discoverable host after later root := by
  refine valid.again faultless (slotEntry_prepared prepared ?_) ?_ ?_
  · intro path member
    rcases outside path member with isRoot | ⟨_, directory, _, _, isKind⟩
    · exact Or.inl isRoot
    · exact Or.inr ⟨directory, isKind⟩
  · intro id directory legacyLayout place name isPassword
    left
    refine ⟨hasPath_prepared prepared ?_, prepared.content _⟩
    intro member
    rcases outside _ member with isRoot | ⟨_, other, _, _, isKind | isKind⟩
    · have level := place.root_le
      have lengths := congrArg List.length isRoot
      rw [Path.child, List.length_append, List.length_singleton] at lengths
      omega
    · exact passwordFile_not_kind isPassword (Or.inl rfl) (Path.child_inj.mp isKind).2
    · exact passwordFile_not_kind isPassword (Or.inr rfl) (Path.child_inj.mp isKind).2
  · intro entry digits label isEntry kind isKind
    apply hasPath_prepared prepared
    intro member
    rcases outside _ member with isRoot | ⟨id, directory, legacyLayout, place, isChild⟩
    · exact Path.ne_child root kind isRoot.symm
    · have same : directory = root := by
        rcases isChild with same | same <;> exact (Path.child_inj.mp same).1.symm
      subst same
      rcases valid.names entry digits label isEntry with ⟨hasLabel, inRange⟩
      cases place with
      | entry listed _ =>
          rcases (mem_subdirectories.mp listed).1 with ⟨name, same⟩
          exact Path.ne_child directory name same
      | legacy noEntry =>
          exact noEntry entry isEntry.member (decimalValue digits) (parseSlotId_eq_some_iff.mpr
            ⟨digits, label, isEntry.named, hasLabel, inRange, rfl⟩)

end

end HsmSimulator
