import HsmSimulator.Objects.Validation
import HsmSimulator.Pkcs11.Handles
import HsmSimulator.Pkcs11.TokenPolicies
import HsmSimulator.Storage.Records

/-!
# Changing attributes

A change of attributes is made as a whole or not at all, and what it publishes for a token
object reads back as what is in memory for every object of the key file, as long as no two
of them share a class.
-/

namespace HsmSimulator

open Checks FileSystem

/-! ## The template -/

/-- Exactly what the entries name is changed, to the value of the entry. -/
structure ChangesAttributes (entries : List Attribute) (before after : Object) : Prop where
  known : ∀ entry ∈ entries,
    entry.type = ckaLabel ∨ entry.type = ckaId ∨ isPolicyAttribute entry.type = true
  label : ∀ entry ∈ entries, entry.type = ckaLabel → after.label = entry.value.content
  id : ∀ entry ∈ entries, entry.type = ckaId → after.id = entry.value.content
  policy : ∀ entry ∈ entries, isPolicyAttribute entry.type = true →
    after.policy.get? entry.type = some entry.boolean
  otherLabel : (∀ entry ∈ entries, entry.type ≠ ckaLabel) → after.label = before.label
  otherId : (∀ entry ∈ entries, entry.type ≠ ckaId) → after.id = before.id
  otherPolicy : ∀ type, (∀ entry ∈ entries, entry.type ≠ type) ∨ isPolicyAttribute type = false →
    after.policy.get? type = before.policy.get? type
  rest : after.relabelled before.label before.id before.policy = before

theorem templateString_entry (entry : Attribute) :
    templateString (.entries [entry]) entry.type [] = entry.value.content := by
  rcases entry with ⟨type, value⟩
  cases value with
  | null length =>
      simp only [templateString, templateBytes, Template.toList, List.find?_cons, decide_true,
        Buffer.isNull, Buffer.content]
      split <;> rfl
  | bytes content =>
      cases content with
      | nil => simp [templateString, templateBytes, Template.toList, Buffer.length, Buffer.content]
      | cons byte rest =>
          simp [templateString, templateBytes, Template.toList, Buffer.length, Buffer.isNull,
            Buffer.content]

section

variable {before after : Object} {entry : Attribute} {rest : List Attribute}

/-- The label is set by the first entry and by no other. -/
theorem ChangesAttributes.consLabel (isLabel : entry.type = ckaLabel)
    (isNew : ∀ other ∈ rest, other.type ≠ entry.type)
    (changes : ChangesAttributes rest { before with label := entry.value.content } after) :
    ChangesAttributes (entry :: rest) before after := by
  have notId : entry.type ≠ ckaId := by rw [isLabel]; decide
  have notPolicy : isPolicyAttribute entry.type = false := by rw [isLabel]; decide
  rw [isLabel] at isNew
  constructor
  · exact List.forall_mem_cons.mpr ⟨Or.inl isLabel, changes.known⟩
  · exact List.forall_mem_cons.mpr ⟨fun _ => changes.otherLabel isNew, changes.label⟩
  · exact List.forall_mem_cons.mpr ⟨fun isId => (notId isId).elim, changes.id⟩
  · refine List.forall_mem_cons.mpr ⟨fun isPolicy => ?_, changes.policy⟩
    rw [notPolicy] at isPolicy
    contradiction
  · exact fun none => (none entry List.mem_cons_self isLabel).elim
  · exact fun none => changes.otherId (List.forall_mem_cons.mp none).2
  · intro type none
    exact changes.otherPolicy type (none.imp_left fun none => (List.forall_mem_cons.mp none).2)
  · exact congrArg (fun object : Object => { object with label := before.label }) changes.rest

theorem ChangesAttributes.consId (isId : entry.type = ckaId)
    (isNew : ∀ other ∈ rest, other.type ≠ entry.type)
    (changes : ChangesAttributes rest { before with id := entry.value.content } after) :
    ChangesAttributes (entry :: rest) before after := by
  have notLabel : entry.type ≠ ckaLabel := by rw [isId]; decide
  have notPolicy : isPolicyAttribute entry.type = false := by rw [isId]; decide
  rw [isId] at isNew
  constructor
  · exact List.forall_mem_cons.mpr ⟨Or.inr (Or.inl isId), changes.known⟩
  · exact List.forall_mem_cons.mpr ⟨fun isLabel => (notLabel isLabel).elim, changes.label⟩
  · exact List.forall_mem_cons.mpr ⟨fun _ => changes.otherId isNew, changes.id⟩
  · refine List.forall_mem_cons.mpr ⟨fun isPolicy => ?_, changes.policy⟩
    rw [notPolicy] at isPolicy
    contradiction
  · exact fun none => changes.otherLabel (List.forall_mem_cons.mp none).2
  · exact fun none => (none entry List.mem_cons_self isId).elim
  · intro type none
    exact changes.otherPolicy type (none.imp_left fun none => (List.forall_mem_cons.mp none).2)
  · exact congrArg (fun object : Object => { object with id := before.id }) changes.rest

theorem ChangesAttributes.consPolicy (isPolicy : isPolicyAttribute entry.type = true)
    (isNew : ∀ other ∈ rest, other.type ≠ entry.type)
    (changes : ChangesAttributes rest
      { before with policy := before.policy.insert entry.type entry.boolean } after) :
    ChangesAttributes (entry :: rest) before after := by
  have notLabel : entry.type ≠ ckaLabel := by
    intro isLabel
    rw [isLabel] at isPolicy
    revert isPolicy
    decide
  have notId : entry.type ≠ ckaId := by
    intro isId
    rw [isId] at isPolicy
    revert isPolicy
    decide
  constructor
  · exact List.forall_mem_cons.mpr ⟨Or.inr (Or.inr isPolicy), changes.known⟩
  · exact List.forall_mem_cons.mpr ⟨fun isLabel => (notLabel isLabel).elim, changes.label⟩
  · exact List.forall_mem_cons.mpr ⟨fun isId => (notId isId).elim, changes.id⟩
  · refine List.forall_mem_cons.mpr ⟨fun _ => ?_, changes.policy⟩
    rw [changes.otherPolicy entry.type (Or.inl isNew)]
    exact OrderedMap.get?_insert_self _ _ _
  · exact fun none => changes.otherLabel (List.forall_mem_cons.mp none).2
  · exact fun none => changes.otherId (List.forall_mem_cons.mp none).2
  · intro type none
    have different : type ≠ entry.type := by
      rintro rfl
      rcases none with none | notPolicy
      · exact none entry List.mem_cons_self rfl
      · rw [isPolicy] at notPolicy
        contradiction
    rw [changes.otherPolicy type (none.imp_left fun none => (List.forall_mem_cons.mp none).2)]
    exact OrderedMap.get?_insert_of_ne before.policy different entry.boolean
  · exact congrArg (fun object : Object => { object with policy := before.policy }) changes.rest

end

/-- The loop changes what the entries name. -/
theorem changeAttributes_changes {object start result : Object} {entries : List Attribute}
    (distinct : (entries.map Attribute.type).Nodup)
    (passes : changeAttributes object start entries = .ok result) :
    ChangesAttributes entries start result := by
  induction entries generalizing start with
  | nil =>
      cases passes
      exact ⟨by simp, by simp, by simp, by simp, fun _ => rfl, fun _ => rfl, fun _ _ => rfl, rfl⟩
  | cons entry rest ih =>
      rw [List.map_cons, List.nodup_cons] at distinct
      have isNew : ∀ other ∈ rest, other.type ≠ entry.type := by
        intro other member same
        exact distinct.1 (List.mem_map.mpr ⟨other, member, same⟩)
      unfold changeAttributes at passes
      split at passes
      · rename_i isLabel
        rw [templateString_entry] at passes
        exact (ih distinct.2 passes).consLabel isLabel isNew
      · split at passes
        · rename_i isId
          rw [templateString_entry] at passes
          exact (ih distinct.2 passes).consId isId isNew
        · split at passes
          · rename_i isPolicy
            split at passes
            · contradiction
            · exact (ih distinct.2 passes).consPolicy isPolicy isNew
          · contradiction

theorem AttributeChange.changes {state : State} {sessionHandle handle : Nat}
    {attributes : Template} {object changed : Object}
    (change : AttributeChange state sessionHandle handle attributes object changed) :
    ChangesAttributes attributes.toList object changed := by
  have passes := change.passes
  simp only [changedObject, validateCreationTemplate, bind_eq_ok_iff, require_eq_ok_iff] at passes
  rcases passes with ⟨stored, alterable, _, ⟨_, _, valid⟩, changes⟩
  have found := (alterableObject_eq_ok alterable).1
  rw [change.found] at found
  cases found
  exact changeAttributes_changes (validateEntries_eq_ok_iff.mp valid).1.distinct changes

/-! ## The records of a key file -/

/-- At most four records fit under the four classes. -/
theorem size_le_of_classes {records : Metadata.Records}
    (classes : ∀ cls record, records.get? cls = some record → 1 ≤ cls ∧ cls ≤ 4) :
    records.size ≤ 4 := by
  have subset : records.keys ⊆ [1, 2, 3, 4] := by
    intro cls member
    rcases OrderedMap.mem_keys_iff.mp member with ⟨record, found⟩
    have range := classes cls record found
    have isClass : cls = 1 ∨ cls = 2 ∨ cls = 3 ∨ cls = 4 := by omega
    simpa using isClass
  have length := ((OrderedMap.keys_nodup records).subperm subset).length_le
  simpa [OrderedMap.size, OrderedMap.keys] using length

section

variable {state : State}

theorem UniqueRecords.distinctRecords (unique : UniqueRecords state) (path : Path) :
    DistinctRecords state.objects path none := by
  intro handle other object sibling isObject isSibling sameClass
  exact unique handle other object sibling isObject.found isSibling.found isObject.token
    isSibling.token (isObject.samePath.trans isSibling.samePath.symm) sameClass

/-- What a change of a token object publishes: the records of the objects of its key file,
as they are after the change. -/
theorem AttributeChange.distinct {sessionHandle handle : Nat} {attributes : Template}
    {object changed : Object} (wellFormed : WellFormed state)
    (distinct : DistinctRecords state.objects object.path none)
    (change : AttributeChange state sessionHandle handle attributes object changed) :
    DistinctRecords state.objects object.path (some changed) := by
  rcases State.findObject_eq_some_iff.mp change.found with ⟨_, _, stored, _⟩
  have changedHandle : changed.handle = handle :=
    change.handle_eq.trans (wellFormed.objectKey handle object stored).1
  have classOf {other : Nat} {sibling : Object} (found : state.objects.get? other = some sibling) :
      (recorded (some changed) other sibling).objectClass = sibling.objectClass := by
    unfold recorded
    dsimp only
    split
    · rename_i same
      rw [changedHandle] at same
      rw [← same, stored] at found
      cases found
      exact objectClass_eq_of_core change.core_eq
    · rfl
  intro first second left right isLeft isRight sameClass
  rw [classOf isLeft.found, classOf isRight.found] at sameClass
  exact distinct first second left right isLeft isRight sameClass

/-- After a change the objects of a key file are those there were, the changed one with
the core it had. -/
theorem AttributeChange.origin {sessionHandle handle : Nat} {attributes : Template}
    {object changed : Object}
    (change : AttributeChange state sessionHandle handle attributes object changed) {path : Path}
    {other : Nat} {stored : Object}
    (isObject : FileObject (state.objects.insert handle changed) path other stored) :
    ∃ old, FileObject state.objects path other old ∧ stored.core = old.core ∧
      (stored = changed ∨ stored = old) := by
  rcases State.findObject_eq_some_iff.mp change.found with ⟨_, _, objectFound, _⟩
  have found := isObject.found
  rw [OrderedMap.get?_insert] at found
  split at found
  · rename_i isHandle
    subst isHandle
    cases found
    refine ⟨object, ⟨objectFound, ?_, ?_⟩, change.core_eq, Or.inl rfl⟩
    · rw [← ownerSession_eq_of_core change.core_eq]
      exact isObject.token
    · rw [← path_eq_of_core change.core_eq]
      exact isObject.samePath
  · exact ⟨stored, ⟨found, isObject.token, isObject.samePath⟩, rfl, Or.inr rfl⟩

/-- The record of every object of the key file, as it is after the change, is published. -/
theorem AttributeChange.records {oracle : Oracle} {sessionHandle handle : Nat}
    {attributes : Template} {object changed : Object} (wellFormed : WellFormed state)
    (distinct : DistinctRecords state.objects object.path none) (token : object.ownerSession = 0)
    (change : AttributeChange state sessionHandle handle attributes object changed) (cls : Nat)
    (record : Metadata.Attributes) :
    (collectMetadata oracle state.objects object.path (some changed)).get? cls = some record ↔
      ∃ other sibling, FileObject (state.objects.insert handle changed) object.path other sibling ∧
        sibling.objectClass = cls ∧ sibling.record = record := by
  rcases State.findObject_eq_some_iff.mp change.found with ⟨_, _, stored, _⟩
  have changedHandle : changed.handle = handle :=
    change.handle_eq.trans (wellFormed.objectKey handle object stored).1
  have changedFile : FileObject (state.objects.insert handle changed) object.path handle changed :=
    ⟨OrderedMap.get?_insert_self _ _ _, (ownerSession_eq_of_core change.core_eq).trans token,
      path_eq_of_core change.core_eq⟩
  have objectFile : FileObject state.objects object.path handle object := ⟨stored, token, rfl⟩
  rw [get?_collectMetadata (change.distinct wellFormed distinct)]
  constructor
  · rintro ⟨other, sibling, isSibling, sameClass, sameRecord⟩
    by_cases same : changed.handle = other
    · have isChanged : recorded (some changed) other sibling = changed := if_pos same
      rw [isChanged] at sameClass sameRecord
      exact ⟨handle, changed, changedFile, sameClass, sameRecord⟩
    · have isSame : recorded (some changed) other sibling = sibling := if_neg same
      rw [isSame] at sameClass sameRecord
      refine ⟨other, sibling, ⟨?_, isSibling.token, isSibling.samePath⟩, sameClass, sameRecord⟩
      rw [OrderedMap.get?_insert, if_neg fun isHandle => same (changedHandle.trans isHandle.symm)]
      exact isSibling.found
  · rintro ⟨other, sibling, isSibling, sameClass, sameRecord⟩
    have found := isSibling.found
    rw [OrderedMap.get?_insert] at found
    split at found
    · rename_i same
      cases found
      have isChanged : recorded (some changed) handle object = changed := if_pos changedHandle
      exact ⟨handle, object, objectFile, by rw [isChanged, sameClass],
        by rw [isChanged, sameRecord]⟩
    · rename_i different
      have isSame : recorded (some changed) other sibling = sibling :=
        if_neg fun same => different (same.symm.trans changedHandle)
      exact ⟨other, sibling, ⟨found, isSibling.token, isSibling.samePath⟩,
        by rw [isSame, sameClass],
        by rw [isSame, sameRecord]⟩

/-! ## Reading back -/

/-- The metadata of the path reads as the records of its objects. -/
def RecordsPublished (state : State) (path : Path) : Prop :=
  ∀ later, Metadata.Readable later path → ∃ records,
    Metadata.read state.disk later path = some records ∧
      ∀ handle object, FileObject state.objects path handle object →
        records.get? object.objectClass = some object.record

/-- The records of objects that can be written and that the reader's limit on policies
admits are within its limits. -/
theorem withinLimits_of_objects {objects : OrderedMap Nat Object} {path : Path}
    {records : Metadata.Records}
    (origin : ∀ cls record, records.get? cls = some record → ∃ handle object,
      FileObject objects path handle object ∧ object.objectClass = cls ∧ object.record = record)
    (complete : (Metadata.encode records).complete = true)
    (classes : ∀ handle object, FileObject objects path handle object →
      1 ≤ object.objectClass ∧ object.objectClass ≤ 4)
    (words : ∀ handle object, FileObject objects path handle object → WordPolicies object.policy)
    (few : ∀ handle object, FileObject objects path handle object → object.policy.size ≤ 32) :
    Metadata.WithinLimits records := by
  have strings := Metadata.complete_encode.mp complete
  have classOf : ∀ cls record, records.get? cls = some record → 1 ≤ cls ∧ cls ≤ 4 := by
    intro cls record stored
    rcases origin cls record stored with ⟨handle, object, isObject, rfl, rfl⟩
    exact classes handle object isObject
  constructor
  · exact size_le_of_classes classOf
  · exact classOf
  · exact fun cls record stored => (strings cls record stored).1
  · exact fun cls record stored => (strings cls record stored).2
  · intro cls record stored
    rcases origin cls record stored with ⟨handle, object, isObject, rfl, rfl⟩
    exact few handle object isObject
  · intro cls record stored
    rcases origin cls record stored with ⟨handle, object, isObject, rfl, rfl⟩
    exact words handle object isObject

end

/-! ## As a whole or not at all -/

/-- Nothing was changed; the temporary file of the metadata may be left. -/
structure ChangeRefused (before after : State) : Prop where
  state : after = { before with disk := after.disk }
  metadata : ∀ key, after.disk.content (Metadata.path key) =
    before.disk.content (Metadata.path key)
  files : ∀ path, (∀ handle object, before.objects.get? handle = some object →
    path ≠ Metadata.temporaryPath object.path) →
      after.disk.content path = before.disk.content path

/-- The entries were changed in the object, and for a token object its metadata file was
replaced by the records of the objects of its key file. -/
structure ChangeMade (before after : State) (sessionHandle handle : Nat) (attributes : Template)
    (object changed : Object) : Prop where
  found : before.findObject sessionHandle handle = some object
  changes : ChangesAttributes attributes.toList object changed
  state : after = { before with
    disk := after.disk
    objects := before.objects.insert handle changed }
  files : ∀ path, path ≠ Metadata.path object.path →
    after.disk.content path = before.disk.content path
  session : object.ownerSession ≠ 0 → after.disk = before.disk
  published : object.ownerSession = 0 →
    (∀ other sibling, FileObject after.objects object.path other sibling →
      sibling.policy.size ≤ 32) → RecordsPublished after object.path

/-- What a change of attributes does, for every outcome. -/
structure SetAtomic (host : Host) (state : State) (oracle : Oracle) (sessionHandle handle : Nat)
    (attributes : Template) : Prop where
  refused : (step host state (.setAttributeValue sessionHandle handle attributes, oracle)).2.rv ≠
    .ok → ChangeRefused state
      (step host state (.setAttributeValue sessionHandle handle attributes, oracle)).1
  made : (step host state (.setAttributeValue sessionHandle handle attributes, oracle)).2.rv =
    .ok → ∃ object changed, ChangeMade state
      (step host state (.setAttributeValue sessionHandle handle attributes, oracle)).1
      sessionHandle handle attributes object changed

section

variable {state : State}

theorem ChangeRefused.refl (state : State) : ChangeRefused state state :=
  ⟨rfl, fun _ => rfl, fun _ _ => rfl⟩

theorem ChangeRefused.temporary {handle : Nat} {object : Object} {left : Bytes}
    (stored : state.objects.get? handle = some object) :
    ChangeRefused state { state with
      disk := state.disk.writeFile (Metadata.temporaryPath object.path) left } := by
  refine ⟨rfl, ?_, ?_⟩
  · intro key
    dsimp only
    rw [content_writeFile, if_neg (Metadata.temporaryPath_ne_metadata object.path key).symm]
  · intro path other
    dsimp only
    rw [content_writeFile, if_neg (other handle object stored)]

/-- What a change of a token object publishes can be read back. -/
theorem AttributeChange.published {oracle : Oracle} {sessionHandle handle : Nat}
    {attributes : Template} {object changed : Object} {disk : FileSystem}
    (wellFormed : WellFormed state) (unique : UniqueRecords state) (policies : TokenPolicies state)
    (change : AttributeChange state sessionHandle handle attributes object changed)
    (token : object.ownerSession = 0)
    (outcome : Metadata.create state.disk oracle object.path
      (collectMetadata oracle state.objects object.path (some changed)) true = (disk, true))
    (complete : (Metadata.encode
      (collectMetadata oracle state.objects object.path (some changed))).complete = true)
    (few : ∀ other sibling, FileObject (state.objects.insert handle changed) object.path other
      sibling → sibling.policy.size ≤ 32) :
    RecordsPublished { state with
      disk := disk
      objects := state.objects.insert handle changed } object.path := by
  rcases State.findObject_eq_some_iff.mp change.found with ⟨_, _, stored, _⟩
  have records := @change.records _ oracle _ _ _ _ _ wellFormed
    (unique.distinctRecords object.path) token
  have origin {other : Nat} {sibling : Object}
      (isObject : FileObject (state.objects.insert handle changed) object.path other sibling) :
      sibling = changed ∨ state.objects.get? other = some sibling := by
    have found := isObject.found
    rw [OrderedMap.get?_insert] at found
    split at found
    · exact Or.inl (Option.some.inj found).symm
    · exact Or.inr found
  have limits : Metadata.WithinLimits
      (collectMetadata oracle state.objects object.path (some changed)) := by
    refine withinLimits_of_objects (fun cls record => (records cls record).mp) complete ?_ ?_ few
    · intro other sibling isObject
      rcases origin isObject with rfl | found
      · rw [objectClass_eq_of_core change.core_eq]
        rcases wellFormed.tokenObject handle object stored token with ⟨lower, upper, _⟩
        exact ⟨lower, upper⟩
      · rcases wellFormed.tokenObject other sibling found isObject.token with ⟨lower, upper, _⟩
        exact ⟨lower, upper⟩
    · intro other sibling isObject
      rcases origin isObject with rfl | found
      · rcases change.relabelled with ⟨label, id, rfl⟩
        exact wordPolicies_stable.apply (policies handle object stored token) attributes
      · exact policies other sibling found isObject.token
  intro later readable
  refine ⟨_, readable.read_create limits outcome, ?_⟩
  intro other sibling isObject
  exact (records _ _).mpr ⟨other, sibling, isObject, rfl, rfl⟩

/-- From a state in order a change is made as a whole or not at all. -/
theorem setAtomic {host : Host} (wellFormed : WellFormed state) (unique : UniqueRecords state)
    (policies : TokenPolicies state) (oracle : Oracle) (sessionHandle handle : Nat)
    (attributes : Template) : SetAtomic host state oracle sessionHandle handle attributes := by
  cases isOpen : state.initialized with
  | false =>
      have closed : step host state (.setAttributeValue sessionHandle handle attributes, oracle) =
          (state, .plain .cryptokiNotInitialized) := by
        simp [step, Call.needsInitialization, isOpen]
      constructor
      · rw [closed]
        exact fun _ => ChangeRefused.refl state
      · rw [closed]
        intro isOk
        contradiction
  | true =>
      have ends := @setAttributeValue_ends state oracle sessionHandle handle attributes
      have stepped : step host state (.setAttributeValue sessionHandle handle attributes, oracle) =
          setAttributeValue state oracle sessionHandle handle attributes := step_of_open isOpen _
      generalize setAttributeValue state oracle sessionHandle handle attributes = result
        at ends stepped
      constructor
      · rw [stepped]
        intro isError
        cases ends with
        | refused _ => exact ChangeRefused.refl state
        | left change _ _ =>
            rcases State.findObject_eq_some_iff.mp change.found with ⟨_, _, stored, _⟩
            exact ChangeRefused.temporary stored
        | session _ _ => exact (isError rfl).elim
        | published _ _ _ _ _ _ => exact (isError rfl).elim
      · rw [stepped]
        intro isOk
        cases ends with
        | refused failed => exact (failed isOk).elim
        | left _ _ _ => contradiction
        | @session object changed change notToken =>
            refine ⟨object, changed, change.found, change.changes, rfl, fun _ _ => rfl,
              fun _ => rfl, fun token => (notToken token).elim⟩
        | @published object changed records disk change token isRecords complete created isDisk =>
            refine ⟨object, changed, change.found, change.changes, rfl, ?_,
              fun owned => (owned token).elim, ?_⟩
            · intro path other
              dsimp only
              rw [isDisk, content_writeFile, if_neg other]
            · intro _ few
              rw [isRecords] at complete created
              exact change.published wellFormed unique policies token created complete few

end

/-- In every run in which every session key pair that was registered got its public half, a
change of attributes is made as a whole or not at all. -/
theorem set_attributes_atomic (host : Host) (disk : FileSystem) (inputs : List (Call × Oracle))
    (oracle : Oracle) (sessionHandle handle : Nat) (attributes : Template)
    (whole : Runs.Along (step host) (SessionPairsWhole host) (.loaded disk) inputs) :
    SetAtomic host (Runs.final (step host) (.loaded disk) inputs) oracle sessionHandle handle
      attributes :=
  setAtomic (wellFormed_run disk inputs) (TokenFiles.run whole).unique
    (TokenPolicies.run host disk inputs) oracle sessionHandle handle attributes

theorem set_attributes_atomic_aesKey :
    SetAtomic .plain (Runs.final (step .plain) (.loaded ⟨∅, ∅⟩)
      (plainRun [.cInitialize false, .openSession 1 6 true, aesKey 1])) .plain 1 1
      (.entries [⟨ckaLabel, .bytes [65]⟩, ⟨ckaSensitive, .bytes [1]⟩]) := by
  exact set_attributes_atomic .plain ⟨∅, ∅⟩ _ .plain 1 1 _
    (plainRun_along sessionPairsWhole_plain _ _)

/-- Two token objects of one path and class that differ in the label are not both published. -/
theorem not_setAtomic_of_shared {host : Host} {state : State} {oracle : Oracle}
    {sessionHandle handle other : Nat} {attributes : Template}
    (isOk : (step host state
      (.setAttributeValue sessionHandle handle attributes, oracle)).2.rv = .ok)
    {first second : Object}
    (isFirst : (step host state (.setAttributeValue sessionHandle handle attributes,
      oracle)).1.objects.get? other = some first)
    (isSecond : (step host state (.setAttributeValue sessionHandle handle attributes,
      oracle)).1.objects.get? handle = some second)
    (tokens : first.ownerSession = 0 ∧ second.ownerSession = 0)
    (shared : first.objectClass = second.objectClass ∧ first.path = second.path)
    (labels : first.label ≠ second.label)
    (few : ∀ entry ∈ (step host state (.setAttributeValue sessionHandle handle attributes,
      oracle)).1.objects.entries, entry.2.policy.size ≤ 32) :
    ¬SetAtomic host state oracle sessionHandle handle attributes := by
  intro atomic
  obtain ⟨object, changed, made⟩ := atomic.made isOk
  have isChanged : changed = second := by
    have found := isSecond
    rw [made.state] at found
    dsimp only at found
    rw [OrderedMap.get?_insert_self] at found
    exact Option.some.inj found
  have same := made.changes.rest
  rw [isChanged] at same
  have token : object.ownerSession = 0 := by
    rw [← same]
    exact tokens.2
  have samePath : object.path = second.path := by
    rw [← same]
    rfl
  obtain ⟨records, _, published⟩ := made.published token (fun other sibling isObject =>
    few (other, sibling) (OrderedMap.get?_eq_some_iff.mp isObject.found)) .plain ⟨rfl, rfl⟩
  have firstRecord := published other first
    ⟨isFirst, tokens.1, by rw [samePath, shared.2]⟩
  have secondRecord := published handle second ⟨isSecond, tokens.2, samePath.symm⟩
  rw [shared.1, secondRecord, Option.some.injEq] at firstRecord
  exact labels (congrArg Metadata.Attributes.label firstRecord).symm

/-- Two private halves of one path. -/
def twoHalves (tableOrder : Order Nat) : State :=
  Runs.final (step .plain) (.loaded ⟨∅, ∅⟩) (halflessRun tableOrder
    [.cInitialize false, .openSession 1 6 true, sessionPair 1, sessionPair 1])

/-- What is published for the half that the table lists second is the record of the one it
lists first. -/
theorem halves_lose_changes :
    ¬SetAtomic .plain (twoHalves .stored) (.halfless .stored) 1 2
        (.entries [⟨ckaLabel, .bytes [65]⟩]) ∧
      ¬SetAtomic .plain (twoHalves .reversed) (.halfless .reversed) 1 1
        (.entries [⟨ckaLabel, .bytes [65]⟩]) := by
  have stored : ∃ first, (step .plain (twoHalves .stored) (.setAttributeValue 1 2
        (.entries [⟨ckaLabel, .bytes [65]⟩]), .halfless .stored)).1.objects.get? 1 = some first ∧
      ∃ second, (step .plain (twoHalves .stored) (.setAttributeValue 1 2
        (.entries [⟨ckaLabel, .bytes [65]⟩]), .halfless .stored)).1.objects.get? 2 =
          some second ∧
      (first.ownerSession = 0 ∧ second.ownerSession = 0) ∧
      (first.objectClass = second.objectClass ∧ first.path = second.path) ∧
      first.label ≠ second.label := by
    decide
  have reversed : ∃ first, (step .plain (twoHalves .reversed) (.setAttributeValue 1 1
        (.entries [⟨ckaLabel, .bytes [65]⟩]), .halfless .reversed)).1.objects.get? 2 =
          some first ∧
      ∃ second, (step .plain (twoHalves .reversed) (.setAttributeValue 1 1
        (.entries [⟨ckaLabel, .bytes [65]⟩]), .halfless .reversed)).1.objects.get? 1 =
          some second ∧
      (first.ownerSession = 0 ∧ second.ownerSession = 0) ∧
      (first.objectClass = second.objectClass ∧ first.path = second.path) ∧
      first.label ≠ second.label := by
    decide
  constructor
  · obtain ⟨first, isFirst, second, isSecond, tokens, shared, labels⟩ := stored
    exact not_setAtomic_of_shared (by decide) isFirst isSecond tokens shared labels (by decide)
  · obtain ⟨first, isFirst, second, isSecond, tokens, shared, labels⟩ := reversed
    exact not_setAtomic_of_shared (by decide) isFirst isSecond tokens shared labels (by decide)

end HsmSimulator
