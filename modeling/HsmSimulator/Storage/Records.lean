import HsmSimulator.Storage.KeyStore

/-!
# Records of a key file

The records collected for a key file are those of its token objects: whatever the order
of the object table, as long as the objects have distinct classes none is dropped.
-/

namespace HsmSimulator

/-- The metadata record of an object. -/
def Object.record (object : Object) : Metadata.Attributes :=
  ⟨object.label, object.id, object.policy⟩

/-- The object whose record is written: an update replaces the object of its handle. -/
def recorded (replacement : Option Object) (handle : Nat) (found : Object) : Object :=
  match replacement with
  | some changed => if changed.handle = handle then changed else found
  | none => found

/-- The objects of a key file whose records are collected. -/
structure FileObject (objects : OrderedMap Nat Object) (path : Path) (handle : Nat)
    (object : Object) : Prop where
  found : objects.get? handle = some object
  token : object.ownerSession = 0
  samePath : object.path = path

/-- The objects of the key file have distinct classes, also with the replacement. -/
def DistinctRecords (objects : OrderedMap Nat Object) (path : Path)
    (replacement : Option Object) : Prop :=
  ∀ handle other object sibling, FileObject objects path handle object →
    FileObject objects path other sibling →
    (recorded replacement handle object).objectClass =
      (recorded replacement other sibling).objectClass → handle = other

/-- The records in the order they are collected. -/
def recordEntries (oracle : Oracle) (objects : OrderedMap Nat Object) (path : Path)
    (replacement : Option Object) : List (Nat × Metadata.Attributes) :=
  let stored := objects.filter fun _ object => object.ownerSession = 0 && object.path = path
  (oracle.tableOrder.reorder stored.keys).filterMap fun handle =>
    (stored.get? handle).map fun found =>
      ((recorded replacement handle found).objectClass, (recorded replacement handle found).record)

theorem collectMetadata_eq (oracle : Oracle) (objects : OrderedMap Nat Object) (path : Path)
    (replacement : Option Object) :
    collectMetadata oracle objects path replacement =
      (∅ : Metadata.Records).emplaceAll (recordEntries oracle objects path replacement) := by
  simp only [collectMetadata, recordEntries, OrderedMap.emplaceAll, List.foldl_filterMap]
  refine List.foldl_ext _ _ _ ?_
  intro records handle _
  cases (objects.filter fun _ object => object.ownerSession = 0 && object.path = path).get?
    handle <;> rfl

theorem get?_fileObjects {objects : OrderedMap Nat Object} {path : Path} {handle : Nat}
    {object : Object} :
    (objects.filter fun _ object => object.ownerSession = 0 && object.path = path).get? handle =
      some object ↔ FileObject objects path handle object := by
  rw [OrderedMap.get?_filter, Option.filter_eq_some_iff]
  simp only [Bool.and_eq_true, decide_eq_true_eq]
  constructor
  · rintro ⟨found, token, samePath⟩
    exact ⟨found, token, samePath⟩
  · rintro ⟨found, token, samePath⟩
    exact ⟨found, token, samePath⟩

theorem mem_recordEntries {oracle : Oracle} {objects : OrderedMap Nat Object} {path : Path}
    {replacement : Option Object} {cls : Nat} {record : Metadata.Attributes} :
    (cls, record) ∈ recordEntries oracle objects path replacement ↔
      ∃ handle object, FileObject objects path handle object ∧
        (recorded replacement handle object).objectClass = cls ∧
        (recorded replacement handle object).record = record := by
  simp only [recordEntries, List.mem_filterMap, Option.map_eq_some_iff, Prod.mk.injEq,
    get?_fileObjects]
  constructor
  · rintro ⟨handle, _, object, isObject, sameClass, sameRecord⟩
    exact ⟨handle, object, isObject, sameClass, sameRecord⟩
  · rintro ⟨handle, object, isObject, sameClass, sameRecord⟩
    refine ⟨handle, ?_, object, isObject, sameClass, sameRecord⟩
    rw [(oracle.tableOrder.perm _).mem_iff, OrderedMap.mem_keys_iff]
    exact ⟨object, get?_fileObjects.mpr isObject⟩

theorem recordEntries_nodup {oracle : Oracle} {objects : OrderedMap Nat Object} {path : Path}
    {replacement : Option Object} (distinct : DistinctRecords objects path replacement) :
    ((recordEntries oracle objects path replacement).map Prod.fst).Nodup := by
  have handles : (oracle.tableOrder.reorder (objects.filter fun _ object =>
      object.ownerSession = 0 && object.path = path).keys).Nodup :=
    (oracle.tableOrder.perm _).nodup_iff.mpr (OrderedMap.keys_nodup _)
  rw [recordEntries, List.map_filterMap]
  apply handles.filterMap
  intro handle other cls first second
  simp only [Option.map_map, Option.mem_def, Option.map_eq_some_iff, Function.comp_apply,
    get?_fileObjects] at first second
  rcases first with ⟨object, isObject, rfl⟩
  rcases second with ⟨sibling, isSibling, sameClass⟩
  exact distinct handle other object sibling isObject isSibling sameClass.symm

/-- The records collected for a key file are those of its objects. -/
theorem get?_collectMetadata {oracle : Oracle} {objects : OrderedMap Nat Object} {path : Path}
    {replacement : Option Object} (distinct : DistinctRecords objects path replacement) (cls : Nat)
    (record : Metadata.Attributes) :
    (collectMetadata oracle objects path replacement).get? cls = some record ↔
      ∃ handle object, FileObject objects path handle object ∧
        (recorded replacement handle object).objectClass = cls ∧
        (recorded replacement handle object).record = record := by
  rw [collectMetadata_eq, OrderedMap.get?_emplaceAll (recordEntries_nodup distinct),
    mem_recordEntries]
  simp

end HsmSimulator
