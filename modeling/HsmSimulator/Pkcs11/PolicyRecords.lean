import HsmSimulator.Pkcs11.AttributeUpdates

/-!
# Policies and their metadata files

Every policy of a token object stands in the record of its class beside its key file, as
long as every session key pair that was registered got its public half.  The reader may
refuse the file, where it has more policies than the reader takes; it never reads another
value from it.
-/

namespace HsmSimulator

open FileSystem

/-- The metadata of the key file does not read, or its record for the class is such. -/
def MetadataSays (disk : FileSystem) (path : Path) (objectClass : Nat)
    (fact : Metadata.Attributes → Prop) : Prop :=
  ∃ content, disk.content (Metadata.path path) = some content ∧
    ∀ records, Metadata.decode content = some records →
      ∃ record, records.get? objectClass = some record ∧ fact record

/-- The policies of every token object stand beside its key file. -/
def PoliciesRecorded (state : State) : Prop :=
  ∀ handle object, state.objects.get? handle = some object → object.ownerSession = 0 →
    ∀ type value, object.policy.get? type = some value →
      MetadataSays state.disk object.path object.objectClass
        fun record => record.policy.get? type = some value

/-- The record of every token object that has policies stands beside its key file. -/
def RecordsStored (state : State) : Prop :=
  ∀ handle object, state.objects.get? handle = some object → object.ownerSession = 0 →
    ∀ type value, object.policy.get? type = some value →
      MetadataSays state.disk object.path object.objectClass fun record => record = object.record

/-- What the metadata files of token objects rest on. -/
structure TokenOrder (state : State) : Prop where
  wellFormed : WellFormed state
  files : TokenFiles state
  words : EveryPolicy WordPolicies state
  few : EveryPolicy FewPolicies state

section

variable {before after : FileSystem} {path : Path} {objectClass : Nat}
  {fact : Metadata.Attributes → Prop}

theorem MetadataSays.congr (recorded : MetadataSays before path objectClass fact)
    (same : after.content (Metadata.path path) = before.content (Metadata.path path)) :
    MetadataSays after path objectClass fact := by
  rcases recorded with ⟨content, stored, reads⟩
  exact ⟨content, same.trans stored, reads⟩

/-- Where the metadata is read, the record is such. -/
theorem MetadataSays.read {oracle : Oracle} {records : Metadata.Records}
    (recorded : MetadataSays before path objectClass fact)
    (isRead : Metadata.read before oracle path = some records) :
    ∃ record, records.get? objectClass = some record ∧ fact record := by
  rcases recorded with ⟨content, stored, reads⟩
  apply reads
  unfold Metadata.read at isRead
  split at isRead
  · contradiction
  · split at isRead
    · rename_i absent
      rw [content_of_absent absent] at stored
      contradiction
    · split at isRead
      · contradiction
      · rw [stored] at isRead
        exact isRead

/-- A record that is read stands in the file. -/
theorem MetadataSays.of_read {oracle : Oracle} {records : Metadata.Records}
    {record : Metadata.Attributes} (isRead : Metadata.read before oracle path = some records)
    (found : records.get? objectClass = some record) (holds : fact record) :
    MetadataSays before path objectClass fact := by
  unfold Metadata.read at isRead
  split at isRead
  · contradiction
  · split at isRead
    · cases isRead
      contradiction
    · split at isRead
      · contradiction
      · rcases Option.bind_eq_some_iff.mp isRead with ⟨bytes, stored, decoded⟩
        refine ⟨bytes, stored, fun other otherDecoded => ?_⟩
        rw [decoded] at otherDecoded
        cases otherDecoded
        exact ⟨record, found, holds⟩

end

/-- The files of one key do not hold the metadata of another. -/
theorem IsKeyPath.metadata_not_mem_files {directory other path key : Path}
    (keyPath : IsKeyPath directory path) (otherPath : IsKeyPath other key)
    (different : path ≠ key) :
    Metadata.path path ∉ [key, Metadata.path key, Metadata.temporaryPath key] := by
  simp only [List.mem_cons, List.not_mem_nil, or_false, not_or]
  refine ⟨(otherPath.ne_metadata path).symm, ?_, (Metadata.temporaryPath_ne_metadata key path).symm⟩
  exact fun same => different (keyPath.metadata_inj otherPath same)

/-! ## One step -/

section

variable {state next : State}

/-- Published records of the objects of a key file are what the file says of them. -/
theorem MetadataSays.published (wellFormed : WellFormed next)
    (words : EveryPolicy WordPolicies next)
    (few : EveryPolicy FewPolicies next) {path : Path} {records : Metadata.Records}
    (origin : ∀ cls record, records.get? cls = some record ↔ ∃ handle object,
      FileObject next.objects path handle object ∧ object.objectClass = cls ∧
        object.record = record)
    (complete : (Metadata.encode records).complete = true)
    (published : next.disk.content (Metadata.path path) = some (Metadata.encode records).bytes)
    {handle : Nat} {object : Object} (isObject : FileObject next.objects path handle object)
    {fact : Metadata.Attributes → Prop} (holds : fact object.record) :
    MetadataSays next.disk path object.objectClass fact := by
  have classes : ∀ cls record, records.get? cls = some record → 1 ≤ cls ∧ cls ≤ 4 := by
    intro cls record stored
    rcases (origin cls record).mp stored with ⟨other, sibling, isSibling, rfl, rfl⟩
    rcases wellFormed.tokenObject other sibling isSibling.found isSibling.token with
      ⟨lower, upper, _⟩
    exact ⟨lower, upper⟩
  have writable : Metadata.Writable records := by
    refine ⟨?_, ?_, complete, ?_, ?_⟩
    · have few := size_le_of_classes classes
      omega
    · intro cls record stored
      have range := classes cls record stored
      omega
    · intro cls record stored
      rcases (origin cls record).mp stored with ⟨other, sibling, isSibling, rfl, rfl⟩
      exact (few other sibling isSibling.found isSibling.token).size_lt
    · intro cls record stored
      rcases (origin cls record).mp stored with ⟨other, sibling, isSibling, rfl, rfl⟩
      exact words other sibling isSibling.found isSibling.token
  refine ⟨_, published, fun read decoded => ?_⟩
  rw [writable.decode_eq decoded]
  exact ⟨object.record, (origin _ _).mpr ⟨handle, object, isObject, rfl, rfl⟩, holds⟩

namespace RecordsStored

variable (recorded : RecordsStored state)

include recorded

/-- Without new token objects, and with the metadata there was. -/
theorem frame
    (objects : ∀ handle object, next.objects.get? handle = some object →
      object.ownerSession = 0 → state.objects.get? handle = some object)
    (content : ∀ handle object, next.objects.get? handle = some object →
      object.ownerSession = 0 → next.disk.content (Metadata.path object.path) =
        state.disk.content (Metadata.path object.path)) : RecordsStored next := by
  intro handle object found token type value isSet
  exact (recorded handle object (objects handle object found token) token type value isSet).congr
    (content handle object found token)

/-- Where the files of one key change, the records of its objects have to stand in them. -/
theorem replace (wellFormed : WellFormed state) {directory path : Path}
    (keyPath : IsKeyPath directory path)
    (agrees : AgreesOutside [path, Metadata.path path, Metadata.temporaryPath path] state.disk
      next.disk)
    (others : ∀ handle object, next.objects.get? handle = some object →
      object.ownerSession = 0 → object.path ≠ path → state.objects.get? handle = some object)
    (here : ∀ handle object, FileObject next.objects path handle object → ∀ type value,
      object.policy.get? type = some value →
        MetadataSays next.disk path object.objectClass fun record => record = object.record) :
    RecordsStored next := by
  intro handle object found token type value isSet
  by_cases samePath : object.path = path
  · rw [samePath]
    exact here handle object ⟨found, token, samePath⟩ type value isSet
  · have old := others handle object found token samePath
    rcases wellFormed.tokenObject handle object old token with ⟨_, _, slot, _, otherPath⟩
    exact (recorded handle object old token type value isSet).congr
      (agrees.content _ (otherPath.metadata_not_mem_files keyPath samePath))

theorem creation {host : Host} {oracle : Oracle} {call : Call} {sessionHandle : Nat}
    {session : Session} {slot : Slot} {new : NewKey} {result : State × Response}
    (order : TokenOrder state) (nextOrder : TokenOrder result.1)
    (guard : CreationGuard state sessionHandle session slot new.token)
    (made : new.MadeBy host oracle call sessionHandle session slot)
    (creation : Creation host oracle state new result) : RecordsStored result.1 := by
  have agrees := creation.agrees.1
  have wellFormed := order.wellFormed
  have noObjects (absent : state.disk.hasPath new.path = false) (handle : Nat) (object : Object) :
      ¬FileObject state.objects new.path handle object := by
    rintro ⟨found, token, samePath⟩
    rcases order.files.exist handle object found token with ⟨bytes, stored⟩
    rw [samePath, content_of_absent absent] at stored
    contradiction
  cases creation with
  | refused _ _ => exact recorded.frame (fun _ _ found _ => found) fun _ _ _ _ => rfl
  | broken token _ _ opened _ =>
      refine recorded.replace wellFormed (made.keyPath (Or.inl token)) agrees
        (fun _ _ found _ _ => found) ?_
      intro handle object isObject
      exact (noObjects opened.absent handle object isObject).elim
  | withdrawn token _ absent _ _ =>
      refine recorded.replace wellFormed (made.keyPath (Or.inl token)) agrees ?_ ?_
      · intro handle object found _ _
        exact (OrderedMap.get?_eraseIf_eq_some_iff.mp found).1
      · intro handle object isObject
        rcases OrderedMap.get?_eraseIf_eq_some_iff.mp isObject.found with ⟨_, otherPath⟩
        exact absurd isObject.samePath (by simpa using otherPath)
  | @created next full stored records token nonempty handles advanced opened noMetadata encoded
      saved isRecords complete =>
      refine recorded.replace wellFormed (made.keyPath (Or.inl token)) agrees ?_ ?_
      · intro handle object found isToken otherPath
        rcases (get?_registerAll made.distinct handle object).mp found with ⟨isNew, _⟩ | ⟨_, old⟩
        · exact (otherPath (made.tokenObjects token object isNew).2).elim
        · exact old
      · intro handle object isObject type value isSet
        refine MetadataSays.published nextOrder.wellFormed nextOrder.words nextOrder.few
          ?_ complete ?_ isObject rfl
        · rw [isRecords]
          intro cls record
          exact get?_collectMetadata (nextOrder.files.unique.distinctRecords new.path) cls record
        · rw [content_writeFile, if_pos rfl]
  | kept token nonempty handles _ =>
      refine recorded.frame ?_ fun _ _ _ _ => rfl
      intro handle object found isToken
      rcases (get?_registerAll made.distinct handle object).mp found with ⟨isNew, _⟩ | ⟨_, old⟩
      · have owner := (made.sessionObjects token object isNew).1
        rw [isToken] at owner
        exact (wellFormed.sessionHandle_ne_zero guard.sessionFound owner.symm).elim
      · exact old
  | @half key object disk isKey _ _ _ _ samePath _ _ noPolicy files =>
      have inserted (handle : Nat) (stored : Object)
          (found : (state.objects.insert object.handle object).get? handle = some stored) :
          stored = object ∨ state.objects.get? handle = some stored := by
        rw [OrderedMap.get?_insert] at found
        split at found
        · exact Or.inl (Option.some.inj found).symm
        · exact Or.inr found
      refine recorded.replace wellFormed (made.keyPath (Or.inr (by simp [isKey]))) agrees ?_ ?_
      · intro handle stored found _ otherPath
        rcases inserted handle stored found with rfl | old
        · exact (otherPath samePath).elim
        · exact old
      · intro handle stored isObject type value isSet
        rcases inserted handle stored isObject.found with rfl | old
        · rw [noPolicy] at isSet
          contradiction
        · rcases files with ⟨_, rfl⟩ | ⟨_, opened, _, rfl⟩
          · have here := recorded handle stored old isObject.token type value isSet
            rw [isObject.samePath] at here
            exact here
          · exact (noObjects opened.absent handle stored
              ⟨old, isObject.token, isObject.samePath⟩).elim

omit recorded in
/-- What was loaded stands in the metadata it was loaded from. -/
theorem initialization {host : Host} {oracle : Oracle} {result : State × Response}
    (initialization : Initialization host oracle state result) : RecordsStored result.1 := by
  cases initialization with
  | failed _ _ objects _ _ _ _ _ =>
      intro handle object found
      rw [objects] at found
      contradiction
  | succeeded prepared discovered loaded =>
      intro handle object found _ type value isSet
      rcases (loaded.objects handle object).mp found with ⟨index, raw, listed, rfl, rfl⟩
      have member := List.mem_of_getElem? listed
      rcases mem_tokenObjects.mp member with ⟨slot, _, path, content, _, isRaw⟩
      rcases loaded.readable raw member with ⟨records, isRead⟩
      rw [(withMetadata_core _ _).1, (withMetadata_core _ _).2.2.2.1]
      rw [isRead, Option.getD_some] at isSet ⊢
      unfold Object.withMetadata at isSet ⊢
      split at isSet
      · rename_i record stored
        exact .of_read isRead stored rfl
      · change raw.policy.get? type = some value at isSet
        rw [(fileObjects_raw isRaw).1.policy] at isSet
        contradiction

theorem effect {host : Host} {oracle : Oracle} {call : Call} {result : State × Response}
    (order : TokenOrder state) (nextOrder : TokenOrder result.1)
    (effect : TokenEffect host oracle state call result) : RecordsStored result.1 := by
  have wellFormed := order.wellFormed
  cases effect with
  | kept same sameDisk =>
      refine recorded.frame (fun handle object found token =>
        (same.objects handle object token).mp found) ?_
      intro handle object _ _
      rw [sameDisk]
  | @pinWritten _ slot role path content _ slotFound isPin same written =>
      refine recorded.frame (fun handle object found token =>
        (same.objects handle object token).mp found) ?_
      intro handle object found token
      have old := (same.objects handle object token).mp found
      rcases wellFormed.tokenObject handle object old token with ⟨_, _, other, otherFound, keyPath⟩
      rw [written, content_writeFile, if_neg]
      rintro rfl
      exact wellFormed.pin_not_stored slotFound otherFound (isPin.imp_right And.left)
        keyPath.metadata_stored
  | @altered sessionHandle handle attributes object changed records change token isRecords
      complete =>
      rcases State.findObject_eq_some_iff.mp change.found with ⟨_, _, found, _⟩
      rcases wellFormed.tokenObject handle object found token with ⟨_, _, slot, _, keyPath⟩
      refine recorded.replace wellFormed keyPath
        ((AgreesOutside.refl _ _).writeFile (by simp) _) ?_ ?_
      · intro other stored storedFound _ otherPath
        dsimp only at storedFound
        rw [OrderedMap.get?_insert] at storedFound
        split at storedFound
        · cases storedFound
          exact (otherPath (path_eq_of_core change.core_eq)).elim
        · exact storedFound
      · intro other stored isObject type value isSet
        refine MetadataSays.published nextOrder.wellFormed nextOrder.words nextOrder.few
          ?_ complete ?_ isObject rfl
        · rw [isRecords]
          exact change.records wellFormed (order.files.unique.distinctRecords object.path) token
        · rw [content_writeFile, if_pos rfl]
  | metadataLeft change _ _ =>
      refine recorded.frame (fun _ _ found _ => found) ?_
      intro handle object _ _
      dsimp only
      rw [content_writeFile, if_neg (Metadata.temporaryPath_ne_metadata _ _).symm]
  | @destroyed _ _ object disk _ destruction token removed =>
      rcases State.findObject_eq_some_iff.mp destruction.found with ⟨_, _, found, _⟩
      rcases wellFormed.tokenObject _ object found token with ⟨_, _, slot, _, keyPath⟩
      have agrees : AgreesOutside [object.path, Metadata.path object.path,
          Metadata.temporaryPath object.path] state.disk disk :=
        keyFileRemoval_agrees removed (by simp) (by simp)
      refine recorded.replace wellFormed keyPath agrees ?_ ?_
      · intro other stored storedFound _ _
        exact (OrderedMap.get?_eraseIf_eq_some_iff.mp storedFound).1
      · intro other stored isObject
        rcases OrderedMap.get?_eraseIf_eq_some_iff.mp isObject.found with ⟨_, otherPath⟩
        exact absurd isObject.samePath (by simpa using otherPath)
  | creation _ _ isNew guard made creation =>
      exact recorded.creation order nextOrder guard made creation
  | finalized =>
      intro handle object found
      contradiction
  | initializing _ initialization => exact RecordsStored.initialization initialization

end RecordsStored

/-- With its record, each policy of an object stands beside its key file. -/
theorem RecordsStored.policies (published : RecordsStored state) :
    PoliciesRecorded state := by
  intro handle object found token type value isSet
  rcases published handle object found token type value isSet with ⟨content, stored, reads⟩
  refine ⟨content, stored, fun records decoded => ?_⟩
  rcases reads records decoded with ⟨record, isRecord, rfl⟩
  exact ⟨_, isRecord, isSet⟩

theorem TokenOrder.step {host : Host} (order : TokenOrder state) (input : Call × Oracle)
    (whole : SessionPairsWhole host state input) :
    TokenOrder (HsmSimulator.step host state input).1 := by
  have effect := @step_token host input.2 state order.wellFormed input.1
  exact ⟨order.wellFormed.step input, order.files.step order.wellFormed input whole,
    wordPolicies_stable.effect order.words effect, fewPolicies_stable.effect order.few effect⟩

end

theorem tokenOrder_loaded (disk : FileSystem) : TokenOrder (.loaded disk) := by
  refine ⟨wellFormed_loaded disk, ⟨?_, ?_⟩, ?_, ?_⟩
  · simp [KeyFilesExist, State.loaded]
  · simp [UniqueRecords, State.loaded]
  · simp [EveryPolicy, State.loaded]
  · simp [EveryPolicy, State.loaded]

end HsmSimulator
