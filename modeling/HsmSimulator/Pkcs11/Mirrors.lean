import HsmSimulator.Pkcs11.AllOrNothing
import HsmSimulator.Pkcs11.Containment
import HsmSimulator.Pkcs11.PathEffects
import HsmSimulator.Pkcs11.Standing
import HsmSimulator.Storage.Hexadecimal

/-!
# The registry mirrors the disk

The token objects of a path are those its key file holds, each with the record its metadata
file has for its class.  An initialisation leaves it so, and so does every call that keeps
to what a restart reads back.
-/

namespace HsmSimulator

open FileSystem

/-- A key file of a slot holds the object. -/
def StoredObject (host : Host) (half : EvpKey → Option EvpKey) (state : State) (path : Path)
    (raw : Object) : Prop :=
  ∃ id slot content, state.findSlot id = some slot ∧ state.disk.content path = some content ∧
    raw ∈ fileObjects host half slot path content

/-- The object is the one in the file, with the record of its class. -/
structure ReadsAs (disk : FileSystem) (path : Path) (raw object : Object) : Prop where
  core : object.core = raw.core
  recorded : ∃ records, disk.records path = some records ∧
    object.record = (records.get? raw.objectClass).getD raw.record

/-- The token objects of the path are those of its key file. -/
structure Mirrored (host : Host) (half : EvpKey → Option EvpKey) (state : State) (path : Path) :
    Prop where
  registered : ∀ raw, StoredObject host half state path raw → ∃ handle object,
    FileObject state.objects path handle object ∧ ReadsAs state.disk path raw object
  stored : ∀ handle object, FileObject state.objects path handle object → ∃ raw,
    StoredObject host half state path raw ∧ ReadsAs state.disk path raw object

/-- No file operation of a call fails, `PKCS12_parse` gives back what `PKCS12_create` got, and
OpenSSL gives the keys these public halves. -/
structure Dependable (host : Host) (half : EvpKey → Option EvpKey) (oracle : Oracle) : Prop where
  faultless : Faultless oracle
  containers : ∀ password name key der, oracle.createPkcs12 password name key = some der →
    host.openSsl.parsePkcs12 password der = some (key, none)
  halves : oracle.publicHalf = half

/-- What a call leaves is read back: a pair that it registers gets its public half, and a token
object that it changes keeps to as many policies as the reader takes. -/
structure Restorable (host : Host) (state : State) (input : Call × Oracle) : Prop where
  halves : ∀ new key, input.1.newKey host input.2 state = some new → new.key = some key →
    (new.token = true → StreamOpened input.2 state.disk new.path new.content) →
    publicKeyOnly input.2 key ≠ none
  policies : ∀ sessionHandle handle attributes changed,
    input.1 = .setAttributeValue sessionHandle handle attributes →
    changedObject state sessionHandle handle attributes = .ok changed →
    (step host state input).2.rv = .ok → changed.ownerSession = 0 → changed.policy.size ≤ 32

/-- What the call leaves of this key file is read back: a key that is created there is written
as a whole or withdrawn, and an object that is changed keeps to as many policies as the reader
takes.  Other calls, and other key files, may meet any fault. -/
structure EnduresAt (host : Host) (half : EvpKey → Option EvpKey) (path : Path) (state : State)
    (input : Call × Oracle) : Prop where
  unbroken : ∀ new, input.1.newKey host input.2 state = some new → new.path = path →
    new.Unbroken host input.2 state
  removes : ∀ new, input.1.newKey host input.2 state = some new → new.path = path →
    ∀ file, input.2.removeFails file = false
  containers : ∀ new, input.1.newKey host input.2 state = some new → new.path = path →
    ∀ password name key der, input.2.createPkcs12 password name key = some der →
      host.openSsl.parsePkcs12 password der = some (key, none)
  halves : ∀ new, input.1.newKey host input.2 state = some new → new.path = path →
    input.2.publicHalf = half
  policies : ∀ sessionHandle handle attributes changed,
    input.1 = .setAttributeValue sessionHandle handle attributes →
    changedObject state sessionHandle handle attributes = .ok changed →
    (step host state input).2.rv = .ok → changed.ownerSession = 0 → changed.path = path →
    changed.policy.size ≤ 32

/-- Without faults, what is restorable endures. -/
theorem Restorable.endures {host : Host} {half : EvpKey → Option EvpKey} {state : State}
    {input : Call × Oracle} (restorable : Restorable host state input)
    (dependable : Dependable host half input.2) (digests : DigestsNames host) (path : Path) :
    EnduresAt host half path state input where
  unbroken := fun new isNew _ => ⟨fun _ _ => dependable.faultless.write _,
    fun _ _ _ _ => digests _,
    fun key isKey opened _ => restorable.halves new key isNew isKey opened⟩
  removes := fun _ _ _ => dependable.faultless.remove
  containers := fun _ _ _ => dependable.containers
  halves := fun _ _ _ => dependable.halves
  policies := fun sessionHandle handle attributes changed isCall passes isOk token _ =>
    restorable.policies sessionHandle handle attributes changed isCall passes isOk token

/-! ## Objects -/

theorem Object.eq_of_core {object other : Object} (core : object.core = other.core)
    (record : object.record = other.record) (handle : object.handle = other.handle) :
    object = other := by
  cases object
  cases other
  simp only [Object.core, Object.record, Object.mk.injEq, Metadata.Attributes.mk.injEq] at *
  simp [core, record, handle]

theorem core_withMetadata (object : Object) (records : Metadata.Records) :
    (object.withMetadata records).core = object.core := by
  unfold Object.withMetadata
  split <;> rfl

theorem record_withMetadata (object : Object) (records : Metadata.Records) :
    (object.withMetadata records).record =
      (records.get? object.objectClass).getD object.record := by
  unfold Object.withMetadata
  split
  · rename_i record stored
    rw [stored]
    rfl
  · rename_i absent
    rw [absent]
    rfl

section

variable {host : Host} {half : EvpKey → Option EvpKey} {oracle : Oracle} {state next : State}
  {path : Path}

theorem StoredObject.keyPath {raw : Object} (stored : StoredObject host half state path raw) :
    ∃ directory, IsKeyPath directory path := by
  rcases stored with ⟨_, slot, _, _, _, member⟩
  exact ⟨slot.directory, (fileObjects_raw member).2⟩

theorem fileObjects_congr {slot other : Slot} (same : SamePlace slot other) (content : Bytes) :
    fileObjects host half slot path content = fileObjects host half other path content := by
  unfold fileObjects asymmetricObjects
  rw [same.directory, same.id, same.password]

/-- What a file holds depends on its content and the place of its slot. -/
theorem StoredObject.congr {raw : Object} (stored : StoredObject host half state path raw)
    (slots : ∀ id slot, state.findSlot id = some slot →
      ∃ other, next.findSlot id = some other ∧ SamePlace other slot)
    (content : next.disk.content path = state.disk.content path) :
    StoredObject host half next path raw := by
  rcases stored with ⟨id, slot, bytes, found, isContent, member⟩
  rcases slots id slot found with ⟨other, otherFound, same⟩
  refine ⟨id, other, bytes, otherFound, content.trans isContent, ?_⟩
  rw [fileObjects_congr same]
  exact member

/-- An object that is read from the disk has as many policies as the reader takes. -/
theorem ReadsAs.few {raw object : Object} {disk : FileSystem}
    (reads : ReadsAs disk path raw object) (noPolicy : raw.policy = ∅) :
    object.policy.size ≤ 32 := by
  rcases reads.recorded with ⟨records, isRead, isRecord⟩
  have policy : object.policy = ((records.get? raw.objectClass).getD raw.record).policy :=
    congrArg Metadata.Attributes.policy isRecord
  rw [policy]
  cases found : records.get? raw.objectClass with
  | some record => exact (records_withinLimits isRead).policies _ record found
  | none =>
      change raw.policy.size ≤ 32
      rw [noPolicy]
      exact Nat.zero_le _

theorem Mirrored.few (mirrored : Mirrored host half state path) {handle : Nat} {object : Object}
    (isObject : FileObject state.objects path handle object) : object.policy.size ≤ 32 := by
  rcases mirrored.stored handle object isObject with ⟨raw, ⟨_, slot, content, _, _, member⟩, reads⟩
  exact reads.few (fileObjects_raw member).1.policy

/-- A path that is no key file's is mirrored. -/
theorem mirrored_of_no_keyPath (wellFormed : WellFormed state)
    (noKey : ¬∃ directory, IsKeyPath directory path) : Mirrored host half state path := by
  constructor
  · intro raw stored
    exact (noKey stored.keyPath).elim
  · rintro handle object ⟨found, token, rfl⟩
    rcases wellFormed.tokenObject handle object found token with ⟨_, _, slot, _, keyPath⟩
    exact (noKey ⟨slot.directory, keyPath⟩).elim

/-! ## One call -/

/-- Where nothing of the path changes, it stays mirrored. -/
theorem Mirrored.same (mirrored : Mirrored host half state path) (same : SameAt state next path)
    (directories : next.disk.directories = state.disk.directories)
    (before : ∀ id slot, next.findSlot id = some slot →
      ∃ old, state.findSlot id = some old ∧ SamePlace old slot)
    (after : ∀ id old, state.findSlot id = some old →
      ∃ slot, next.findSlot id = some slot ∧ SamePlace slot old) :
    Mirrored host half next path := by
  have records : next.disk.records path = state.disk.records path :=
    records_congr same.metadata (by rw [directories])
  have readsAs {raw object : Object} (reads : ReadsAs state.disk path raw object) :
      ReadsAs next.disk path raw object := by
    rcases reads.recorded with ⟨stored, isRead, isRecord⟩
    exact ⟨reads.core, stored, records.trans isRead, isRecord⟩
  constructor
  · intro raw stored
    rcases mirrored.registered raw (stored.congr before same.content.symm) with
      ⟨handle, object, isObject, reads⟩
    exact ⟨handle, object, (same.objects handle object).mpr isObject, readsAs reads⟩
  · intro handle object isObject
    rcases mirrored.stored handle object ((same.objects handle object).mp isObject) with
      ⟨raw, stored, reads⟩
    exact ⟨raw, stored.congr after same.content, readsAs reads⟩

/-- Records of the objects of a key file are read again if none has too many policies. -/
theorem TokenOrder.withinLimits {records : Metadata.Records} (order : TokenOrder state)
    (origin : ∀ cls record, records.get? cls = some record → ∃ handle object,
      FileObject state.objects path handle object ∧ object.objectClass = cls ∧
        object.record = record)
    (complete : (Metadata.encode records).complete = true)
    (few : ∀ handle object, FileObject state.objects path handle object →
      object.policy.size ≤ 32) : Metadata.WithinLimits records := by
  refine withinLimits_of_objects origin complete ?_ ?_ few
  · intro handle object isObject
    rcases order.wellFormed.tokenObject handle object isObject.found isObject.token with
      ⟨lower, upper, _⟩
    exact ⟨lower, upper⟩
  · intro handle object isObject
    exact order.words handle object isObject.found isObject.token

/-- Where the records of all its objects are published, the path is mirrored. -/
theorem mirrored_of_published {records : Metadata.Records} (order : TokenOrder next)
    (content : next.disk.content (Metadata.path path) = some (Metadata.encode records).bytes)
    (origin : ∀ cls record, records.get? cls = some record ↔ ∃ handle object,
      FileObject next.objects path handle object ∧ object.objectClass = cls ∧
        object.record = record)
    (complete : (Metadata.encode records).complete = true)
    (few : ∀ handle object, FileObject next.objects path handle object →
      object.policy.size ≤ 32)
    (registered : ∀ raw, StoredObject host half next path raw → ∃ handle object,
      FileObject next.objects path handle object ∧ object.core = raw.core)
    (stored : ∀ handle object, FileObject next.objects path handle object →
      ∃ raw, StoredObject host half next path raw ∧ object.core = raw.core) :
    Mirrored host half next path := by
  have limits := order.withinLimits (fun cls record => (origin cls record).mp) complete few
  have isRead : next.disk.records path = some records := by
    rw [records_of_content content, limits.decode_encode]
  have readsAs {handle : Nat} {raw object : Object}
      (isObject : FileObject next.objects path handle object) (same : object.core = raw.core) :
      ReadsAs next.disk path raw object := by
    refine ⟨same, records, isRead, ?_⟩
    rw [← objectClass_eq_of_core same, (origin _ _).mpr ⟨handle, object, isObject, rfl, rfl⟩,
      Option.getD_some]
  constructor
  · intro raw isStored
    rcases registered raw isStored with ⟨handle, object, isObject, same⟩
    exact ⟨handle, object, isObject, readsAs isObject same⟩
  · intro handle object isObject
    rcases stored handle object isObject with ⟨raw, isStored, same⟩
    exact ⟨raw, isStored, readsAs isObject same⟩

theorem samePlace_self (id : Nat) (slot : Slot) (found : state.findSlot id = some slot) :
    ∃ other, state.findSlot id = some other ∧ SamePlace other slot :=
  ⟨slot, found, rfl, rfl, rfl, rfl⟩

/-- A change of a token object publishes the records of its key file. -/
theorem Mirrored.altered (mirrored : Mirrored host half state path) (order : TokenOrder state)
    {sessionHandle target : Nat} {attributes : Template} {object changed : Object}
    {records : Metadata.Records}
    (change : AttributeChange state sessionHandle target attributes object changed)
    (isTarget : FileObject state.objects path target object)
    (isRecords : records = collectMetadata oracle state.objects path (some changed))
    (complete : (Metadata.encode records).complete = true)
    (few : changed.policy.size ≤ 32)
    (nextOrder : TokenOrder { state with
      disk := state.disk.writeFile (Metadata.path path) (Metadata.encode records).bytes
      objects := state.objects.insert target changed }) : Mirrored host half { state with
      disk := state.disk.writeFile (Metadata.path path) (Metadata.encode records).bytes
      objects := state.objects.insert target changed } path := by
  have samePath := isTarget.samePath
  subst samePath
  have content : (state.disk.writeFile (Metadata.path object.path)
      (Metadata.encode records).bytes).content object.path = state.disk.content object.path := by
    rw [content_writeFile, if_neg (Metadata.path_ne _).symm]
  refine mirrored_of_published nextOrder (by rw [content_writeFile, if_pos rfl]) ?_ complete
    ?_ ?_ ?_
  · rw [isRecords]
    exact change.records order.wellFormed (order.files.unique.distinctRecords object.path)
      isTarget.token
  · intro other sibling isObject
    rcases change.origin isObject with ⟨old, wasObject, _, rfl | rfl⟩
    · exact few
    · exact mirrored.few wasObject
  · intro raw stored
    rcases mirrored.registered raw (stored.congr samePlace_self content.symm) with
      ⟨other, old, wasObject, reads⟩
    by_cases isHandle : other = target
    · have sameObject : some old = some object := by
        rw [← wasObject.found, isHandle, isTarget.found]
      cases sameObject
      refine ⟨target, changed, ⟨OrderedMap.get?_insert_self _ _ _, ?_, ?_⟩,
        change.core_eq.trans reads.core⟩
      · exact (ownerSession_eq_of_core change.core_eq).trans isTarget.token
      · exact path_eq_of_core change.core_eq
    · refine ⟨other, old, ⟨?_, wasObject.token, wasObject.samePath⟩, reads.core⟩
      rw [OrderedMap.get?_insert, if_neg isHandle]
      exact wasObject.found
  · intro other sibling isObject
    rcases change.origin isObject with ⟨old, wasObject, same, _⟩
    rcases mirrored.stored other old wasObject with ⟨raw, stored, reads⟩
    exact ⟨raw, stored.congr samePlace_self content, same.trans reads.core⟩

/-! ## New keys -/

/-- The key file of a new key holds its objects. -/
theorem NewKey.Encodes.fileObjects {new : NewKey} {label full : Bytes}
    (encodes : new.Encodes host oracle) (named : new.Named label) (digests : DigestsNames host)
    (containers : ∀ password name key der, oracle.createPkcs12 password name key = some der →
      host.openSsl.parsePkcs12 password der = some (key, none))
    (halves : oracle.publicHalf = half) (content : new.content = some full)
    (nonempty : new.objects ≠ []) :
    (HsmSimulator.fileObjects host half new.slot new.path full).map Object.core =
      new.objects.map Object.core := by
  cases encodes with
  | secret object noKey objects core hasValue hex =>
      rw [content, Option.some.injEq] at hex
      have isPath : new.path = symmetricKeyPath new.slot label := by
        rw [named.path, if_pos noKey]
      have decoded : decodeHex full = object.secretValue := by
        rw [hex]
        apply decodeHex_of_strip
        rw [stripSpace, List.filter_append]
        change stripSpace (encodeHex object.secretValue) ++ [] = _
        rw [List.append_nil, isSpace_encodeHex]
      have extension : Path.extension new.path.filename = ascii ".key" := by
        rw [isPath, extension_symmetricKeyPath]
      rcases Option.ne_none_iff_exists'.mp (digests new.path.filename) with ⟨id, digest⟩
      rw [isPath, symmetricKeyPath, fileObjects_symmetric, ← symmetricKeyPath, ← isPath,
        symmetricObjects, if_neg (not_not.mpr extension), decoded, if_neg hasValue,
        objectIdForFilename, digest, objects, List.map_singleton, List.map_singleton, core]
      rfl
  | pair key name isKey container objects =>
      rcases objects nonempty with ⟨publicKey, isHalf, cores⟩
      rw [content, pairContent, eq_comm, Option.filter_eq_some_iff, decide_eq_true_eq] at container
      have isPath : new.path = asymmetricKeyPath new.slot label := by
        rw [named.path, if_neg (by simp [isKey])]
      have extension : Path.extension new.path.filename = ascii ".p12" := by
        rw [isPath, extension_asymmetricKeyPath]
      rcases Option.ne_none_iff_exists'.mp (digests new.path.filename) with ⟨id, digest⟩
      rw [isPath, asymmetricKeyPath, fileObjects_asymmetric, ← asymmetricKeyPath, ← isPath,
        asymmetricObjects, if_neg (by simp [extension]), if_neg container.2,
        containers _ _ _ _ container.1, objectIdForFilename, digest, cores]
      dsimp only
      rw [publicKeyOnly, halves] at isHalf
      rw [pairObjects, isHalf]
      rfl

theorem Call.session_of_newKey {call : Call} {new : NewKey}
    (isNew : call.newKey host oracle state = some new) :
    ∃ sessionHandle, call.session? = some sessionHandle := by
  cases call with
  | generateKey sessionHandle => exact ⟨sessionHandle, rfl⟩
  | generateKeyPair sessionHandle => exact ⟨sessionHandle, rfl⟩
  | unwrapKey sessionHandle => exact ⟨sessionHandle, rfl⟩
  | deriveKey sessionHandle => exact ⟨sessionHandle, rfl⟩
  | _ => simp [Call.newKey, Call.secretRequest, Call.pairRequest] at isNew

/-- A key that is stored as a whole is mirrored. -/
theorem NewKey.MadeBy.mirrored {call : Call} {sessionHandle counter : Nat} {session : Session}
    {slot : Slot} {new : NewKey} {full : Bytes} {records : Metadata.Records}
    (made : new.MadeBy host oracle call sessionHandle session slot) (order : TokenOrder state)
    (guard : CreationGuard state sessionHandle session slot new.token)
    (isToken : new.token = true) (absent : state.disk.hasPath new.path = false)
    (cores : (fileObjects host half new.slot new.path full).map Object.core =
      new.objects.map Object.core)
    (isRecords : records = collectMetadata oracle (registerAll state.objects new.objects) new.path
      none)
    (complete : (Metadata.encode records).complete = true)
    (nextOrder : TokenOrder { state with
      nextObjectHandle := counter
      objects := registerAll state.objects new.objects
      disk := (state.disk.writeFile new.path full).writeFile (Metadata.path new.path)
        (Metadata.encode records).bytes }) : Mirrored host half { state with
      nextObjectHandle := counter
      objects := registerAll state.objects new.objects
      disk := (state.disk.writeFile new.path full).writeFile (Metadata.path new.path)
        (Metadata.encode records).bytes } new.path := by
  have newObject {handle : Nat} {object : Object}
      (isObject : FileObject (registerAll state.objects new.objects) new.path handle object) :
      object ∈ new.objects := by
    rcases (get?_registerAll made.distinct handle object).mp isObject.found with
      ⟨member, _⟩ | ⟨_, old⟩
    · exact member
    · rcases order.files.exist handle object old isObject.token with ⟨bytes, found⟩
      rw [isObject.samePath, content_of_absent absent] at found
      contradiction
  have content : ((state.disk.writeFile new.path full).writeFile
      (Metadata.path new.path) (Metadata.encode records).bytes).content new.path = some full := by
    rw [content_writeFile, if_neg (Metadata.path_ne new.path).symm, content_writeFile,
      if_pos rfl]
  refine mirrored_of_published nextOrder (by rw [content_writeFile, if_pos rfl]) ?_ complete
    ?_ ?_ ?_
  · rw [isRecords]
    exact get?_collectMetadata (nextOrder.files.unique.distinctRecords new.path)
  · intro handle object isObject
    rw [made.policies object (newObject isObject)]
    exact size_applyPolicyTemplate_le _
  · rintro raw ⟨id, other, bytes, found, isBytes, member⟩
    cases isBytes.symm.trans content
    have sameId := order.wellFormed.layout.distinct _ _ _ _ found guard.slotFound
      ((fileObjects_raw member).2.directory_eq (made.keyPath (Or.inl isToken)))
    have sameSlot : other = slot := by
      rw [sameId] at found
      exact Option.some.inj (found.symm.trans guard.slotFound)
    rw [sameSlot, ← made.sameSlot] at member
    have listed : raw.core ∈ (fileObjects host half new.slot new.path full).map Object.core :=
      List.mem_map_of_mem member
    rw [cores] at listed
    rcases List.mem_map.mp listed with ⟨object, isObject, same⟩
    rcases made.tokenObjects isToken object isObject with ⟨token, samePath⟩
    exact ⟨object.handle, object, ⟨(get?_registerAll made.distinct _ _).mpr
      (Or.inl ⟨isObject, rfl⟩), token, samePath⟩, same⟩
  · intro handle object isObject
    have listed : object.core ∈ new.objects.map Object.core :=
      List.mem_map_of_mem (newObject isObject)
    rw [← cores] at listed
    rcases List.mem_map.mp listed with ⟨raw, member, same⟩
    rw [made.sameSlot] at member
    exact ⟨raw, ⟨session.slotId, slot, full, guard.slotFound, content, member⟩, same.symm⟩

/-- A creation leaves the path of its key mirrored. -/
theorem Creation.mirrored {call : Call} {sessionHandle : Nat} {session : Session} {slot : Slot}
    {new : NewKey} {response : Response} (mirrored : Mirrored host half state new.path)
    (order : TokenOrder state) (nextOrder : TokenOrder next) (digests : DigestsNames host)
    (endures : EnduresAt host half new.path state (call, oracle))
    (isNew : call.newKey host oracle state = some new)
    (guard : CreationGuard state sessionHandle session slot new.token)
    (made : new.MadeBy host oracle call sessionHandle session slot)
    (creation : Creation host oracle state new (next, response)) :
    Mirrored host half next new.path := by
  have unbroken := endures.unbroken new isNew rfl
  by_cases succeeded : response.rv = .ok
  · cases creation with
    | refused _ failed => exact (failed succeeded).elim
    | broken _ _ failed _ _ => exact (failed succeeded).elim
    | withdrawn _ _ _ _ _ => contradiction
    | half _ _ _ _ _ _ _ _ _ _ => contradiction
    | kept notToken _ handles _ =>
        exact mirrored.same (.of_sameToken (made.sameToken order.wellFormed guard.sessionFound
          notToken handles) rfl rfl) rfl samePlace_self samePlace_self
    | @created counter full stored records isToken nonempty _ _ opened _ content saved isRecords
        complete =>
        rcases Call.session_of_newKey isNew with ⟨_, onSession⟩
        rcases Call.newKey_named onSession isNew isToken with ⟨label, named⟩
        have whole : stored = full := by
          rcases saved with ⟨_, same⟩ | ⟨_, atClose, _⟩
          · exact same
          · rw [unbroken.stream isToken opened] at atClose
            contradiction
        subst whole
        exact made.mirrored order guard isToken opened.absent ((made.encodes isToken).fileObjects
          named digests (endures.containers new isNew rfl) (endures.halves new isNew rfl) content
            nonempty) isRecords complete nextOrder
  · rcases creation.unchanged order.files order.wellFormed made unbroken
      (endures.removes new isNew rfl) succeeded with ⟨counter, _, isNext⟩
    change next = _ at isNext
    rw [isNext]
    exact mirrored.same (.of_sameToken (SameToken.withSessions _ _ _ _) rfl rfl) rfl samePlace_self
      samePlace_self

/-! ## Runs -/

/-- A call that keeps to what a restart reads back of a path leaves it mirrored. -/
theorem TokenEffect.mirrored {call : Call} {result : State × Response}
    (effect : TokenEffect host oracle state call result)
    (mirrored : Mirrored host half state path) (order : TokenOrder state)
    (nextOrder : TokenOrder result.1) (digests : DigestsNames host)
    (isStep : step host state (call, oracle) = result)
    (endures : EnduresAt host half path state (call, oracle)) (isOpen : state.initialized = true)
    (stays : result.1.initialized = true) : Mirrored host half result.1 path := by
  by_cases key : ∃ directory, IsKeyPath directory path
  · rcases key with ⟨directory, keyPath⟩
    cases effect.at order.wellFormed keyPath isOpen stays with
    | same unchanged =>
        exact mirrored.same unchanged (effect.directories isOpen)
          (fun _ _ => effect.slot_before isOpen stays) fun _ _ => effect.slot_after isOpen stays
    | altered isCall change isTarget isRecords complete isNext =>
        have isOk : (step host state (call, oracle)).2.rv = .ok := by
          rw [isStep, isNext]
          rfl
        have few := endures.policies _ _ _ _ isCall change.passes isOk
          ((ownerSession_eq_of_core change.core_eq).trans isTarget.token)
          ((path_eq_of_core change.core_eq).trans isTarget.samePath)
        rw [isNext] at nextOrder ⊢
        exact mirrored.altered order change isTarget isRecords complete few nextOrder
    | emptied _ noObject noFile _ =>
        constructor
        · rintro raw ⟨_, _, content, _, isContent, _⟩
          rw [noFile] at isContent
          contradiction
        · intro handle object isObject
          exact (noObject handle object isObject).elim
    | created isNew samePath guard made creation =>
        subst samePath
        exact creation.mirrored mirrored order nextOrder digests endures isNew guard made
  · exact mirrored_of_no_keyPath nextOrder.wellFormed key

/-- After an initialisation that could read the key file its path is mirrored. -/
theorem Opened.mirrored {disk : FileSystem} {slots : OrderedMap Nat Slot}
    (opened : Opened host oracle state disk slots next) (path : Path)
    (readable : oracle.readFails path = false) (halves : oracle.publicHalf = half) :
    Mirrored host half { next with initialized := true } path := by
  have discovered := discoverSlotsIn_eq_some opened.discovers
  have loaded := loadTokenObjects_eq_true opened.loads
  have sameSlots : next.slots = slots := loaded.slots_eq
  have content : next.disk.content path = disk.content path := loaded.prepared.content path
  have readsAs {handle : Nat} {raw : Object} {records : Metadata.Records}
      (isRead : Metadata.read next.disk oracle raw.path = some records)
      (samePath : raw.path = path) :
      ReadsAs next.disk path raw (Object.withMetadata { raw with handle := handle }
        ((Metadata.read next.disk oracle raw.path).getD ∅)) := by
    refine ⟨core_withMetadata _ _, records, ?_, ?_⟩
    · rw [← samePath]
      exact records_of_read isRead
    · rw [isRead, record_withMetadata]
      rfl
  subst halves
  constructor
  · rintro raw ⟨id, slot, bytes, found, isContent, member⟩
    change next.slots.get? id = some slot at found
    rw [sameSlots] at found
    change next.disk.content path = some bytes at isContent
    have isRaw := (fileObjects_raw member).1
    have listed : raw ∈ tokenObjects host oracle disk slots.values :=
      mem_tokenObjects.mpr ⟨slot, OrderedMap.mem_values_iff.mpr ⟨id, found⟩, path, bytes,
        by rw [opened_of_readable disk readable, ← content, isContent], member⟩
    rcases loaded.readable raw listed with ⟨records, isRead⟩
    rcases List.mem_iff_getElem?.mp listed with ⟨index, isIndex⟩
    refine ⟨1 + index, _, ⟨(loaded.objects _ _).mpr ⟨index, raw, isIndex, rfl, rfl⟩, ?_, ?_⟩,
      readsAs isRead isRaw.path⟩
    · exact (withMetadata_core _ _).2.2.2.2.trans isRaw.owner
    · exact (withMetadata_core _ _).2.2.2.1.trans isRaw.path
  · rintro handle object ⟨found, token, samePath⟩
    rcases (loaded.objects handle object).mp found with ⟨index, raw, isIndex, rfl, rfl⟩
    have listed := List.mem_of_getElem? isIndex
    rcases loaded.readable raw listed with ⟨records, isRead⟩
    rcases mem_tokenObjects.mp listed with ⟨slot, inSlots, other, bytes, isOpened, member⟩
    rcases OrderedMap.mem_values_iff.mp inSlots with ⟨id, slotFound⟩
    have isRaw := (fileObjects_raw member).1
    have rawPath : raw.path = path :=
      (withMetadata_core { raw with handle := 1 + index } _).2.2.2.1.symm.trans samePath
    have sameOther : other = path := isRaw.path.symm.trans rawPath
    subst sameOther
    rw [opened_of_readable disk readable] at isOpened
    refine ⟨raw, ⟨id, slot, bytes, ?_, content.trans isOpened, member⟩, readsAs isRead rawPath⟩
    change next.slots.get? id = some slot
    rw [sameSlots]
    exact slotFound

end

end HsmSimulator
