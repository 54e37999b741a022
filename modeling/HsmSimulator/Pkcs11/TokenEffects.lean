import HsmSimulator.Pkcs11.Registry

/-!
# What one call does to the token

Most effects leave the token objects and the files alone.  The others write a PIN file,
alter a token object with its metadata file, remove a key file with its objects, create
a key, or end or begin the life of the registry.
-/

namespace HsmSimulator

open FileSystem

/-- What of a slot comes from its directory and does not change while it is open. -/
def Slot.place (slot : Slot) : Slot :=
  { slot with userPin := none, soPin := none, loggedInUser := none }

/-- The token objects, the storage root and the places of the slots are the same. -/
structure SameToken (before after : State) : Prop where
  initialized : after.initialized = before.initialized
  root : after.storageRoot = before.storageRoot
  places : ∀ id, (after.findSlot id).map Slot.place = (before.findSlot id).map Slot.place
  objects : ∀ handle object, object.ownerSession = 0 →
    (after.objects.get? handle = some object ↔ before.objects.get? handle = some object)

/-- The effects of a call on the token. -/
inductive TokenEffect (host : Host) (oracle : Oracle) (state : State) :
    Call → State × Response → Prop
  | kept {call : Call} {result : State × Response} : SameToken state result.1 →
      result.1.disk = state.disk → TokenEffect host oracle state call result
  /-- The PIN file was replaced, or the temporary file could not be removed. -/
  | pinWritten {call : Call} {slot : Slot} {role : UserType} {path : Path} {content : Bytes}
      {result : State × Response} : state.findSlot slot.id = some slot →
      (path = slot.pinPath role ∨
        path = slot.pinTemporary role ∧ oracle.removeFails path = true) →
      SameToken state result.1 → result.1.disk = state.disk.writeFile path content →
      TokenEffect host oracle state call result
  | altered {sessionHandle handle : Nat} {attributes : Template} {object changed : Object}
      {records : Metadata.Records} :
      AttributeChange state sessionHandle handle attributes object changed →
      object.ownerSession = 0 →
      records = collectMetadata oracle state.objects object.path (some changed) →
      (Metadata.encode records).complete = true →
      TokenEffect host oracle state (.setAttributeValue sessionHandle handle attributes)
        ({ state with
            disk := state.disk.writeFile (Metadata.path object.path) (Metadata.encode records).bytes
            objects := state.objects.insert handle changed },
          .plain .ok)
  /-- The temporary file of metadata could not be removed. -/
  | metadataLeft {sessionHandle handle : Nat} {attributes : Template} {object changed : Object}
      {left : Bytes} : AttributeChange state sessionHandle handle attributes object changed →
      object.ownerSession = 0 → oracle.removeFails (Metadata.temporaryPath object.path) = true →
      TokenEffect host oracle state (.setAttributeValue sessionHandle handle attributes)
        ({ state with disk := state.disk.writeFile (Metadata.temporaryPath object.path) left },
          .plain .deviceError)
  | destroyed {sessionHandle handle : Nat} {object : Object} {disk : FileSystem} {rv : Rv} :
      Destruction state sessionHandle handle object → object.ownerSession = 0 →
      (rv = .ok ∧ disk = (state.disk.removeFile object.path).removeFile
          (Metadata.path object.path) ∨
        rv ≠ .ok ∧ disk = state.disk.removeFile object.path ∧
          oracle.removeFails (Metadata.path object.path) = true) →
      TokenEffect host oracle state (.destroyObject sessionHandle handle)
        ({ state with
            disk := disk
            objects := state.objects.eraseIf fun _ other => other.path = object.path },
          .plain rv)
  | creation {call : Call} {sessionHandle : Nat} {session : Session} {slot : Slot} {new : NewKey}
      {result : State × Response} :
      call.creates = true → call.session? = some sessionHandle →
      call.newKey host oracle state = some new →
      CreationGuard state sessionHandle session slot new.token →
      new.MadeBy host oracle call sessionHandle session slot →
      Creation host oracle state new result → TokenEffect host oracle state call result
  | finalized : TokenEffect host oracle state (.cFinalize false)
      ({ state with slots := ∅, sessions := ∅, objects := ∅, initialized := false }, .plain .ok)
  | initializing {result : State × Response} : state.initialized = false →
      Initialization host oracle state result →
      TokenEffect host oracle state (.cInitialize false) result

namespace SameToken

variable {state : State}

theorem refl (state : State) : SameToken state state :=
  ⟨rfl, rfl, fun _ => rfl, fun _ _ _ => Iff.rfl⟩

theorem trans {first second third : State} (earlier : SameToken first second)
    (later : SameToken second third) : SameToken first third := by
  constructor
  · exact later.initialized.trans earlier.initialized
  · exact later.root.trans earlier.root
  · intro id
    exact (later.places id).trans (earlier.places id)
  · intro handle object token
    exact (later.objects handle object token).trans (earlier.objects handle object token)

/-- Sessions, handle counters and files do not matter. -/
theorem withSessions (sessions : OrderedMap Nat Session) (nextObjectHandle nextSessionHandle : Nat)
    (disk : FileSystem) :
    SameToken state { state with
      sessions := sessions
      nextObjectHandle := nextObjectHandle
      nextSessionHandle := nextSessionHandle
      disk := disk } :=
  ⟨rfl, rfl, fun _ => rfl, fun _ _ _ => Iff.rfl⟩

/-- Objects may be removed as long as they belong to sessions. -/
theorem eraseObjects (sessions : OrderedMap Nat Session) {drop : Nat → Object → Bool}
    (owned : ∀ handle object, object.ownerSession = 0 → drop handle object = false) :
    SameToken state { state with
      sessions := sessions
      objects := state.objects.eraseIf drop } := by
  refine ⟨rfl, rfl, fun _ => rfl, ?_⟩
  intro handle object token
  rw [OrderedMap.get?_eraseIf_eq_some_iff]
  exact and_iff_left (owned handle object token)

/-- A slot record may be replaced by one of the same place. -/
theorem putSlot {slot changed : Slot} (found : state.findSlot slot.id = some slot)
    (same : changed.place = slot.place) : SameToken state (state.putSlot slot.id changed) := by
  refine ⟨rfl, rfl, ?_, fun _ _ _ => Iff.rfl⟩
  intro id
  rw [findSlot_putSlot]
  split
  · rename_i isSlot
    subst isSlot
    rw [found]
    exact congrArg some same
  · rfl

theorem dropSession {sessionHandle : Nat} (valid : sessionHandle ≠ 0) :
    SameToken state (state.dropSession sessionHandle) := by
  apply eraseObjects
  intro handle object token
  rw [token]
  exact decide_eq_false valid.symm

theorem purgeSlot (slotId : Nat) : SameToken state (state.purgeSlot slotId) := by
  apply eraseObjects
  intro handle object token
  simp [token]

/-- An object of a session may change where it stays one of a session. -/
theorem insertObject {handle : Nat} {object changed : Object}
    (found : state.objects.get? handle = some object) (owned : object.ownerSession ≠ 0)
    (changedOwned : changed.ownerSession ≠ 0) :
    SameToken state { state with objects := state.objects.insert handle changed } := by
  refine ⟨rfl, rfl, fun _ => rfl, ?_⟩
  intro other stored token
  dsimp only
  rw [OrderedMap.get?_insert]
  split
  · rename_i same
    subst same
    constructor
    · intro isChanged
      cases isChanged
      contradiction
    · intro isObject
      rw [found] at isObject
      cases isObject
      contradiction
  · rfl

theorem eraseObject {handle : Nat} {object : Object}
    (found : state.objects.get? handle = some object) (owned : object.ownerSession ≠ 0) :
    SameToken state { state with objects := state.objects.erase handle } := by
  refine ⟨rfl, rfl, fun _ => rfl, ?_⟩
  intro other stored token
  dsimp only
  rw [OrderedMap.get?_erase]
  split
  · rename_i same
    subst same
    constructor
    · intro isNone
      contradiction
    · intro isObject
      rw [found] at isObject
      cases isObject
      contradiction
  · rfl

/-- New objects of a session leave the token alone. -/
theorem registerAll {news : List Object} {next : Nat} (wellFormed : WellFormed state)
    (distinct : (news.map Object.handle).Nodup)
    (fresh : ∀ object ∈ news, state.nextObjectHandle ≤ object.handle)
    (owned : ∀ object ∈ news, object.ownerSession ≠ 0) :
    SameToken state { state with
      nextObjectHandle := next
      objects := HsmSimulator.registerAll state.objects news } := by
  refine ⟨rfl, rfl, fun _ => rfl, ?_⟩
  intro handle object token
  dsimp only
  rw [get?_registerAll distinct]
  constructor
  · rintro (⟨isNew, _⟩ | ⟨_, old⟩)
    · exact (owned object isNew token).elim
    · exact old
  · intro old
    refine Or.inr ⟨?_, old⟩
    rintro new isNew rfl
    rw [wellFormed.freshObject (fresh new isNew)] at old
    contradiction

end SameToken

variable {host : Host} {oracle : Oracle} {state : State}

/-- A new key of a session leaves the token alone. -/
theorem NewKey.MadeBy.sameToken {call : Call} {sessionHandle next : Nat} {session : Session}
    {slot : Slot} {new : NewKey} (made : new.MadeBy host oracle call sessionHandle session slot)
    (wellFormed : WellFormed state) (found : state.findSession sessionHandle = some session)
    (notToken : new.token = false)
    (handles : ∀ object ∈ new.objects,
      state.nextObjectHandle ≤ object.handle ∧ object.handle < next) :
    SameToken state { state with
      nextObjectHandle := next
      objects := registerAll state.objects new.objects } := by
  apply SameToken.registerAll wellFormed made.distinct
  · exact fun object member => (handles object member).1
  · intro object member
    rw [(made.sessionObjects notToken object member).1]
    exact wellFormed.sessionHandle_ne_zero found

/-- Closing the last session leaves the token alone. -/
theorem endLogin_sameToken {slot : Slot} (found : state.findSlot slot.id = some slot) :
    SameToken state (state.endLogin slot) :=
  SameToken.putSlot found rfl

theorem place_withPin (slot : Slot) (role : UserType) (value : Bytes) :
    (slot.withPin role value).place = slot.place := by
  cases role <;> rfl

/-- Every effect is one on the token. -/
theorem Effect.token {call : Call} {result : State × Response} (wellFormed : WellFormed state)
    (effect : Effect host oracle state call result) :
    TokenEffect host oracle state call result := by
  have slotOf {id : Nat} {slot : Slot} (found : state.findSlot id = some slot) :
      state.findSlot slot.id = some slot := by
    rw [wellFormed.slotKey id slot found]
    exact found
  have valid {sessionHandle : Nat} {session : Session}
      (found : state.findSession sessionHandle = some session) : sessionHandle ≠ 0 :=
    wellFormed.sessionHandle_ne_zero found
  cases effect with
  | quiet _ _ => exact .kept (SameToken.refl state) rfl
  | updated _ _ _ _ => exact .kept (SameToken.withSessions _ _ _ _) rfl
  | opened _ _ => exact .kept (SameToken.withSessions _ _ _ _) rfl
  | closed found _ => exact .kept (SameToken.dropSession (valid found)) rfl
  | closedLast found slotFound _ =>
      have dropped := @SameToken.dropSession state _ (valid found)
      exact .kept (dropped.trans (endLogin_sameToken (slotOf slotFound))) rfl
  | @closedAll slot found =>
      have dropped : SameToken state { state with
          sessions := state.sessions.eraseIf fun _ session => session.slotId = slot.id
          objects := state.objects.eraseIf fun _ object =>
            object.slotId = slot.id && object.ownerSession ≠ 0 } := by
        apply SameToken.eraseObjects
        intro handle object token
        simp [token]
      exact .kept (dropped.trans (endLogin_sameToken found)) rfl
  | loggedIn guard _ => exact .kept (SameToken.putSlot (slotOf guard.slotFound) rfl) rfl
  | @loggedOut _ _ slot _ slotFound _ =>
      have ended := endLogin_sameToken (slotOf slotFound)
      exact .kept (ended.trans (SameToken.purgeSlot slot.id)) rfl
  | @pinChanged _ _ session slot role pin _ _ _ slotFound _ _ =>
      have moved := SameToken.putSlot (slotOf slotFound) (place_withPin slot role pin.content)
      have written : SameToken state { (state.putSlot slot.id (slot.withPin role pin.content)) with
          disk := state.disk.writeFile (slot.pinPath role) pin.content } :=
        moved.trans (SameToken.withSessions _ _ _ _)
      exact .pinWritten (slotOf slotFound) (Or.inl rfl) written rfl
  | pinLeft _ _ slotFound _ stuck =>
      exact .pinWritten (slotOf slotFound) (Or.inr ⟨rfl, stuck⟩) (SameToken.withSessions _ _ _ _)
        rfl
  | @sessionObjectChanged sessionHandle handle attributes object changed change owned =>
      rcases State.findObject_eq_some_iff.mp change.found with ⟨_, _, found, _⟩
      have changedOwned : changed.ownerSession ≠ 0 := by
        rw [ownerSession_eq_of_core change.core_eq]
        exact owned
      exact .kept (SameToken.insertObject found owned changedOwned) rfl
  | tokenObjectChanged change token isRecords complete =>
      exact .altered change token isRecords complete
  | metadataLeft change token stuck => exact .metadataLeft change token stuck
  | sessionObjectDestroyed destruction owned =>
      rcases State.findObject_eq_some_iff.mp destruction.found with ⟨_, _, found, _⟩
      exact .kept (SameToken.eraseObject found owned) rfl
  | keyFileDestroyed destruction token removed => exact .destroyed destruction token removed
  | creation creates onSession ends =>
      cases ends with
      | rejected _ _ => exact .kept (SameToken.withSessions _ _ _ _) rfl
      | performed isNew guard made creation =>
          exact .creation creates onSession isNew guard made creation
  | finalized => exact .finalized
  | initializing closed =>
      exact .initializing closed (cInitialize_initialization host oracle closed)

theorem step_token (wellFormed : WellFormed state) (call : Call) :
    TokenEffect host oracle state call (step host state (call, oracle)) :=
  (step_effect wellFormed call).token wellFormed

/-! ## Where the files of a slot are -/

/-- The path is an entry of one of the two key directories. -/
def IsStored (directory path : Path) : Prop :=
  ∃ kind name, (kind = asymmetricDirectory ∨ kind = symmetricDirectory) ∧
    path = Path.child (Path.child directory kind) name

theorem IsKeyPath.stored {directory path : Path} (keyPath : IsKeyPath directory path) :
    IsStored directory path := by
  rcases keyPath with ⟨kind, name, isKind, _, rfl⟩
  exact ⟨kind, name, isKind, rfl⟩

theorem IsStored.extend {directory path : Path} (stored : IsStored directory path)
    (suffix : Bytes) : IsStored directory (path.extend suffix) := by
  rcases stored with ⟨kind, name, isKind, rfl⟩
  exact ⟨kind, name ++ suffix, isKind, Path.extend_child _ _ _⟩

/-- The metadata file of a key file is stored beside it. -/
theorem IsKeyPath.metadata_stored {directory path : Path} (keyPath : IsKeyPath directory path) :
    IsStored directory (Metadata.path path) :=
  keyPath.stored.extend _

theorem IsKeyPath.temporary_stored {directory path : Path} (keyPath : IsKeyPath directory path) :
    IsStored directory (Metadata.temporaryPath path) :=
  keyPath.metadata_stored.extend _

theorem IsStored.directory_eq {directory other path : Path} (first : IsStored directory path)
    (second : IsStored other path) : directory = other := by
  rcases first with ⟨kind, name, _, rfl⟩
  rcases second with ⟨otherKind, otherName, _, same⟩
  exact (Path.child_inj.mp (Path.child_inj.mp same).1).1

theorem IsStored.length_eq {directory path : Path} (stored : IsStored directory path) :
    path.length = directory.length + 2 := by
  rcases stored with ⟨kind, name, _, rfl⟩
  simp [Path.child]

/-- The depth of a PIN file, temporary or not. -/
theorem pinPath_length (slot : Slot) (role : UserType) :
    (slot.pinPath role).length = slot.directory.length + 1 ∧
      (slot.pinTemporary role).length = slot.directory.length + 1 := by
  have direct : (slot.pinPath role).length = slot.directory.length + 1 := by
    simp [Slot.pinPath, Path.child]
  have nonempty : slot.pinPath role ≠ [] := Path.child_ne_nil _ _
  exact ⟨direct, (Path.depth_extend nonempty _).trans direct⟩

/-- PIN files are none of the files in the key directories of any slot. -/
theorem WellFormed.pin_not_stored {state : State} (wellFormed : WellFormed state) {id : Nat}
    {slot other : Slot} {role : UserType} {path : Path}
    (found : state.findSlot slot.id = some slot) (otherFound : state.findSlot id = some other)
    (isPin : path = slot.pinPath role ∨ path = slot.pinTemporary role) :
    ¬IsStored other.directory path := by
  intro stored
  have level := wellFormed.layout.level _ _ _ _ found otherFound
  have deep := stored.length_eq
  rcases isPin with rfl | rfl
  · have flat := (pinPath_length slot role).1
    omega
  · have flat := (pinPath_length slot role).2
    omega

/-- A file in the key directories belongs to one slot. -/
theorem WellFormed.stored_slot {state : State} (wellFormed : WellFormed state) {id other : Nat}
    {slot otherSlot : Slot} {path : Path} (found : state.findSlot id = some slot)
    (otherFound : state.findSlot other = some otherSlot) (stored : IsStored slot.directory path)
    (otherStored : IsStored otherSlot.directory path) : id = other :=
  wellFormed.layout.distinct _ _ _ _ found otherFound (stored.directory_eq otherStored)

end HsmSimulator
