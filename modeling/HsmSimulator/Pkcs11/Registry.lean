import HsmSimulator.Pkcs11.Initialization

/-!
# The registry invariant over runs

Every effect keeps the registry well formed.  The lemmas follow the tables an effect
touches: sessions, slots, objects, and all of them at initialisation.
-/

namespace HsmSimulator

open FileSystem

namespace WellFormed

variable {state : State} (wellFormed : WellFormed state)

include wellFormed

theorem initialized_of_slot {id : Nat} {slot : Slot} (found : state.findSlot id = some slot) :
    state.initialized = true := by
  by_contra notOpen
  rw [Bool.not_eq_true] at notOpen
  have empty := (wellFormed.closed notOpen).1
  rw [State.findSlot, empty] at found
  contradiction

theorem initialized_of_session {handle : Nat} {session : Session}
    (found : state.findSession handle = some session) : state.initialized = true := by
  rcases wellFormed.sessionSlot handle session found with ⟨slot, slotFound⟩
  exact wellFormed.initialized_of_slot slotFound

theorem initialized_of_object {handle : Nat} {object : Object}
    (found : state.objects.get? handle = some object) : state.initialized = true := by
  rcases wellFormed.objectSlot handle object found with ⟨slot, slotFound⟩
  exact wellFormed.initialized_of_slot slotFound

/-! ## Files and counters -/

/-- The invariant does not speak about files. -/
theorem withDisk (disk : FileSystem) : WellFormed { state with disk := disk } :=
  { wellFormed with }

/-- Handles may be passed over. -/
theorem advance {next : Nat} (bound : state.nextObjectHandle ≤ next) :
    WellFormed { state with nextObjectHandle := next } :=
  { wellFormed with
    counters := ⟨wellFormed.counters.1.trans_le bound, wellFormed.counters.2⟩
    objectKey := fun handle object found =>
      ⟨(wellFormed.objectKey handle object found).1, (wellFormed.objectKey handle object found).2.1,
        (wellFormed.objectKey handle object found).2.2.trans_le bound⟩
    pending := fun handle session found =>
      ⟨(wellFormed.pending handle session found).1.trans_le bound, fun listed member =>
        ((wellFormed.pending handle session found).2 listed member).trans_le bound⟩ }

/-! ## Slots -/

/-- A slot record may be replaced by one of the same slot. -/
theorem putSlot {slot changed : Slot} (found : state.findSlot slot.id = some slot)
    (sameId : changed.id = slot.id) (sameDirectory : changed.directory = slot.directory) :
    WellFormed (state.putSlot slot.id changed) := by
  have kept (id : Nat) (stored : Slot) (storedFound : state.findSlot id = some stored) :
      ∃ current, (state.putSlot slot.id changed).findSlot id = some current ∧
        current.directory = stored.directory := by
    rw [findSlot_putSlot]
    by_cases same : id = slot.id
    · subst same
      rw [found] at storedFound
      cases storedFound
      exact ⟨changed, if_pos rfl, sameDirectory⟩
    · exact ⟨stored, by rw [if_neg same, storedFound], rfl⟩
  have origin (id : Nat) (current : Slot)
      (currentFound : (state.putSlot slot.id changed).findSlot id = some current) :
      ∃ stored, state.findSlot id = some stored ∧ current.id = stored.id ∧
        current.directory = stored.directory := by
    rw [findSlot_putSlot] at currentFound
    split at currentFound
    · rename_i same
      subst same
      cases currentFound
      exact ⟨slot, found, sameId, sameDirectory⟩
    · exact ⟨current, currentFound, rfl, rfl⟩
  have isOpen := wellFormed.initialized_of_slot found
  refine ⟨?_, wellFormed.counters, ?_, wellFormed.sessionKey, wellFormed.objectKey, ?_, ?_, ?_, ?_,
    ?_, wellFormed.pending⟩
  · intro closed
    change state.initialized = false at closed
    rw [isOpen] at closed
    contradiction
  · intro id current currentFound
    rcases origin id current currentFound with ⟨stored, storedFound, same, _⟩
    rw [same]
    exact wellFormed.slotKey id stored storedFound
  · intro handle session sessionFound
    rcases wellFormed.sessionSlot handle session sessionFound with ⟨stored, storedFound⟩
    rcases kept _ stored storedFound with ⟨current, currentFound, _⟩
    exact ⟨current, currentFound⟩
  · intro handle object objectFound
    rcases wellFormed.objectSlot handle object objectFound with ⟨stored, storedFound⟩
    rcases kept _ stored storedFound with ⟨current, currentFound, _⟩
    exact ⟨current, currentFound⟩
  · exact wellFormed.sessionObject
  · intro handle object objectFound token
    rcases wellFormed.tokenObject handle object objectFound token with
      ⟨lower, upper, stored, storedFound, keyPath⟩
    rcases kept _ stored storedFound with ⟨current, currentFound, sameStored⟩
    rw [← sameStored] at keyPath
    exact ⟨lower, upper, current, currentFound, keyPath⟩
  · constructor
    · intro id other first second firstFound secondFound sameDirectories
      rcases origin id first firstFound with ⟨firstStored, firstOld, _, firstSame⟩
      rcases origin other second secondFound with ⟨secondStored, secondOld, _, secondSame⟩
      rw [firstSame, secondSame] at sameDirectories
      exact wellFormed.layout.distinct _ _ _ _ firstOld secondOld sameDirectories
    · intro id other first second firstFound secondFound
      rcases origin id first firstFound with ⟨firstStored, firstOld, _, firstSame⟩
      rcases origin other second secondFound with ⟨secondStored, secondOld, _, secondSame⟩
      rw [firstSame, secondSame]
      exact wellFormed.layout.level _ _ _ _ firstOld secondOld

/-! ## Sessions -/

/-- An accessible handle was given out. -/
theorem accessible_lt {sessionHandle handle : Nat}
    (accessible : state.Accessible sessionHandle handle) : handle < state.nextObjectHandle := by
  rcases accessible with ⟨object, found, _⟩
  rcases State.findObject_eq_some_iff.mp found with ⟨_, _, stored, _⟩
  exact (wellFormed.objectKey handle object stored).2.2

theorem putSession {sessionHandle : Nat} {session changed : Session}
    (found : state.findSession sessionHandle = some session)
    (update : SessionUpdate state sessionHandle session changed) :
    WellFormed (state.putSession sessionHandle changed) := by
  have isOpen := wellFormed.initialized_of_session found
  have origin (handle : Nat) (current : Session)
      (currentFound : (state.putSession sessionHandle changed).findSession handle = some current) :
      ∃ stored, state.findSession handle = some stored ∧ current.handle = stored.handle ∧
        current.slotId = stored.slotId := by
    rw [State.findSession_putSession] at currentFound
    split at currentFound
    · rename_i same
      subst same
      cases currentFound
      exact ⟨session, found, update.handle, update.slotId⟩
    · exact ⟨current, currentFound, rfl, rfl⟩
  refine ⟨?_, wellFormed.counters, wellFormed.slotKey, ?_, wellFormed.objectKey, ?_,
    wellFormed.objectSlot, ?_, wellFormed.tokenObject, wellFormed.layout, ?_⟩
  · intro closed
    change state.initialized = false at closed
    rw [isOpen] at closed
    contradiction
  · intro handle current currentFound
    rcases origin handle current currentFound with ⟨stored, storedFound, same, _⟩
    rw [same]
    exact wellFormed.sessionKey handle stored storedFound
  · intro handle current currentFound
    rcases origin handle current currentFound with ⟨stored, storedFound, _, same⟩
    rw [same]
    exact wellFormed.sessionSlot handle stored storedFound
  · intro handle object objectFound owned
    rcases wellFormed.sessionObject handle object objectFound owned with
      ⟨noPath, owner, ownerFound, sameSlot⟩
    refine ⟨noPath, ?_⟩
    rw [State.findSession_putSession]
    by_cases same : object.ownerSession = sessionHandle
    · rw [same, found] at ownerFound
      cases ownerFound
      exact ⟨changed, if_pos same, update.slotId.trans sameSlot⟩
    · exact ⟨owner, by rw [if_neg same, ownerFound], sameSlot⟩
  · intro handle current currentFound
    rw [State.findSession_putSession] at currentFound
    split at currentFound
    · cases currentFound
      have before := wellFormed.pending sessionHandle session found
      constructor
      · rcases update.keyHandle with same | accessible
        · rw [same]
          exact before.1
        · exact wellFormed.accessible_lt accessible
      · intro listed member
        rcases update.searchMatches listed member with old | accessible
        · exact before.2 listed old
        · exact wellFormed.accessible_lt accessible
    · exact wellFormed.pending handle current currentFound

theorem opened {slotId flags : Nat} {slot : Slot} (found : state.findSlot slotId = some slot) :
    WellFormed { state with
      nextSessionHandle := state.nextSessionHandle + 1
      sessions := state.sessions.insert state.nextSessionHandle
        (.opened state.nextSessionHandle flags slotId) } := by
  have fresh := wellFormed.freshSession (Nat.le_refl state.nextSessionHandle)
  have isOpen := wellFormed.initialized_of_slot found
  have split (handle : Nat) (current : Session)
      (currentFound : (state.sessions.insert state.nextSessionHandle
        (.opened state.nextSessionHandle flags slotId)).get? handle = some current) :
      handle = state.nextSessionHandle ∧
          current = .opened state.nextSessionHandle flags slotId ∨
        state.findSession handle = some current := by
    rw [OrderedMap.get?_insert] at currentFound
    split at currentFound
    · rename_i same
      cases currentFound
      exact Or.inl ⟨same, rfl⟩
    · exact Or.inr currentFound
  refine ⟨?_, ⟨wellFormed.counters.1, Nat.succ_pos _⟩, wellFormed.slotKey, ?_,
    wellFormed.objectKey, ?_, wellFormed.objectSlot, ?_, wellFormed.tokenObject,
    wellFormed.layout, ?_⟩
  · intro closed
    change state.initialized = false at closed
    rw [isOpen] at closed
    contradiction
  · intro handle current currentFound
    rcases split handle current currentFound with ⟨rfl, rfl⟩ | old
    · exact ⟨rfl, wellFormed.counters.2, Nat.lt_succ_self _⟩
    · have key := wellFormed.sessionKey handle current old
      exact ⟨key.1, key.2.1, key.2.2.trans (Nat.lt_succ_self _)⟩
  · intro handle current currentFound
    rcases split handle current currentFound with ⟨rfl, rfl⟩ | old
    · exact ⟨slot, found⟩
    · exact wellFormed.sessionSlot handle current old
  · intro handle object objectFound owned
    rcases wellFormed.sessionObject handle object objectFound owned with
      ⟨noPath, owner, ownerFound, sameSlot⟩
    refine ⟨noPath, owner, ?_, sameSlot⟩
    have different : object.ownerSession ≠ state.nextSessionHandle := by
      intro same
      rw [same, fresh] at ownerFound
      contradiction
    exact (OrderedMap.get?_insert_of_ne _ different _).trans ownerFound
  · intro handle current currentFound
    rcases split handle current currentFound with ⟨rfl, rfl⟩ | old
    · exact ⟨wellFormed.counters.1, by simp [Session.opened]⟩
    · exact wellFormed.pending handle current old

/-- Sessions may be removed or forget what is pending, together with objects, provided the
objects that stay keep their owner. -/
theorem restrict {sessions : OrderedMap Nat Session} {objects : OrderedMap Nat Object}
    (isOpen : state.initialized = true)
    (sessionsFrom : ∀ handle session, sessions.get? handle = some session →
      ∃ stored, state.findSession handle = some stored ∧ session.handle = stored.handle ∧
        session.slotId = stored.slotId ∧
        (session.operation.keyHandle = stored.operation.keyHandle ∨
          session.operation.keyHandle = 0) ∧
        ∀ found ∈ session.searchMatches, found ∈ stored.searchMatches)
    (objectsFrom : ∀ handle object, objects.get? handle = some object →
      state.objects.get? handle = some object)
    (owners : ∀ handle object, objects.get? handle = some object → object.ownerSession ≠ 0 →
      ∀ session, state.findSession object.ownerSession = some session →
        ∃ current, sessions.get? object.ownerSession = some current ∧
          current.slotId = session.slotId) :
    WellFormed { state with sessions := sessions, objects := objects } := by
  refine ⟨?_, wellFormed.counters, wellFormed.slotKey, ?_, ?_, ?_, ?_, ?_, ?_, wellFormed.layout,
    ?_⟩
  · intro closed
    change state.initialized = false at closed
    rw [isOpen] at closed
    contradiction
  · intro handle session found
    rcases sessionsFrom handle session found with ⟨stored, storedFound, same, _⟩
    rw [same]
    exact wellFormed.sessionKey handle stored storedFound
  · exact fun handle object found =>
      wellFormed.objectKey handle object (objectsFrom handle object found)
  · intro handle session found
    rcases sessionsFrom handle session found with ⟨stored, storedFound, _, same, _⟩
    rw [same]
    exact wellFormed.sessionSlot handle stored storedFound
  · exact fun handle object found =>
      wellFormed.objectSlot handle object (objectsFrom handle object found)
  · intro handle object found owned
    rcases wellFormed.sessionObject handle object (objectsFrom handle object found) owned with
      ⟨noPath, owner, ownerFound, sameSlot⟩
    rcases owners handle object found owned owner ownerFound with ⟨current, currentFound, same⟩
    exact ⟨noPath, current, currentFound, same.trans sameSlot⟩
  · exact fun handle object found =>
      wellFormed.tokenObject handle object (objectsFrom handle object found)
  · intro handle session found
    rcases sessionsFrom handle session found with ⟨stored, storedFound, _, _, sameKey, listed⟩
    have before := wellFormed.pending handle stored storedFound
    constructor
    · rcases sameKey with same | zero
      · rw [same]
        exact before.1
      · rw [zero]
        exact wellFormed.counters.1
    · exact fun listedHandle member => before.2 listedHandle (listed listedHandle member)

end WellFormed

/-! ## Objects -/

/-- A valid entry of the object table, where handles below `next` were given out. -/
structure RegistryEntry (state : State) (next handle : Nat) (object : Object) : Prop where
  key : object.handle = handle ∧ 0 < handle ∧ handle < next
  slot : ∃ slot, state.findSlot object.slotId = some slot
  sessionObject : object.ownerSession ≠ 0 → SessionObject state object
  tokenObject : object.ownerSession = 0 → TokenObject state object

theorem WellFormed.entry {state : State} (wellFormed : WellFormed state) {next handle : Nat}
    {object : Object} (bound : state.nextObjectHandle ≤ next)
    (found : state.objects.get? handle = some object) : RegistryEntry state next handle object where
  key := ⟨(wellFormed.objectKey handle object found).1,
    (wellFormed.objectKey handle object found).2.1,
    (wellFormed.objectKey handle object found).2.2.trans_le bound⟩
  slot := wellFormed.objectSlot handle object found
  sessionObject := wellFormed.sessionObject handle object found
  tokenObject := wellFormed.tokenObject handle object found

/-- Label, id and policies do not matter for an entry. -/
theorem RegistryEntry.change {state : State} {next handle : Nat} {object changed : Object}
    (entry : RegistryEntry state next handle object) (sameCore : changed.core = object.core)
    (sameHandle : changed.handle = object.handle) : RegistryEntry state next handle changed := by
  have owner := ownerSession_eq_of_core sameCore
  have slotId := slotId_eq_of_core sameCore
  have path := path_eq_of_core sameCore
  have objectClass := objectClass_eq_of_core sameCore
  constructor
  · rw [sameHandle]
    exact entry.key
  · rw [slotId]
    exact entry.slot
  · intro owned
    rw [owner] at owned
    rw [SessionObject, path, owner, slotId]
    exact entry.sessionObject owned
  · intro token
    rw [owner] at token
    rw [TokenObject, path, slotId, objectClass]
    exact entry.tokenObject token

/-- A table of valid entries is well formed. -/
theorem WellFormed.replaceObjects {state : State} (wellFormed : WellFormed state) {next : Nat}
    {objects : OrderedMap Nat Object} (isOpen : state.initialized = true)
    (bound : state.nextObjectHandle ≤ next)
    (entries : ∀ handle object, objects.get? handle = some object →
      RegistryEntry state next handle object) :
    WellFormed { state with nextObjectHandle := next, objects := objects } := by
  have advanced := wellFormed.advance bound
  refine ⟨?_, advanced.counters, wellFormed.slotKey, wellFormed.sessionKey, ?_,
    wellFormed.sessionSlot, ?_, ?_, ?_, wellFormed.layout, advanced.pending⟩
  · intro closed
    change state.initialized = false at closed
    rw [isOpen] at closed
    contradiction
  · exact fun handle object found => (entries handle object found).key
  · exact fun handle object found => (entries handle object found).slot
  · exact fun handle object found => (entries handle object found).sessionObject
  · exact fun handle object found => (entries handle object found).tokenObject

/-- Fewer objects. -/
theorem WellFormed.filterObjects {state : State} (wellFormed : WellFormed state)
    {objects : OrderedMap Nat Object} (isOpen : state.initialized = true)
    (subset : ∀ handle object, objects.get? handle = some object →
      state.objects.get? handle = some object) :
    WellFormed { state with objects := objects } :=
  wellFormed.replaceObjects isOpen (Nat.le_refl state.nextObjectHandle) fun handle object found =>
    wellFormed.entry (Nat.le_refl _) (subset handle object found)

theorem WellFormed.changeObject {state : State} (wellFormed : WellFormed state) {handle : Nat}
    {object changed : Object} (found : state.objects.get? handle = some object)
    (sameCore : changed.core = object.core) (sameHandle : changed.handle = object.handle) :
    WellFormed { state with objects := state.objects.insert handle changed } := by
  refine wellFormed.replaceObjects (wellFormed.initialized_of_object found)
    (Nat.le_refl state.nextObjectHandle) fun other stored storedFound => ?_
  rw [OrderedMap.get?_insert] at storedFound
  split at storedFound
  · rename_i same
    subst same
    cases storedFound
    exact (wellFormed.entry (Nat.le_refl _) found).change sameCore sameHandle
  · exact wellFormed.entry (Nat.le_refl _) storedFound

/-- Lookups after registering the objects of a new key. -/
theorem get?_registerAll {objects : OrderedMap Nat Object} {news : List Object}
    (distinct : (news.map Object.handle).Nodup) (handle : Nat) (object : Object) :
    (registerAll objects news).get? handle = some object ↔
      (object ∈ news ∧ object.handle = handle) ∨
        (∀ new ∈ news, new.handle ≠ handle) ∧ objects.get? handle = some object := by
  have keys : ((news.map fun object => (object.handle, object)).map Prod.fst).Nodup := by
    simpa [List.map_map, Function.comp_def] using distinct
  have absent : handle ∉ (news.map fun object => (object.handle, object)).map Prod.fst ↔
      ∀ new ∈ news, new.handle ≠ handle := by
    simp
  rw [registerAll, OrderedMap.get?_insertAll keys, absent]
  simp [and_comm]

section

variable {host : Host} {oracle : Oracle} {state : State} {call : Call} {sessionHandle : Nat}
  {session : Session} {slot : Slot} {new : NewKey}

/-- The objects a guarded call makes are valid entries. -/
theorem NewKey.MadeBy.entry (made : new.MadeBy host oracle call sessionHandle session slot)
    (guard : CreationGuard state sessionHandle session slot new.token)
    (wellFormed : WellFormed state) {next : Nat} {object : Object} (member : object ∈ new.objects)
    (handle : state.nextObjectHandle ≤ object.handle ∧ object.handle < next) :
    RegistryEntry state next object.handle object := by
  have slotId := made.slotIds object member
  have classes := made.classes object member
  have valid := (guard.valid wellFormed).1
  constructor
  · exact ⟨rfl, wellFormed.counters.1.trans_le handle.1, handle.2⟩
  · rw [slotId]
    exact ⟨slot, guard.slotFound⟩
  · intro owned
    cases token : new.token with
    | true => exact (owned (made.tokenObjects token object member).1).elim
    | false =>
        rcases made.sessionObjects token object member with ⟨owner, noPath⟩
        refine ⟨noPath, session, ?_, slotId.symm⟩
        rw [owner]
        exact guard.sessionFound
  · intro unowned
    cases token : new.token with
    | true =>
        refine ⟨classes.1, classes.2, slot, ?_, ?_⟩
        · rw [slotId]
          exact guard.slotFound
        · rw [(made.tokenObjects token object member).2]
          exact made.keyPath (Or.inl token)
    | false =>
        have owner := (made.sessionObjects token object member).1
        rw [unowned] at owner
        exact (valid owner.symm).elim

theorem WellFormed.creation {result : State × Response} (wellFormed : WellFormed state)
    (guard : CreationGuard state sessionHandle session slot new.token)
    (made : new.MadeBy host oracle call sessionHandle session slot)
    (creation : Creation host oracle state new result) : WellFormed result.1 := by
  have isOpen := wellFormed.initialized_of_session guard.sessionFound
  have registered {next : Nat} (bound : state.nextObjectHandle ≤ next)
      (handles : ∀ object ∈ new.objects,
        state.nextObjectHandle ≤ object.handle ∧ object.handle < next) :
      WellFormed { state with
        nextObjectHandle := next
        objects := registerAll state.objects new.objects } := by
    refine wellFormed.replaceObjects isOpen bound fun handle object found => ?_
    rcases (get?_registerAll made.distinct handle object).mp found with
      ⟨member, rfl⟩ | ⟨_, old⟩
    · exact made.entry guard wellFormed member (handles object member)
    · exact wellFormed.entry bound old
  have erased {next : Nat} (bound : state.nextObjectHandle ≤ next) :
      WellFormed { state with
        nextObjectHandle := next
        objects := state.objects.eraseIf fun _ object => object.path = new.path } := by
    refine (wellFormed.advance bound).filterObjects isOpen fun handle object found => ?_
    exact (OrderedMap.get?_eraseIf_eq_some_iff.mp found).1
  have half {key : EvpKey} {object : Object} (isPair : new.key = some key)
      (handle : object.handle = state.nextObjectHandle) (owner : object.ownerSession = 0)
      (path : object.path = new.path) (objectClass : object.objectClass = ckoPrivateKey)
      (slotId : object.slotId = new.slot.id) :
      WellFormed { state with
        nextObjectHandle := state.nextObjectHandle + 1
        objects := state.objects.insert object.handle object } := by
    refine wellFormed.replaceObjects isOpen (Nat.le_succ _) fun other stored found => ?_
    rw [OrderedMap.get?_insert] at found
    split at found
    · rename_i same
      subst same
      cases found
      have positive : 0 < object.handle := handle ▸ wellFormed.counters.1
      have below : object.handle < state.nextObjectHandle + 1 := handle ▸ Nat.lt_succ_self _
      rw [made.sameSlot, (guard.valid wellFormed).2] at slotId
      refine ⟨⟨rfl, positive, below⟩, ?_, fun owned => (owned owner).elim, ?_⟩
      · rw [slotId]
        exact ⟨slot, guard.slotFound⟩
      · intro _
        rw [TokenObject, objectClass, path, slotId]
        exact ⟨by decide, by decide, slot, guard.slotFound,
          made.keyPath (Or.inr (by simp [isPair]))⟩
    · exact wellFormed.entry (Nat.le_succ _) found
  cases creation with
  | refused bound _ => exact wellFormed.advance bound
  | broken _ bound _ _ _ => exact (wellFormed.advance bound).withDisk _
  | withdrawn _ bound _ _ _ => exact (erased bound).withDisk _
  | created _ _ handles bound _ _ _ _ _ _ => exact (registered bound handles).withDisk _
  | kept _ _ handles bound => exact registered bound handles
  | half isPair _ _ handle owner path objectClass slotId _ _ =>
      exact (half isPair handle owner path objectClass slotId).withDisk _

/-- A creating call touches the object table, its counter and the files only. -/
theorem CreationCall.frame {result : State × Response}
    (ends : CreationCall host oracle state call sessionHandle result) :
    result.1 = { state with
      nextObjectHandle := result.1.nextObjectHandle
      objects := result.1.objects
      disk := result.1.disk } := by
  cases ends with
  | rejected _ _ => rfl
  | performed _ _ _ creation => cases creation <;> rfl

theorem CreationCall.advanced {result : State × Response}
    (ends : CreationCall host oracle state call sessionHandle result) :
    state.nextObjectHandle ≤ result.1.nextObjectHandle := by
  cases ends with
  | rejected advanced _ => exact advanced
  | performed _ _ _ creation =>
      cases creation with
      | refused advanced _ => exact advanced
      | broken _ advanced _ _ _ => exact advanced
      | withdrawn _ advanced _ _ _ => exact advanced
      | created _ _ _ advanced _ _ _ _ _ _ => exact advanced
      | kept _ _ _ advanced => exact advanced
      | half _ _ _ _ _ _ _ _ _ _ => exact Nat.le_succ _

/-- An object that a creating call adds has a new handle and belongs to the slot of its
session, which grants access. -/
theorem CreationCall.added {result : State × Response} (wellFormed : WellFormed state)
    (ends : CreationCall host oracle state call sessionHandle result) {handle : Nat}
    {object : Object} (found : result.1.objects.get? handle = some object) :
    state.objects.get? handle = some object ∨ state.nextObjectHandle ≤ handle ∧
      ∃ session slot, state.findSession sessionHandle = some session ∧
        state.findSlot session.slotId = some slot ∧ slot.grantsAccess = true ∧
        object.slotId = session.slotId := by
  cases ends with
  | rejected _ _ => exact Or.inl found
  | @performed session slot new _ _ guard made creation =>
      have registered (next : Nat) (handles : ∀ object ∈ new.objects,
          state.nextObjectHandle ≤ object.handle ∧ object.handle < next)
          (found : (registerAll state.objects new.objects).get? handle = some object) :
          state.objects.get? handle = some object ∨ state.nextObjectHandle ≤ handle ∧
            ∃ session slot, state.findSession sessionHandle = some session ∧
              state.findSlot session.slotId = some slot ∧ slot.grantsAccess = true ∧
              object.slotId = session.slotId := by
        rcases (get?_registerAll made.distinct handle object).mp found with
          ⟨member, rfl⟩ | ⟨_, old⟩
        · exact Or.inr ⟨(handles object member).1, session, slot, guard.sessionFound,
            guard.slotFound, guard.access, made.slotIds object member⟩
        · exact Or.inl old
      cases creation with
      | refused _ _ => exact Or.inl found
      | broken _ _ _ _ _ => exact Or.inl found
      | withdrawn _ _ _ _ _ => exact Or.inl (OrderedMap.get?_eraseIf_eq_some_iff.mp found).1
      | created _ _ handles _ _ _ _ _ _ _ => exact registered _ handles found
      | kept _ _ handles _ => exact registered _ handles found
      | half _ _ _ sameHandle _ _ _ slotId _ _ =>
          rw [made.sameSlot, (guard.valid wellFormed).2] at slotId
          rw [OrderedMap.get?_insert] at found
          split at found
          · rename_i same
            cases found
            exact Or.inr ⟨by rw [same, sameHandle], session, slot, guard.sessionFound,
              guard.slotFound, guard.access, slotId⟩
          · exact Or.inl found

theorem WellFormed.creationCall {result : State × Response} (wellFormed : WellFormed state)
    (ends : CreationCall host oracle state call sessionHandle result) : WellFormed result.1 := by
  cases ends with
  | rejected bound _ => exact wellFormed.advance bound
  | performed _ guard made creation => exact wellFormed.creation guard made creation

end

/-! ## Initialisation -/

theorem WellFormed.initialization {host : Host} {oracle : Oracle} {state : State}
    {result : State × Response} (wellFormed : WellFormed state)
    (closed : state.initialized = false)
    (initialization : Initialization host oracle state result) : WellFormed result.1 := by
  have noSession := (wellFormed.closed closed).2.2
  cases initialization with
  | @failed next created _ noSlots noObjects sessions sessionCounter objectCounter _ _ =>
      rw [noSession] at sessions
      refine ⟨fun _ => ⟨noSlots, noObjects, sessions⟩, ⟨objectCounter wellFormed.counters.1, ?_⟩,
        ?_, ?_, ?_, ?_, ?_, ?_, ?_, ?_, ?_⟩
      · change 0 < next.nextSessionHandle
        rw [sessionCounter]
        exact wellFormed.counters.2
      · simp [State.findSlot, noSlots]
      · simp [State.findSession, sessions]
      · simp [noObjects]
      · simp [State.findSession, sessions]
      · simp [noObjects]
      · simp [noObjects]
      · simp [noObjects]
      · constructor <;> simp [noSlots]
      · simp [State.findSession, sessions]
  | @succeeded disk slots next prepared discovered loaded =>
      have noSession' : next.sessions = ∅ := loaded.sessions_eq.1.trans noSession
      have sameSlots : next.slots = slots := loaded.slots_eq
      have slotKey := discovered.slotKey
      have ofFile (handle : Nat) (object : Object)
          (found : next.objects.get? handle = some object) :=
        loaded.origin slotKey found
      refine ⟨fun isClosed => absurd isClosed (by simp), ⟨?_, ?_⟩, ?_, ?_, ?_, ?_, ?_, ?_, ?_, ?_,
        ?_⟩
      · change 0 < next.nextObjectHandle
        rw [loaded.counter]
        exact Nat.lt_of_lt_of_le Nat.zero_lt_one (Nat.le_add_right _ _)
      · change 0 < next.nextSessionHandle
        rw [loaded.sessions_eq.2]
        exact wellFormed.counters.2
      · intro id slot found
        rw [State.findSlot, sameSlots] at found
        exact slotKey id slot found
      · simp [State.findSession, noSession']
      · intro handle object found
        rcases ofFile handle object found with ⟨sameHandle, positive, below, _⟩
        exact ⟨sameHandle, positive, below⟩
      · simp [State.findSession, noSession']
      · intro handle object found
        rcases ofFile handle object found with ⟨_, _, _, slot, path, content, raw, origin⟩
        refine ⟨slot, ?_⟩
        rw [origin.core.1, State.findSlot, sameSlots]
        exact origin.slotFound
      · intro handle object found owned
        rcases ofFile handle object found with ⟨_, _, _, slot, path, content, raw, origin⟩
        exact (owned origin.core.2.2.1).elim
      · intro handle object found _
        rcases ofFile handle object found with ⟨_, _, _, slot, path, content, raw, origin⟩
        rcases origin.core with ⟨slotId, samePath, _, lower, upper, keyPath⟩
        refine ⟨lower, upper, slot, ?_, ?_⟩
        · rw [slotId, State.findSlot, sameSlots]
          exact origin.slotFound
        · rw [samePath]
          exact keyPath
      · change SlotLayout next.slots
        rw [sameSlots]
        exact discovered.layout
      · simp [State.findSession, noSession']

/-! ## All effects -/

theorem WellFormed.finalized {state : State} (wellFormed : WellFormed state) :
    WellFormed { state with slots := ∅, sessions := ∅, objects := ∅, initialized := false } := by
  refine ⟨fun _ => ⟨rfl, rfl, rfl⟩, wellFormed.counters, ?_, ?_, ?_, ?_, ?_, ?_, ?_, ?_, ?_⟩
  · simp [State.findSlot]
  · simp [State.findSession]
  · simp
  · simp [State.findSession]
  · simp
  · simp
  · simp
  · constructor <;> simp
  · simp [State.findSession]

/-- Closing a session removes what it owns. -/
theorem WellFormed.dropSession {state : State} (wellFormed : WellFormed state)
    {sessionHandle : Nat} {session : Session}
    (found : state.findSession sessionHandle = some session) :
    WellFormed (state.dropSession sessionHandle) := by
  refine wellFormed.restrict (wellFormed.initialized_of_session found) ?_ ?_ ?_
  · intro handle other otherFound
    rw [OrderedMap.get?_erase] at otherFound
    split at otherFound
    · contradiction
    · exact ⟨other, otherFound, rfl, rfl, Or.inl rfl, fun _ listed => listed⟩
  · intro handle object objectFound
    exact (OrderedMap.get?_eraseIf_eq_some_iff.mp objectFound).1
  · intro handle object objectFound _ owner ownerFound
    have notOwned := (OrderedMap.get?_eraseIf_eq_some_iff.mp objectFound).2
    refine ⟨owner, ?_, rfl⟩
    rw [OrderedMap.get?_erase, if_neg (by simpa using notOwned)]
    exact ownerFound

theorem WellFormed.dropSlot {state : State} (wellFormed : WellFormed state) {slot : Slot}
    (found : state.findSlot slot.id = some slot) :
    WellFormed { state with
      sessions := state.sessions.eraseIf fun _ session => session.slotId = slot.id
      objects := state.objects.eraseIf fun _ object =>
        object.slotId = slot.id && object.ownerSession ≠ 0 } := by
  refine wellFormed.restrict (wellFormed.initialized_of_slot found) ?_ ?_ ?_
  · intro handle other otherFound
    rcases OrderedMap.get?_eraseIf_eq_some_iff.mp otherFound with ⟨stored, _⟩
    exact ⟨other, stored, rfl, rfl, Or.inl rfl, fun _ listed => listed⟩
  · intro handle object objectFound
    exact (OrderedMap.get?_eraseIf_eq_some_iff.mp objectFound).1
  · intro handle object objectFound owned owner ownerFound
    rcases OrderedMap.get?_eraseIf_eq_some_iff.mp objectFound with ⟨stored, kept⟩
    rcases wellFormed.sessionObject handle object stored owned with
      ⟨_, session, sessionFound, sameSlot⟩
    rw [ownerFound] at sessionFound
    cases sessionFound
    refine ⟨owner, OrderedMap.get?_eraseIf_eq_some_iff.mpr ⟨ownerFound, ?_⟩, rfl⟩
    simpa [owned, sameSlot] using kept

theorem WellFormed.purgeSlot {state : State} (wellFormed : WellFormed state)
    (isOpen : state.initialized = true) (slotId : Nat) : WellFormed (state.purgeSlot slotId) := by
  have lookup (handle : Nat) := OrderedMap.get?_mapValues state.sessions
    (fun session => if session.slotId = slotId then session.purged else session) handle
  refine wellFormed.restrict isOpen ?_ ?_ ?_
  · intro handle session found
    rw [lookup, Option.map_eq_some_iff] at found
    rcases found with ⟨stored, storedFound, rfl⟩
    refine ⟨stored, storedFound, ?_⟩
    split
    · exact ⟨rfl, rfl, Or.inr rfl, by simp [Session.purged]⟩
    · exact ⟨rfl, rfl, Or.inl rfl, fun _ listed => listed⟩
  · intro handle object objectFound
    exact (OrderedMap.get?_eraseIf_eq_some_iff.mp objectFound).1
  · intro handle object objectFound _ owner ownerFound
    rw [lookup, show state.sessions.get? object.ownerSession = some owner from ownerFound]
    refine ⟨_, rfl, ?_⟩
    change (if owner.slotId = slotId then owner.purged else owner).slotId = owner.slotId
    split <;> rfl

theorem WellFormed.endLogin {state : State} (wellFormed : WellFormed state) {slot : Slot}
    (found : state.findSlot slot.id = some slot) : WellFormed (state.endLogin slot) :=
  wellFormed.putSlot found rfl rfl

theorem WellFormed.withPin {state : State} (wellFormed : WellFormed state) {slot : Slot}
    (found : state.findSlot slot.id = some slot) (role : UserType) (value : Bytes) :
    WellFormed (state.putSlot slot.id (slot.withPin role value)) := by
  cases role <;> exact wellFormed.putSlot found rfl rfl

theorem WellFormed.eraseObjects {state : State} (wellFormed : WellFormed state)
    (isOpen : state.initialized = true) (drop : Nat → Object → Bool) :
    WellFormed { state with objects := state.objects.eraseIf drop } :=
  wellFormed.filterObjects isOpen fun _ _ found => (OrderedMap.get?_eraseIf_eq_some_iff.mp found).1

/-- Every effect keeps the registry well formed. -/
theorem WellFormed.effect {host : Host} {oracle : Oracle} {state : State} {call : Call}
    {result : State × Response} (wellFormed : WellFormed state)
    (effect : Effect host oracle state call result) : WellFormed result.1 := by
  have objectOf {sessionHandle handle : Nat} {object : Object}
      (found : state.findObject sessionHandle handle = some object) :
      state.objects.get? handle = some object := by
    rcases State.findObject_eq_some_iff.mp found with ⟨_, _, stored, _⟩
    exact stored
  have slotOf {id : Nat} {slot : Slot} (found : state.findSlot id = some slot) :
      state.findSlot slot.id = some slot := by
    rw [wellFormed.slotKey id slot found]
    exact found
  cases effect with
  | quiet _ _ => exact wellFormed
  | updated _ found update _ => exact wellFormed.putSession found update
  | opened found _ => exact wellFormed.opened found
  | closed found _ => exact wellFormed.dropSession found
  | closedLast found slotFound _ =>
      exact (wellFormed.dropSession found).endLogin (slotOf slotFound)
  | closedAll found => exact (wellFormed.dropSlot found).endLogin found
  | loggedIn guard _ => exact wellFormed.putSlot (slotOf guard.slotFound) rfl rfl
  | loggedOut _ slotFound _ =>
      exact (wellFormed.endLogin (slotOf slotFound)).purgeSlot
        (wellFormed.initialized_of_slot slotFound) _
  | @pinChanged _ _ session slot role pin _ _ _ slotFound _ _ =>
      exact (wellFormed.withPin (slotOf slotFound) role pin.content).withDisk _
  | pinLeft _ _ _ _ _ => exact wellFormed.withDisk _
  | sessionObjectChanged change _ =>
      exact wellFormed.changeObject (objectOf change.found) change.core_eq change.handle_eq
  | tokenObjectChanged change _ _ _ =>
      exact (wellFormed.changeObject (objectOf change.found) change.core_eq
        change.handle_eq).withDisk _
  | metadataLeft _ _ _ => exact wellFormed.withDisk _
  | sessionObjectDestroyed destruction _ =>
      refine wellFormed.filterObjects
        (wellFormed.initialized_of_object (objectOf destruction.found)) ?_
      intro other stored found
      rw [OrderedMap.get?_erase] at found
      split at found
      · contradiction
      · exact found
  | @keyFileDestroyed _ _ object disk _ destruction _ _ =>
      have isOpen := wellFormed.initialized_of_object (objectOf destruction.found)
      exact (wellFormed.eraseObjects isOpen fun _ other => other.path = object.path).withDisk disk
  | creation _ _ ends => exact wellFormed.creationCall ends
  | finalized => exact wellFormed.finalized
  | initializing closed =>
      exact wellFormed.initialization closed (cInitialize_initialization host oracle closed)

/-- Every call keeps the registry well formed. -/
theorem WellFormed.step {host : Host} {state : State} (wellFormed : WellFormed state)
    (input : Call × Oracle) : WellFormed (step host state input).1 :=
  wellFormed.effect (step_effect wellFormed input.1)

theorem wellFormed_run {host : Host} (disk : FileSystem) (inputs : List (Call × Oracle)) :
    WellFormed (Runs.final (HsmSimulator.step host) (.loaded disk) inputs) :=
  Runs.invariant_run (fun _ input wellFormed => wellFormed.step input) (wellFormed_loaded disk)
    inputs

theorem Reachable.wellFormed {host : Host} {state : State} (reachable : Reachable host state) :
    WellFormed state := by
  rcases reachable with ⟨disk, inputs, rfl⟩
  exact wellFormed_run disk inputs

end HsmSimulator
