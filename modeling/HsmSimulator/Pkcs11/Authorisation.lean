import HsmSimulator.Pkcs11.TokenEffects

/-!
# Every change of the token is authorised

A call changes token objects, key files and metadata files only through a read-write
session of their slot to which the slot grants access, and as far as the policies of the
objects allow.
-/

namespace HsmSimulator

open FileSystem

/-- The calls that may change the token. -/
def Call.changesToken : Call → Bool
  | .setAttributeValue .. => true
  | .destroyObject .. => true
  | call => call.creates

/-- The call is made on a read-write session of the slot, which needs no login or has
USER logged in. -/
structure Authorised (state : State) (call : Call) (slotId : Nat) : Prop where
  changes : call.changesToken = true
  session : ∃ sessionHandle session slot, call.session? = some sessionHandle ∧
    state.findSession sessionHandle = some session ∧ session.slotId = slotId ∧
    session.isReadWrite = true ∧ state.findSlot slotId = some slot ∧
    (slot.requiresLogin = false ∨ slot.loggedInUser = some .user)

/-- The token object of a handle. -/
def State.tokenAt (state : State) (handle : Nat) : Option Object :=
  (state.objects.get? handle).filter fun object => object.ownerSession = 0

/-- Every change between two states is authorised. -/
structure ChangesAuthorised (before after : State) (call : Call) : Prop where
  added : ∀ handle object, before.tokenAt handle = none → after.tokenAt handle = some object →
    call.creates = true ∧ Authorised before call object.slotId
  altered : ∀ handle object changed, before.tokenAt handle = some object →
    after.tokenAt handle = some changed → changed ≠ object →
    policyValue object ckaModifiable = true ∧ changed.slotId = object.slotId ∧
      Authorised before call object.slotId
  removed : ∀ handle object, before.tokenAt handle = some object → after.tokenAt handle = none →
    policyValue object ckaDestroyable = true ∧
      (∀ other sibling, before.tokenAt other = some sibling → sibling.path = object.path →
        policyValue sibling ckaDestroyable = true) ∧
      Authorised before call object.slotId
  files : ∀ id slot path, before.findSlot id = some slot → IsStored slot.directory path →
    after.disk.content path ≠ before.disk.content path → Authorised before call id

section

variable {state : State}

theorem tokenAt_eq_some_iff {handle : Nat} {object : Object} :
    state.tokenAt handle = some object ↔
      state.objects.get? handle = some object ∧ object.ownerSession = 0 := by
  rw [State.tokenAt, Option.filter_eq_some_iff, decide_eq_true_eq]

theorem Slot.grantsAccess_iff {slot : Slot} :
    slot.grantsAccess = true ↔ slot.requiresLogin = false ∨ slot.loggedInUser = some .user := by
  simp [Slot.grantsAccess]

/-- An object operation that passed its checks on a token object is authorised. -/
theorem Authorised.of_access {call : Call} {sessionHandle handle : Nat} {object : Object}
    (changes : call.changesToken = true) (onSession : call.session? = some sessionHandle)
    (found : state.findObject sessionHandle handle = some object)
    (access : state.requireUserLogin sessionHandle = .ok ())
    (writable : ∃ session, state.findSession sessionHandle = some session ∧
      (object.ownerSession ≠ 0 ∨ session.isReadWrite = true))
    (token : object.ownerSession = 0) : Authorised state call object.slotId := by
  refine ⟨changes, ?_⟩
  rcases State.findObject_eq_some_iff.mp found with ⟨session, sessionFound, _, sameSlot⟩
  rcases State.requireUserLogin_eq_ok_iff.mp access with ⟨slot, slotOfSession, grants⟩
  rcases State.sessionSlot_eq_some_iff.mp slotOfSession with ⟨other, otherFound, slotFound⟩
  rcases writable with ⟨third, thirdFound, readWrite⟩
  rw [sessionFound] at otherFound thirdFound
  cases otherFound
  cases thirdFound
  rw [← sameSlot] at slotFound
  exact ⟨sessionHandle, session, slot, onSession, sessionFound, sameSlot.symm,
    readWrite.resolve_left fun owned => owned token, slotFound, Slot.grantsAccess_iff.mp grants⟩

theorem Authorised.of_guard {call : Call} {sessionHandle : Nat} {session : Session} {slot : Slot}
    (creates : call.creates = true) (onSession : call.session? = some sessionHandle)
    (guard : CreationGuard state sessionHandle session slot true) :
    Authorised state call session.slotId := by
  constructor
  · cases call <;> first | rfl | contradiction
  · exact ⟨sessionHandle, session, slot, onSession, guard.sessionFound, rfl, guard.writable rfl,
      guard.slotFound, Slot.grantsAccess_iff.mp guard.access⟩

theorem tokenAt_congr {next : State} (same : SameToken state next) (handle : Nat) :
    next.tokenAt handle = state.tokenAt handle := by
  ext object
  rw [tokenAt_eq_some_iff, tokenAt_eq_some_iff]
  constructor
  · rintro ⟨found, token⟩
    exact ⟨(same.objects handle object token).mp found, token⟩
  · rintro ⟨found, token⟩
    exact ⟨(same.objects handle object token).mpr found, token⟩

namespace ChangesAuthorised

/-- Where the token objects stay, only the files matter. -/
theorem of_sameToken {next : State} {call : Call} (same : SameToken state next)
    (files : ∀ id slot path, state.findSlot id = some slot → IsStored slot.directory path →
      next.disk.content path ≠ state.disk.content path → Authorised state call id) :
    ChangesAuthorised state next call := by
  constructor
  · intro handle object absent found
    rw [tokenAt_congr same, absent] at found
    contradiction
  · intro handle object changed found changedFound different
    rw [tokenAt_congr same, found] at changedFound
    cases changedFound
    exact (different rfl).elim
  · intro handle object found absent
    rw [tokenAt_congr same, found] at absent
    contradiction
  · exact files

/-- A change of the listed files, all in the key directories of one slot, is authorised
where the slot is. -/
theorem files_of {call : Call} {touched : List Path} {disk : FileSystem} {slotId : Nat}
    {owner : Slot} (wellFormed : WellFormed state) (ownerFound : state.findSlot slotId = some owner)
    (agrees : AgreesOutside touched state.disk disk)
    (stored : ∀ path ∈ touched, IsStored owner.directory path)
    (authorised : Authorised state call slotId) (id : Nat) (slot : Slot) (path : Path)
    (found : state.findSlot id = some slot) (isStored : IsStored slot.directory path)
    (different : disk.content path ≠ state.disk.content path) : Authorised state call id := by
  by_cases member : path ∈ touched
  · have same := wellFormed.stored_slot found ownerFound isStored (stored path member)
    rw [same]
    exact authorised
  · exact (different (agrees.content path member)).elim

theorem altered_of {sessionHandle handle : Nat} {attributes : Template} {object changed : Object}
    {bytes : Bytes} (wellFormed : WellFormed state)
    (change : AttributeChange state sessionHandle handle attributes object changed)
    (token : object.ownerSession = 0) :
    ChangesAuthorised state
      { state with
        disk := state.disk.writeFile (Metadata.path object.path) bytes
        objects := state.objects.insert handle changed }
      (.setAttributeValue sessionHandle handle attributes) := by
  have authorised : Authorised state (.setAttributeValue sessionHandle handle attributes)
      object.slotId :=
    .of_access rfl rfl change.found change.access change.writable token
  rcases State.findObject_eq_some_iff.mp change.found with ⟨_, _, found, _⟩
  rcases wellFormed.tokenObject handle object found token with ⟨_, _, slot, slotFound, keyPath⟩
  have origin {other : Nat} {stored : Object}
      (storedFound : (state.objects.insert handle changed).get? other = some stored) :
      other = handle ∧ stored = changed ∨ state.objects.get? other = some stored := by
    rw [OrderedMap.get?_insert] at storedFound
    split at storedFound
    · rename_i same
      cases storedFound
      exact Or.inl ⟨same, rfl⟩
    · exact Or.inr storedFound
  constructor
  · intro other stored absent storedFound
    rcases tokenAt_eq_some_iff.mp storedFound with ⟨isStored, isToken⟩
    rcases origin isStored with ⟨rfl, _⟩ | old
    · rw [tokenAt_eq_some_iff.mpr ⟨found, token⟩] at absent
      contradiction
    · rw [tokenAt_eq_some_iff.mpr ⟨old, isToken⟩] at absent
      contradiction
  · intro other stored current storedFound currentFound different
    rcases origin (tokenAt_eq_some_iff.mp currentFound).1 with ⟨rfl, rfl⟩ | old
    · have same := (tokenAt_eq_some_iff.mp storedFound).1
      rw [found] at same
      cases same
      exact ⟨change.modifiable, slotId_eq_of_core change.core_eq, authorised⟩
    · rw [(tokenAt_eq_some_iff.mp storedFound).1] at old
      cases old
      exact (different rfl).elim
  · intro other stored storedFound absent
    rcases tokenAt_eq_some_iff.mp storedFound with ⟨isStored, isToken⟩
    have changedToken : changed.ownerSession = 0 :=
      (ownerSession_eq_of_core change.core_eq).trans token
    have kept : ∃ current, State.tokenAt { state with
        disk := state.disk.writeFile (Metadata.path object.path) bytes
        objects := state.objects.insert handle changed } other = some current := by
      by_cases same : other = handle
      · exact ⟨changed, tokenAt_eq_some_iff.mpr
          ⟨by rw [same, OrderedMap.get?_insert_self], changedToken⟩⟩
      · exact ⟨stored, tokenAt_eq_some_iff.mpr
          ⟨by rw [OrderedMap.get?_insert, if_neg same]; exact isStored, isToken⟩⟩
    rcases kept with ⟨current, currentFound⟩
    rw [absent] at currentFound
    contradiction
  · have agrees : AgreesOutside [Metadata.path object.path] state.disk
        (state.disk.writeFile (Metadata.path object.path) bytes) :=
      (AgreesOutside.refl _ _).writeFile (by simp) _
    apply files_of wellFormed slotFound agrees
    · intro path member
      rw [List.mem_singleton.mp member]
      exact keyPath.metadata_stored
    · exact authorised

theorem destroyed_of {sessionHandle handle : Nat} {object : Object} {disk : FileSystem}
    (wellFormed : WellFormed state) (destruction : Destruction state sessionHandle handle object)
    (token : object.ownerSession = 0)
    (agrees : AgreesOutside [object.path, Metadata.path object.path] state.disk disk) :
    ChangesAuthorised state
      { state with
        disk := disk
        objects := state.objects.eraseIf fun _ other => other.path = object.path }
      (.destroyObject sessionHandle handle) := by
  have authorised : Authorised state (.destroyObject sessionHandle handle) object.slotId :=
    .of_access rfl rfl destruction.found destruction.access destruction.writable token
  rcases State.findObject_eq_some_iff.mp destruction.found with ⟨_, _, found, _⟩
  rcases wellFormed.tokenObject handle object found token with ⟨_, _, slot, slotFound, keyPath⟩
  have origin {other : Nat} {stored : Object} (storedFound : State.tokenAt { state with
      disk := disk
      objects := state.objects.eraseIf fun _ other => other.path = object.path } other =
        some stored) : state.tokenAt other = some stored := by
    rcases tokenAt_eq_some_iff.mp storedFound with ⟨isStored, isToken⟩
    exact tokenAt_eq_some_iff.mpr ⟨(OrderedMap.get?_eraseIf_eq_some_iff.mp isStored).1, isToken⟩
  constructor
  · intro other stored absent storedFound
    rw [origin storedFound] at absent
    contradiction
  · intro other stored current storedFound currentFound different
    rw [origin currentFound] at storedFound
    cases storedFound
    exact (different rfl).elim
  · intro other stored storedFound absent
    rcases tokenAt_eq_some_iff.mp storedFound with ⟨isStored, isToken⟩
    have samePath : stored.path = object.path := by
      by_contra otherPath
      have kept : State.tokenAt { state with
          disk := disk
          objects := state.objects.eraseIf fun _ other => other.path = object.path } other =
            some stored :=
        tokenAt_eq_some_iff.mpr ⟨OrderedMap.get?_eraseIf_eq_some_iff.mpr
          ⟨isStored, decide_eq_false otherPath⟩, isToken⟩
      rw [absent] at kept
      contradiction
    refine ⟨destruction.siblings token other stored isStored samePath, ?_, ?_⟩
    · intro third sibling siblingFound siblingPath
      exact destruction.siblings token third sibling (tokenAt_eq_some_iff.mp siblingFound).1
        (siblingPath.trans samePath)
    · rw [wellFormed.slotId_eq_of_path isStored found isToken token samePath]
      exact authorised
  · apply files_of wellFormed slotFound agrees
    · intro path member
      simp only [List.mem_cons, List.not_mem_nil, or_false] at member
      rcases member with rfl | rfl
      · exact keyPath.stored
      · exact keyPath.metadata_stored
    · exact authorised

theorem created_of {host : Host} {oracle : Oracle} {call : Call} {sessionHandle : Nat}
    {session : Session} {slot : Slot} {new : NewKey} {next : Nat} {disk : FileSystem}
    (wellFormed : WellFormed state) (creates : call.creates = true)
    (onSession : call.session? = some sessionHandle)
    (guard : CreationGuard state sessionHandle session slot new.token)
    (made : new.MadeBy host oracle call sessionHandle session slot) (token : new.token = true)
    (handles : ∀ object ∈ new.objects, state.nextObjectHandle ≤ object.handle)
    (agrees : AgreesOutside [new.path, Metadata.path new.path] state.disk disk) :
    ChangesAuthorised state
      { state with
        nextObjectHandle := next
        objects := registerAll state.objects new.objects
        disk := disk } call := by
  have authorised : Authorised state call session.slotId := by
    rw [token] at guard
    exact .of_guard creates onSession guard
  have keyPath := made.keyPath (Or.inl token)
  have old {handle : Nat} {object : Object} (found : state.objects.get? handle = some object) :
      (registerAll state.objects new.objects).get? handle = some object := by
    refine (get?_registerAll made.distinct handle object).mpr (Or.inr ⟨?_, found⟩)
    rintro added member rfl
    rw [wellFormed.freshObject (handles added member)] at found
    contradiction
  constructor
  · intro handle object absent found
    rcases tokenAt_eq_some_iff.mp found with ⟨isStored, isToken⟩
    rcases (get?_registerAll made.distinct handle object).mp isStored with ⟨member, _⟩ | ⟨_, before⟩
    · rw [made.slotIds object member]
      exact ⟨creates, authorised⟩
    · rw [tokenAt_eq_some_iff.mpr ⟨before, isToken⟩] at absent
      contradiction
  · intro handle object changed found changedFound different
    have kept := old (tokenAt_eq_some_iff.mp found).1
    rw [(tokenAt_eq_some_iff.mp changedFound).1] at kept
    cases kept
    exact (different rfl).elim
  · intro handle object found absent
    rcases tokenAt_eq_some_iff.mp found with ⟨isStored, isToken⟩
    have kept : State.tokenAt { state with
        nextObjectHandle := next
        objects := registerAll state.objects new.objects
        disk := disk } handle = some object :=
      tokenAt_eq_some_iff.mpr ⟨old isStored, isToken⟩
    rw [absent] at kept
    contradiction
  · apply files_of wellFormed guard.slotFound agrees
    · intro path member
      simp only [List.mem_cons, List.not_mem_nil, or_false] at member
      rcases member with rfl | rfl
      · exact keyPath.stored
      · exact keyPath.metadata_stored
    · exact authorised

/-- Every effect on the token of an open module is authorised, apart from a finalisation
and from creations that fail. -/
theorem of_effect {host : Host} {oracle : Oracle} {call : Call} {result : State × Response}
    (wellFormed : WellFormed state) (isOpen : state.initialized = true)
    (effect : TokenEffect host oracle state call result)
    (notFinalize : ∀ hasReserved, call ≠ .cFinalize hasReserved)
    (settled : call.creates = true → result.2.rv = .ok) :
    ChangesAuthorised state result.1 call := by
  cases effect with
  | kept same sameDisk =>
      apply of_sameToken same
      intro id slot path _ _ different
      rw [sameDisk] at different
      exact (different rfl).elim
  | @pinWritten _ slot role path content _ found isPin same written =>
      apply of_sameToken same
      intro id other stored otherFound isStored different
      rw [written, content_writeFile] at different
      split at different
      · rename_i isPath
        subst isPath
        have pin : stored = slot.pinPath role ∨ stored = slot.pinTemporary role :=
          isPin.imp_right And.left
        exact (wellFormed.pin_not_stored found otherFound pin isStored).elim
      · exact (different rfl).elim
  | altered change token _ _ => exact altered_of wellFormed change token
  | @metadataLeft sessionHandle handle attributes object _ left change token _ =>
      apply of_sameToken (SameToken.withSessions _ _ _ _)
      rcases State.findObject_eq_some_iff.mp change.found with ⟨_, _, found, _⟩
      rcases wellFormed.tokenObject handle object found token with ⟨_, _, slot, slotFound, keyPath⟩
      have agrees : AgreesOutside [Metadata.temporaryPath object.path] state.disk
          (state.disk.writeFile (Metadata.temporaryPath object.path) left) :=
        (AgreesOutside.refl _ _).writeFile (by simp) _
      apply files_of wellFormed slotFound agrees
      · intro path member
        rw [List.mem_singleton.mp member]
        exact keyPath.temporary_stored
      · exact .of_access rfl rfl change.found change.access change.writable token
  | @destroyed _ _ object disk _ destruction token removed =>
      exact destroyed_of wellFormed destruction token
        (keyFileRemoval_agrees removed (by simp) (by simp))
  | creation creates onSession isNew guard made creation =>
      have succeeded := settled creates
      cases creation with
      | refused _ failed => exact (failed succeeded).elim
      | broken _ _ failed _ _ => exact (failed succeeded).elim
      | withdrawn _ _ _ _ _ => contradiction
      | half _ _ _ _ _ _ _ _ _ _ => contradiction
      | created token _ handles _ _ _ _ _ _ _ =>
          apply created_of wellFormed creates onSession guard made token
            (fun object member => (handles object member).1)
          exact ((AgreesOutside.refl _ _).writeFile (by simp) _).writeFile (by simp) _
      | @kept next token _ handles _ =>
          apply of_sameToken
          · apply SameToken.registerAll wellFormed made.distinct
              (fun object member => (handles object member).1)
            intro object member
            rw [(made.sessionObjects token object member).1]
            exact wellFormed.sessionHandle_ne_zero guard.sessionFound
          · intro id slot path _ _ different
            exact (different rfl).elim
  | finalized => exact (notFinalize false rfl).elim
  | initializing closed _ =>
      rw [isOpen] at closed
      contradiction

end ChangesAuthorised

end

/-- On an open module, every call but a finalisation and a failed creation changes the
token only where it is authorised to. -/
theorem changes_authorised (host : Host) (state : State) (call : Call) (oracle : Oracle)
    (reachable : Reachable host state) (isOpen : state.initialized = true)
    (notFinalize : ∀ hasReserved, call ≠ .cFinalize hasReserved)
    (settled : call.creates = true → (step host state (call, oracle)).2.rv = .ok) :
    ChangesAuthorised state (step host state (call, oracle)).1 call :=
  .of_effect reachable.wellFormed isOpen (step_token reachable.wellFormed call) notFinalize settled

theorem changes_authorised_aesKey :
    ChangesAuthorised plainSession (step .plain plainSession (aesKey 1, .plain)).1 (aesKey 1) :=
  changes_authorised .plain plainSession (aesKey 1) .plain ⟨_, _, rfl⟩ (by decide)
    (by simp [aesKey]) (by decide)

end HsmSimulator
