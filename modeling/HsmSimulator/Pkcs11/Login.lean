import HsmSimulator.Pkcs11.Registry

/-!
# Login and what it protects

The login belongs to the slot, operations and searches to the sessions.  A logout, and
the end of the last session, leave nothing behind through which a protected object
could still be used; while nobody is logged in as USER, nothing of the kind can come
about, because everything that becomes pending was accessible.
-/

namespace HsmSimulator

/-- A handle a session has pending: the key of its operation or a match of its search. -/
def Session.HasPending (session : Session) (handle : Nat) : Prop :=
  handle = session.operation.keyHandle ∨ handle ∈ session.searchMatches

/-- Nothing of the slot leads to a protected object: no session object is one, and no
session has one pending. -/
structure ClearOfProtected (state : State) (id : Nat) : Prop where
  objects : ∀ handle object, state.objects.get? handle = some object → object.slotId = id →
    object.ownerSession ≠ 0 → isProtectedObject object = false
  pending : ∀ sessionHandle session handle object,
    state.findSession sessionHandle = some session → session.slotId = id →
    session.HasPending handle → state.objects.get? handle = some object → object.slotId = id →
    isProtectedObject object = false

/-- What is clear stays so where protected objects and what is pending only become
fewer. -/
theorem ClearOfProtected.of_fewer {before after : State} {id : Nat}
    (clear : ClearOfProtected before id)
    (objects : ∀ handle object, after.objects.get? handle = some object → object.slotId = id →
      isProtectedObject object = true → before.objects.get? handle = some object)
    (pending : ∀ sessionHandle session, after.findSession sessionHandle = some session →
      session.slotId = id → ∀ handle object, session.HasPending handle →
      before.objects.get? handle = some object → object.slotId = id →
      isProtectedObject object = true →
      ∃ stored, before.findSession sessionHandle = some stored ∧ stored.slotId = id ∧
        stored.HasPending handle) :
    ClearOfProtected after id := by
  constructor
  · intro handle object found sameSlot owned
    by_contra guarded
    rw [Bool.not_eq_false] at guarded
    have before' := clear.objects handle object (objects handle object found sameSlot guarded)
      sameSlot owned
    rw [guarded] at before'
    contradiction
  · intro sessionHandle session handle object sessionFound sessionSlot isPending found sameSlot
    by_contra guarded
    rw [Bool.not_eq_false] at guarded
    have old := objects handle object found sameSlot guarded
    rcases pending sessionHandle session sessionFound sessionSlot handle object isPending old
      sameSlot guarded with ⟨stored, storedFound, storedSlot, wasPending⟩
    have before' := clear.pending sessionHandle stored handle object storedFound storedSlot
      wasPending old sameSlot
    rw [guarded] at before'
    contradiction

/-- The login invariant, for the slots that required login when they were loaded. -/
structure LoginState (required : Nat → Bool) (state : State) : Prop where
  officer : ∀ id slot, state.findSlot id = some slot → slot.loggedInUser = some .so →
    ∀ handle session, state.findSession handle = some session → session.slotId = id →
      session.isReadWrite = true
  present : ∀ id slot, state.findSlot id = some slot → slot.loggedInUser ≠ none →
    ∃ handle session, state.findSession handle = some session ∧ session.slotId = id
  stillRequired : ∀ id slot, state.findSlot id = some slot → required id = true →
    slot.requiresLogin = true
  clear : ∀ id slot, state.findSlot id = some slot → required id = true →
    slot.loggedInUser ≠ some .user → ClearOfProtected state id

/-- A slot that requires login and where USER is not logged in grants no access. -/
theorem grantsAccess_eq_false {slot : Slot} (requires : slot.requiresLogin = true)
    (notUser : slot.loggedInUser ≠ some .user) : slot.grantsAccess = false := by
  simp [Slot.grantsAccess, requires, notUser]

namespace LoginState

variable {required : Nat → Bool} {state : State}

/-- Without access, what is accessible is not protected. -/
theorem accessible_unprotected (login : LoginState required state) {id handle sessionHandle : Nat}
    {slot : Slot} {session : Session} {object : Object}
    (slotFound : state.findSlot id = some slot) (isRequired : required id = true)
    (notUser : slot.loggedInUser ≠ some .user)
    (sessionFound : state.findSession sessionHandle = some session)
    (sessionSlot : session.slotId = id)
    (accessible : state.Accessible sessionHandle handle)
    (found : state.objects.get? handle = some object) : isProtectedObject object = false := by
  rcases accessible with ⟨stored, storedFound, access⟩
  rcases State.findObject_eq_some_iff.mp storedFound with ⟨_, _, inTable, _⟩
  rw [found] at inTable
  cases inTable
  by_contra guarded
  rw [Bool.not_eq_false] at guarded
  rcases State.objectAccessStatus_eq_ok_iff.mp access guarded with ⟨granting, slotOf, grants⟩
  rcases State.sessionSlot_eq_some_iff.mp slotOf with ⟨other, otherFound, grantingFound⟩
  rw [sessionFound] at otherFound
  cases otherFound
  rw [sessionSlot, slotFound] at grantingFound
  cases grantingFound
  rw [grantsAccess_eq_false (login.stillRequired id slot slotFound isRequired) notUser] at grants
  contradiction

/-- A slot that grants access is not one that must be clear. -/
theorem grantsAccess_absurd (login : LoginState required state) {id : Nat} {slot : Slot}
    (slotFound : state.findSlot id = some slot) (isRequired : required id = true)
    (notUser : slot.loggedInUser ≠ some .user) (grants : slot.grantsAccess = true) : False := by
  rw [grantsAccess_eq_false (login.stillRequired id slot slotFound isRequired) notUser] at grants
  contradiction

theorem putSession (login : LoginState required state) {sessionHandle : Nat}
    {session changed : Session} (found : state.findSession sessionHandle = some session)
    (update : SessionUpdate state sessionHandle session changed) :
    LoginState required (state.putSession sessionHandle changed) := by
  have sameFlags : changed.isReadWrite = session.isReadWrite := by
    rw [Session.isReadWrite, update.flags, Session.isReadWrite]
  refine ⟨?_, ?_, login.stillRequired, ?_⟩
  · intro id slot slotFound officer handle other otherFound otherSlot
    rw [State.findSession_putSession] at otherFound
    split at otherFound
    · cases otherFound
      rw [sameFlags]
      rw [update.slotId] at otherSlot
      exact login.officer id slot slotFound officer sessionHandle session found otherSlot
    · exact login.officer id slot slotFound officer handle other otherFound otherSlot
  · intro id slot slotFound somebody
    rcases login.present id slot slotFound somebody with ⟨handle, other, otherFound, otherSlot⟩
    by_cases same : handle = sessionHandle
    · subst same
      rw [found] at otherFound
      cases otherFound
      exact ⟨handle, changed, by simp, update.slotId.trans otherSlot⟩
    · exact ⟨handle, other, by simp [same, otherFound], otherSlot⟩
  · intro id slot slotFound isRequired notUser
    have clear := login.clear id slot slotFound isRequired notUser
    refine clear.of_fewer (fun _ _ objectFound _ _ => objectFound) ?_
    intro handle other otherFound otherSlot pendingHandle object isPending objectFound _ guarded
    rw [State.findSession_putSession] at otherFound
    split at otherFound
    · rename_i same
      subst same
      cases otherFound
      rw [update.slotId] at otherSlot
      refine ⟨session, found, otherSlot, ?_⟩
      have notAccessible : ¬state.Accessible handle pendingHandle := by
        intro accessible
        rw [login.accessible_unprotected slotFound isRequired notUser found otherSlot accessible
          objectFound] at guarded
        contradiction
      rcases isPending with isKey | listed
      · rcases update.keyHandle with same | accessible
        · exact Or.inl (isKey.trans same)
        · rw [isKey] at notAccessible
          exact (notAccessible accessible).elim
      · rcases update.searchMatches pendingHandle listed with old | accessible
        · exact Or.inr old
        · exact (notAccessible accessible).elim
    · exact ⟨other, otherFound, otherSlot, isPending⟩

/-- Files do not matter. -/
theorem withDisk (login : LoginState required state) (disk : FileSystem) :
    LoginState required { state with disk := disk } :=
  ⟨login.officer, login.present, login.stillRequired, fun id slot found isRequired notUser =>
    ⟨(login.clear id slot found isRequired notUser).objects,
      (login.clear id slot found isRequired notUser).pending⟩⟩

/-- Objects may be added to, or changed in, slots that grant access, and removed
anywhere. -/
theorem withObjects (login : LoginState required state) {objects : OrderedMap Nat Object}
    {next : Nat}
    (changes : ∀ handle object, objects.get? handle = some object →
      state.objects.get? handle = some object ∨
        ∃ slot, state.findSlot object.slotId = some slot ∧ slot.grantsAccess = true) :
    LoginState required { state with nextObjectHandle := next, objects := objects } := by
  refine ⟨login.officer, login.present, login.stillRequired, ?_⟩
  intro id slot slotFound isRequired notUser
  refine (login.clear id slot slotFound isRequired notUser).of_fewer ?_ ?_
  · intro handle object found sameSlot _
    rcases changes handle object found with old | ⟨granting, grantingFound, grants⟩
    · exact old
    · rw [sameSlot] at grantingFound
      rw [show state.findSlot id = some slot from slotFound] at grantingFound
      cases grantingFound
      exact (login.grantsAccess_absurd slotFound isRequired notUser grants).elim
  · exact fun handle session found sameSlot _ _ isPending _ _ _ =>
      ⟨session, found, sameSlot, isPending⟩

theorem opened (login : LoginState required state) (wellFormed : WellFormed state)
    {slotId flags : Nat} {slot : Slot} (found : state.findSlot slotId = some slot)
    (allowed : flags &&& ckfRwSession ≠ 0 ∨ slot.loggedInUser ≠ some .so) :
    LoginState required { state with
      nextSessionHandle := state.nextSessionHandle + 1
      sessions := state.sessions.insert state.nextSessionHandle
        (.opened state.nextSessionHandle flags slotId) } := by
  have split (handle : Nat) (session : Session)
      (sessionFound : (state.sessions.insert state.nextSessionHandle
        (.opened state.nextSessionHandle flags slotId)).get? handle = some session) :
      session = .opened state.nextSessionHandle flags slotId ∨
        state.findSession handle = some session := by
    rw [OrderedMap.get?_insert] at sessionFound
    split at sessionFound
    · cases sessionFound
      exact Or.inl rfl
    · exact Or.inr sessionFound
  refine ⟨?_, ?_, login.stillRequired, ?_⟩
  · intro id stored storedFound officer handle session sessionFound sessionSlot
    rcases split handle session sessionFound with rfl | old
    · change slotId = id at sessionSlot
      subst sessionSlot
      rw [show state.findSlot slotId = some stored from storedFound] at found
      cases found
      rcases allowed with readWrite | notOfficer
      · simpa [Session.isReadWrite, Session.opened] using readWrite
      · exact (notOfficer officer).elim
    · exact login.officer id stored storedFound officer handle session old sessionSlot
  · intro id stored storedFound somebody
    rcases login.present id stored storedFound somebody with ⟨handle, session, old, sessionSlot⟩
    have different : handle ≠ state.nextSessionHandle := by
      have below := (wellFormed.sessionKey handle session old).2.2
      omega
    exact ⟨handle, session, (OrderedMap.get?_insert_of_ne _ different _).trans old, sessionSlot⟩
  · intro id stored storedFound isRequired notUser
    refine (login.clear id stored storedFound isRequired notUser).of_fewer
      (fun _ _ objectFound _ _ => objectFound) ?_
    intro handle session sessionFound sessionSlot pendingHandle object isPending objectFound _ _
    rcases split handle session sessionFound with rfl | old
    · have zero : pendingHandle = 0 := by
        simpa [Session.HasPending, Session.opened, Operation.initial] using isPending
      have positive := (wellFormed.objectKey pendingHandle object objectFound).2.1
      omega
    · exact ⟨session, old, sessionSlot, isPending⟩

/-- Sessions and objects of one slot may go, as long as the login goes with the last
session. -/
theorem dropped (login : LoginState required state) {sessions : OrderedMap Nat Session}
    {objects : OrderedMap Nat Object}
    (sessionsFrom : ∀ handle session, sessions.get? handle = some session →
      state.findSession handle = some session)
    (objectsFrom : ∀ handle object, objects.get? handle = some object →
      state.objects.get? handle = some object)
    (present : ∀ id slot, state.findSlot id = some slot → slot.loggedInUser ≠ none →
      ∃ handle session, sessions.get? handle = some session ∧ session.slotId = id) :
    LoginState required { state with sessions := sessions, objects := objects } := by
  refine ⟨?_, present, login.stillRequired, ?_⟩
  · exact fun id slot slotFound officer handle session found =>
      login.officer id slot slotFound officer handle session (sessionsFrom handle session found)
  · intro id slot slotFound isRequired notUser
    refine (login.clear id slot slotFound isRequired notUser).of_fewer
      (fun handle object found _ _ => objectsFrom handle object found) ?_
    exact fun handle session found sameSlot _ _ isPending _ _ _ =>
      ⟨session, sessionsFrom handle session found, sameSlot, isPending⟩

/-- A slot that lost all its sessions, with what they owned, and its login. -/
theorem closedSlot (login : LoginState required state) {slot : Slot}
    (slotFound : state.findSlot slot.id = some slot) {sessions : OrderedMap Nat Session}
    {objects : OrderedMap Nat Object}
    (sessionsFrom : ∀ handle session, sessions.get? handle = some session →
      state.findSession handle = some session ∧ session.slotId ≠ slot.id)
    (objectsFrom : ∀ handle object, objects.get? handle = some object →
      state.objects.get? handle = some object ∧
        (object.slotId = slot.id → object.ownerSession = 0))
    (others : ∀ handle session, state.findSession handle = some session →
      session.slotId ≠ slot.id → sessions.get? handle = some session) :
    LoginState required
      (({ state with sessions := sessions, objects := objects } : State).endLogin slot) := by
  have lookup (id : Nat) (stored : Slot)
      (storedFound : (({ state with sessions := sessions, objects := objects } : State).endLogin
        slot).findSlot id = some stored) :
      id = slot.id ∧ stored = slot.loggedOut ∨ id ≠ slot.id ∧ state.findSlot id = some stored := by
    rw [State.endLogin, findSlot_putSlot] at storedFound
    split at storedFound
    · rename_i same
      cases storedFound
      exact Or.inl ⟨same, rfl⟩
    · rename_i different
      exact Or.inr ⟨different, storedFound⟩
  refine ⟨?_, ?_, ?_, ?_⟩
  · intro id stored storedFound officer handle session found sameSlot
    rcases lookup id stored storedFound with ⟨_, rfl⟩ | ⟨_, old⟩
    · contradiction
    · exact login.officer id stored old officer handle session (sessionsFrom handle session found).1
        sameSlot
  · intro id stored storedFound somebody
    rcases lookup id stored storedFound with ⟨_, rfl⟩ | ⟨different, old⟩
    · exact (somebody rfl).elim
    · rcases login.present id stored old somebody with ⟨handle, session, found, rfl⟩
      exact ⟨handle, session, others handle session found different, rfl⟩
  · intro id stored storedFound isRequired
    rcases lookup id stored storedFound with ⟨rfl, rfl⟩ | ⟨_, old⟩
    · exact login.stillRequired slot.id slot slotFound isRequired
    · exact login.stillRequired id stored old isRequired
  · intro id stored storedFound isRequired notUser
    rcases lookup id stored storedFound with ⟨rfl, rfl⟩ | ⟨_, old⟩
    · constructor
      · intro handle object found sameSlot owned
        exact (owned ((objectsFrom handle object found).2 sameSlot)).elim
      · intro handle session _ _ found sameSlot
        exact ((sessionsFrom handle session found).2 sameSlot).elim
    · refine (login.clear id stored old isRequired notUser).of_fewer
        (fun handle object found _ _ => (objectsFrom handle object found).1) ?_
      exact fun handle session found sameSlot _ _ isPending _ _ _ =>
        ⟨session, (sessionsFrom handle session found).1, sameSlot, isPending⟩

theorem hasSession_eq_true_iff {id : Nat} : state.hasSession id = true ↔
    ∃ handle session, state.findSession handle = some session ∧ session.slotId = id := by
  simp only [State.hasSession, List.any_eq_true, OrderedMap.mem_values_iff, decide_eq_true_eq]
  constructor
  · rintro ⟨session, ⟨handle, found⟩, same⟩
    exact ⟨handle, session, found, same⟩
  · rintro ⟨handle, session, found, same⟩
    exact ⟨session, ⟨handle, found⟩, same⟩

theorem findSession_dropSession {sessionHandle handle : Nat} {session : Session} :
    (state.dropSession sessionHandle).findSession handle = some session ↔
      handle ≠ sessionHandle ∧ state.findSession handle = some session := by
  change (state.sessions.erase sessionHandle).get? handle = some session ↔ _
  rw [OrderedMap.get?_erase]
  split
  · rename_i same
    simp [same]
  · rename_i different
    simp [different, State.findSession]

theorem closed (login : LoginState required state) {sessionHandle : Nat} {session : Session}
    (found : state.findSession sessionHandle = some session)
    (remains : (state.dropSession sessionHandle).hasSession session.slotId = true) :
    LoginState required (state.dropSession sessionHandle) := by
  refine login.dropped ?_ ?_ ?_
  · exact fun handle other otherFound => (findSession_dropSession.mp otherFound).2
  · exact fun handle object objectFound =>
      (OrderedMap.get?_eraseIf_eq_some_iff.mp objectFound).1
  · intro id slot slotFound somebody
    by_cases same : session.slotId = id
    · rw [same] at remains
      exact hasSession_eq_true_iff.mp remains
    · rcases login.present id slot slotFound somebody with ⟨handle, other, otherFound, rfl⟩
      refine ⟨handle, other, findSession_dropSession.mpr ⟨?_, otherFound⟩, rfl⟩
      rintro rfl
      rw [found] at otherFound
      cases otherFound
      exact same rfl

theorem closedLast (login : LoginState required state) (wellFormed : WellFormed state)
    {sessionHandle : Nat} {session : Session} {slot : Slot}
    (found : state.findSession sessionHandle = some session)
    (slotFound : state.findSlot session.slotId = some slot)
    (last : (state.dropSession sessionHandle).hasSession slot.id = false) :
    LoginState required ((state.dropSession sessionHandle).endLogin slot) := by
  have slotKey := wellFormed.slotKey _ _ slotFound
  have gone (handle : Nat) (other : Session)
      (otherFound : (state.dropSession sessionHandle).findSession handle = some other) :
      other.slotId ≠ slot.id := by
    intro same
    rw [hasSession_eq_true_iff.mpr ⟨handle, other, otherFound, same⟩] at last
    contradiction
  refine login.closedSlot (slotKey ▸ slotFound) ?_ ?_ ?_
  · exact fun handle other otherFound =>
      ⟨(findSession_dropSession.mp otherFound).2, gone handle other otherFound⟩
  · intro handle object objectFound
    rcases OrderedMap.get?_eraseIf_eq_some_iff.mp objectFound with ⟨stored, notOwned⟩
    refine ⟨stored, fun sameSlot => ?_⟩
    by_contra owned
    rcases wellFormed.sessionObject handle object stored owned with
      ⟨_, owner, ownerFound, ownerSlot⟩
    refine gone object.ownerSession owner (findSession_dropSession.mpr ⟨?_, ownerFound⟩)
      (ownerSlot.trans sameSlot)
    simpa using notOwned
  · intro handle other otherFound different
    refine findSession_dropSession.mpr ⟨?_, otherFound⟩
    rintro rfl
    rw [found] at otherFound
    cases otherFound
    exact different slotKey.symm

theorem closedAll (login : LoginState required state) {slot : Slot}
    (found : state.findSlot slot.id = some slot) :
    LoginState required (({ state with
      sessions := state.sessions.eraseIf fun _ session => session.slotId = slot.id
      objects := state.objects.eraseIf fun _ object =>
        object.slotId = slot.id && object.ownerSession ≠ 0 } : State).endLogin slot) := by
  refine login.closedSlot found ?_ ?_ ?_
  · intro handle session sessionFound
    rcases OrderedMap.get?_eraseIf_eq_some_iff.mp sessionFound with ⟨stored, other⟩
    exact ⟨stored, by simpa using other⟩
  · intro handle object objectFound
    rcases OrderedMap.get?_eraseIf_eq_some_iff.mp objectFound with ⟨stored, kept⟩
    refine ⟨stored, fun sameSlot => ?_⟩
    simpa [sameSlot] using kept
  · intro handle session sessionFound different
    exact OrderedMap.get?_eraseIf_eq_some_iff.mpr ⟨sessionFound, by simpa using different⟩

/-- A slot record changes, and with it who is logged in. -/
theorem putSlot (login : LoginState required state) {slot changed : Slot}
    (slotFound : state.findSlot slot.id = some slot)
    (requires : slot.requiresLogin = true → changed.requiresLogin = true)
    (officer : changed.loggedInUser = some .so → ∀ handle session,
      state.findSession handle = some session → session.slotId = slot.id →
        session.isReadWrite = true)
    (present : changed.loggedInUser ≠ none →
      ∃ handle session, state.findSession handle = some session ∧ session.slotId = slot.id)
    (clear : required slot.id = true → changed.loggedInUser ≠ some .user →
      ClearOfProtected state slot.id) :
    LoginState required (state.putSlot slot.id changed) := by
  have lookup (id : Nat) (stored : Slot)
      (storedFound : (state.putSlot slot.id changed).findSlot id = some stored) :
      id = slot.id ∧ stored = changed ∨ state.findSlot id = some stored := by
    rw [findSlot_putSlot] at storedFound
    split at storedFound
    · rename_i same
      cases storedFound
      exact Or.inl ⟨same, rfl⟩
    · exact Or.inr storedFound
  refine ⟨?_, ?_, ?_, ?_⟩
  · intro id stored storedFound isOfficer
    rcases lookup id stored storedFound with ⟨rfl, rfl⟩ | old
    · exact officer isOfficer
    · exact login.officer id stored old isOfficer
  · intro id stored storedFound somebody
    rcases lookup id stored storedFound with ⟨rfl, rfl⟩ | old
    · exact present somebody
    · exact login.present id stored old somebody
  · intro id stored storedFound isRequired
    rcases lookup id stored storedFound with ⟨rfl, rfl⟩ | old
    · exact requires (login.stillRequired slot.id slot slotFound isRequired)
    · exact login.stillRequired id stored old isRequired
  · intro id stored storedFound isRequired notUser
    rcases lookup id stored storedFound with ⟨rfl, rfl⟩ | old
    · exact ⟨(clear isRequired notUser).objects, (clear isRequired notUser).pending⟩
    · have before := login.clear id stored old isRequired notUser
      exact ⟨before.objects, before.pending⟩

theorem loggedIn (login : LoginState required state) (wellFormed : WellFormed state)
    {sessionHandle : Nat} {session : Session} {slot : Slot} {role : UserType} {pin : Buffer}
    (guard : LoginGuard state sessionHandle session slot role pin) :
    LoginState required (state.putSlot slot.id { slot with loggedInUser := some role }) := by
  have slotKey := wellFormed.slotKey _ _ guard.slotFound
  have slotFound : state.findSlot slot.id = some slot := slotKey ▸ guard.slotFound
  refine login.putSlot slotFound id ?_ ?_ ?_
  · intro isOfficer handle other otherFound otherSlot
    have noReader := (guard.readWrite (Option.some.inj isOfficer)).2
    by_contra readOnly
    rw [State.hasReadOnlySession, List.any_eq_false] at noReader
    have notReader := noReader other (OrderedMap.mem_values_iff.mpr ⟨handle, otherFound⟩)
    simp [otherSlot, readOnly] at notReader
  · exact fun _ => ⟨sessionHandle, session, guard.sessionFound, slotKey.symm⟩
  · intro isRequired _
    exact login.clear slot.id slot slotFound isRequired (by simp [guard.nobody])

theorem withPin (login : LoginState required state) {slot : Slot}
    (slotFound : state.findSlot slot.id = some slot) (role : UserType) (value : Bytes) :
    LoginState required (state.putSlot slot.id (slot.withPin role value)) := by
  have sameLogin : (slot.withPin role value).loggedInUser = slot.loggedInUser := by
    cases role <;> rfl
  refine login.putSlot slotFound ?_ ?_ ?_ ?_
  · intro requires
    cases role <;> simp [Slot.requiresLogin, Slot.withPin]
  · rw [sameLogin]
    exact login.officer slot.id slot slotFound
  · rw [sameLogin]
    exact login.present slot.id slot slotFound
  · rw [sameLogin]
    exact login.clear slot.id slot slotFound

/-- The end of the login of a slot, with everything protected that was pending. -/
theorem loggedOut (login : LoginState required state) {slot : Slot}
    (slotFound : state.findSlot slot.id = some slot)
    (wellFormed : WellFormed state) :
    LoginState required ((state.endLogin slot).purgeSlot slot.id) := by
  have sessionLookup (handle : Nat) (session : Session)
      (found : ((state.endLogin slot).purgeSlot slot.id).findSession handle = some session) :
      ∃ stored, state.findSession handle = some stored ∧ session.slotId = stored.slotId ∧
        session.flags = stored.flags ∧
        (stored.slotId = slot.id ∧ session = stored.purged ∨
          stored.slotId ≠ slot.id ∧ session = stored) := by
    have mapped := OrderedMap.get?_mapValues state.sessions
      (fun session => if session.slotId = slot.id then session.purged else session) handle
    change (state.sessions.mapValues fun session =>
      if session.slotId = slot.id then session.purged else session).get? handle = _ at found
    rw [mapped, Option.map_eq_some_iff] at found
    rcases found with ⟨stored, storedFound, rfl⟩
    refine ⟨stored, storedFound, ?_⟩
    split
    · rename_i same
      exact ⟨rfl, rfl, Or.inl ⟨same, rfl⟩⟩
    · rename_i different
      exact ⟨rfl, rfl, Or.inr ⟨different, rfl⟩⟩
  have slotLookup (id : Nat) (stored : Slot)
      (storedFound : ((state.endLogin slot).purgeSlot slot.id).findSlot id = some stored) :
      id = slot.id ∧ stored = slot.loggedOut ∨ id ≠ slot.id ∧ state.findSlot id = some stored := by
    change (state.putSlot slot.id slot.loggedOut).findSlot id = some stored at storedFound
    rw [findSlot_putSlot] at storedFound
    split at storedFound
    · rename_i same
      cases storedFound
      exact Or.inl ⟨same, rfl⟩
    · rename_i different
      exact Or.inr ⟨different, storedFound⟩
  have objectLookup (handle : Nat) (object : Object)
      (found : ((state.endLogin slot).purgeSlot slot.id).objects.get? handle = some object) :=
    OrderedMap.get?_eraseIf_eq_some_iff.mp found
  refine ⟨?_, ?_, ?_, ?_⟩
  · intro id stored storedFound officer handle session found sameSlot
    rcases slotLookup id stored storedFound with ⟨_, rfl⟩ | ⟨_, old⟩
    · contradiction
    · rcases sessionLookup handle session found with ⟨before, beforeFound, slotId, flags, _⟩
      rw [Session.isReadWrite, flags]
      exact login.officer id stored old officer handle before beforeFound (slotId ▸ sameSlot)
  · intro id stored storedFound somebody
    rcases slotLookup id stored storedFound with ⟨_, rfl⟩ | ⟨different, old⟩
    · exact (somebody rfl).elim
    · rcases login.present id stored old somebody with ⟨handle, session, found, rfl⟩
      refine ⟨handle, session, ?_, rfl⟩
      have mapped := OrderedMap.get?_mapValues state.sessions
        (fun session => if session.slotId = slot.id then session.purged else session) handle
      refine mapped.trans ?_
      rw [show state.sessions.get? handle = some session from found]
      simp [different]
  · intro id stored storedFound isRequired
    rcases slotLookup id stored storedFound with ⟨rfl, rfl⟩ | ⟨_, old⟩
    · exact login.stillRequired slot.id slot slotFound isRequired
    · exact login.stillRequired id stored old isRequired
  · intro id stored storedFound isRequired notUser
    rcases slotLookup id stored storedFound with ⟨rfl, rfl⟩ | ⟨different, old⟩
    · constructor
      · intro handle object found sameSlot owned
        have kept := (objectLookup handle object found).2
        simpa [sameSlot, owned] using kept
      · intro handle session pendingHandle object found sameSlot isPending objectFound _
        rcases sessionLookup handle session found with
          ⟨before, _, slotId, _, ⟨_, rfl⟩ | ⟨other, _⟩⟩
        · have zero : pendingHandle = 0 := by
            simpa [Session.HasPending, Session.purged, Operation.initial] using isPending
          have positive :=
            (wellFormed.objectKey pendingHandle object (objectLookup _ _ objectFound).1).2.1
          omega
        · exact (other (slotId ▸ sameSlot)).elim
    · refine (login.clear id stored old isRequired notUser).of_fewer
        (fun handle object found _ _ => (objectLookup handle object found).1) ?_
      intro handle session found sameSlot pendingHandle object isPending _ _ _
      rcases sessionLookup handle session found with
        ⟨before, beforeFound, slotId, _, ⟨same, _⟩ | ⟨_, rfl⟩⟩
      · exact (different (sameSlot.symm.trans (slotId.trans same))).elim
      · exact ⟨session, beforeFound, sameSlot, isPending⟩

/-! ## All calls -/

theorem initialization (host : Host) (oracle : Oracle) {state : State}
    {result : State × Response} (wellFormed : WellFormed state)
    (notOpen : state.initialized = false)
    (initialization : Initialization host oracle state result) :
    LoginState (fun id => (result.1.findSlot id).any Slot.requiresLogin) result.1 ∧
      (result.2.rv ≠ .ok → ∀ required, LoginState required result.1) := by
  have noSession := (wellFormed.closed notOpen).2.2
  cases initialization with
  | @failed next created _ noSlots noObjects sessions _ _ _ _ =>
      have empty (required : Nat → Bool) : LoginState required next := by
        have noSlot (id : Nat) : next.findSlot id = none := by
          rw [State.findSlot, noSlots]
          rfl
        constructor <;> simp [noSlot]
      exact ⟨empty _, fun _ => empty⟩
  | @succeeded disk slots next prepared discovered loaded =>
      have noSession' : next.sessions = ∅ := loaded.sessions_eq.1.trans noSession
      have sameSlots : next.slots = slots := loaded.slots_eq
      have nobody (id : Nat) (slot : Slot) (found : next.findSlot id = some slot) :
          slot.loggedInUser = none := by
        rw [State.findSlot, sameSlots] at found
        rcases discovered.origin id slot found with ⟨_, _, _, loadedFrom⟩
        exact loadedFrom.nobody
      refine ⟨⟨?_, ?_, ?_, ?_⟩, fun failed => (failed rfl).elim⟩
      · intro id slot found officer
        rw [nobody id slot found] at officer
        contradiction
      · intro id slot found somebody
        exact (somebody (nobody id slot found)).elim
      · intro id slot found isRequired
        rw [found] at isRequired
        exact isRequired
      · intro id slot _ _ _
        constructor
        · intro handle object found _ owned
          rcases loaded.origin discovered.slotKey found with ⟨_, _, _, _, _, _, _, origin⟩
          exact (owned origin.core.2.2.1).elim
        · intro handle session _ _ found
          rw [State.findSession, show next.sessions = ∅ from noSession'] at found
          contradiction

/-- The slots that required login at the last successful initialisation. -/
def requiredAfter (host : Host) (required : Nat → Bool) (state : State) (input : Call × Oracle) :
    Nat → Bool :=
  match input.1 with
  | .cInitialize _ =>
      if (step host state input).2.rv = .ok then
        fun id => ((step host state input).1.findSlot id).any Slot.requiresLogin
      else required
  | _ => required

/-- An attribute change needs the access to the slot of its object. -/
theorem changeObject (login : LoginState required state) {sessionHandle handle : Nat}
    {attributes : Template} {object changed : Object}
    (change : AttributeChange state sessionHandle handle attributes object changed) :
    LoginState required { state with objects := state.objects.insert handle changed } := by
  rcases State.findObject_eq_some_iff.mp change.found with ⟨session, sessionFound, _, sameSlot⟩
  rcases State.requireUserLogin_eq_ok_iff.mp change.access with ⟨slot, slotOfSession, grants⟩
  rcases State.sessionSlot_eq_some_iff.mp slotOfSession with ⟨other, otherFound, slotFound⟩
  rw [sessionFound] at otherFound
  cases otherFound
  refine @withObjects _ _ login _ state.nextObjectHandle fun other stored found => ?_
  rw [OrderedMap.get?_insert] at found
  split at found
  · cases found
    refine Or.inr ⟨slot, ?_, grants⟩
    rw [slotId_eq_of_core change.core_eq, sameSlot]
    exact slotFound
  · exact Or.inl found

theorem fewerObjects (login : LoginState required state) {objects : OrderedMap Nat Object}
    (subset : ∀ handle object, objects.get? handle = some object →
      state.objects.get? handle = some object) :
    LoginState required { state with objects := objects } :=
  @withObjects _ _ login _ state.nextObjectHandle fun handle object found =>
    Or.inl (subset handle object found)

theorem creationCall {host : Host} {oracle : Oracle} {call : Call} {sessionHandle : Nat}
    {result : State × Response} (login : LoginState required state) (wellFormed : WellFormed state)
    (ends : CreationCall host oracle state call sessionHandle result) :
    LoginState required result.1 := by
  have moved : LoginState required
      { state with
        nextObjectHandle := result.1.nextObjectHandle
        objects := result.1.objects } := by
    apply login.withObjects
    intro handle object found
    rcases ends.added wellFormed found with old | ⟨_, session, slot, _, slotFound, grants, sameSlot⟩
    · exact Or.inl old
    · rw [sameSlot]
      exact Or.inr ⟨slot, slotFound, grants⟩
  rw [ends.frame]
  exact moved.withDisk _

/-- Every effect but that of an initialisation keeps the login invariant. -/
theorem effect {host : Host} {oracle : Oracle} {call : Call} {result : State × Response}
    (login : LoginState required state) (wellFormed : WellFormed state)
    (effect : Effect host oracle state call result)
    (runs : ∀ hasReserved, call ≠ .cInitialize hasReserved) : LoginState required result.1 := by
  have slotOf {id : Nat} {slot : Slot} (found : state.findSlot id = some slot) :
      state.findSlot slot.id = some slot := by
    rw [wellFormed.slotKey id slot found]
    exact found
  cases effect with
  | quiet _ _ => exact login
  | updated _ found update _ => exact login.putSession found update
  | opened found allowed => exact login.opened wellFormed found allowed
  | closed found remains => exact login.closed found remains
  | closedLast found slotFound last => exact login.closedLast wellFormed found slotFound last
  | closedAll found => exact login.closedAll found
  | loggedIn guard _ => exact login.loggedIn wellFormed guard
  | loggedOut _ slotFound _ => exact login.loggedOut (slotOf slotFound) wellFormed
  | @pinChanged _ _ session slot role pin _ _ _ slotFound _ _ =>
      exact (login.withPin (slotOf slotFound) role pin.content).withDisk _
  | pinLeft _ _ _ _ _ => exact login.withDisk _
  | sessionObjectChanged change _ => exact login.changeObject change
  | tokenObjectChanged change _ _ _ => exact (login.changeObject change).withDisk _
  | metadataLeft _ _ _ => exact login.withDisk _
  | sessionObjectDestroyed _ _ =>
      refine login.fewerObjects fun other stored found => ?_
      rw [OrderedMap.get?_erase] at found
      split at found
      · contradiction
      · exact found
  | @keyFileDestroyed _ _ object disk _ _ _ _ =>
      have fewer := @fewerObjects required state login
        (state.objects.eraseIf fun _ other => other.path = object.path)
        fun _ _ found => (OrderedMap.get?_eraseIf_eq_some_iff.mp found).1
      exact fewer.withDisk disk
  | creation _ _ ends => exact login.creationCall wellFormed ends
  | finalized => constructor <;> simp [State.findSlot]
  | initializing _ => exact (runs false rfl).elim

theorem requiredAfter_of_ne {host : Host} {required : Nat → Bool} {state : State} {call : Call}
    {oracle : Oracle} (runs : ∀ hasReserved, call ≠ .cInitialize hasReserved) :
    requiredAfter host required state (call, oracle) = required := by
  cases call with
  | cInitialize hasReserved => exact (runs hasReserved rfl).elim
  | _ => rfl

/-- Every step keeps the login invariant. -/
theorem step {host : Host} (login : LoginState required state) (wellFormed : WellFormed state)
    (input : Call × Oracle) :
    LoginState (requiredAfter host required state input)
      (HsmSimulator.step host state input).1 := by
  rcases input with ⟨call, oracle⟩
  have effect := @step_effect host oracle state wellFormed call
  by_cases runs : ∀ hasReserved, call ≠ .cInitialize hasReserved
  · rw [requiredAfter_of_ne runs]
    exact login.effect wellFormed effect runs
  · push Not at runs
    rcases runs with ⟨hasReserved, rfl⟩
    simp only [requiredAfter]
    generalize HsmSimulator.step host state (.cInitialize hasReserved, oracle) = result at effect ⊢
    cases effect with
    | quiet failed _ =>
        have failed' := failed.resolve_left (by simp [Call.reads])
        rw [if_neg failed']
        exact login
    | initializing notOpen =>
        rcases initialization host oracle wellFormed notOpen
          (cInitialize_initialization host oracle notOpen) with ⟨succeeded, failed⟩
        split
        · exact succeeded
        · rename_i notOk
          exact failed notOk required
    | updated onSession => cases onSession
    | pinChanged onSession => cases onSession
    | pinLeft onSession => cases onSession
    | creation creates => cases creates

theorem run (host : Host) (disk : FileSystem) (inputs : List (Call × Oracle)) :
    LoginState
      (Runs.history (HsmSimulator.step host) (requiredAfter host) (fun _ => false) (.loaded disk)
        inputs)
      (Runs.final (HsmSimulator.step host) (.loaded disk) inputs) := by
  have invariant := @Runs.history_invariant _ _ _ _ (HsmSimulator.step host) (requiredAfter host)
    (fun _ _ => True) (fun state required => WellFormed state ∧ LoginState required state)
    (fun state required input valid _ => ⟨valid.1.step input, valid.2.step valid.1 input⟩)
    (.loaded disk) (fun _ => false) inputs
    ⟨wellFormed_loaded disk, by constructor <;> simp [State.loaded, State.findSlot]⟩
    (Runs.along_true _ _ _)
  exact invariant.2

end LoginState

/-! ## What a protected object is out of reach of -/

/-- The slot has no protected session object, and no active operation or search of a
session of the slot leads to a protected object. -/
structure Purged (state : State) (id : Nat) : Prop where
  sessionObjects : ∀ handle object, state.objects.get? handle = some object →
    object.slotId = id → object.ownerSession ≠ 0 → isProtectedObject object = false
  operations : ∀ sessionHandle session object, state.findSession sessionHandle = some session →
    session.slotId = id → session.operation.active = true →
    state.findObject sessionHandle session.operation.keyHandle = some object →
    isProtectedObject object = false
  searches : ∀ sessionHandle session handle object,
    state.findSession sessionHandle = some session → session.slotId = id →
    session.searchActive = true → handle ∈ session.searchMatches.drop session.searchOffset →
    state.findObject sessionHandle handle = some object → isProtectedObject object = false

theorem ClearOfProtected.purged {state : State} {id : Nat} (clear : ClearOfProtected state id) :
    Purged state id := by
  have resolved {sessionHandle handle : Nat} {session : Session} {object : Object}
      (sessionFound : state.findSession sessionHandle = some session)
      (sameSlot : session.slotId = id) (isPending : session.HasPending handle)
      (found : state.findObject sessionHandle handle = some object) :
      isProtectedObject object = false := by
    rcases State.findObject_eq_some_iff.mp found with ⟨other, otherFound, stored, objectSlot⟩
    rw [sessionFound] at otherFound
    cases otherFound
    exact clear.pending sessionHandle session handle object sessionFound sameSlot isPending stored
      (objectSlot.trans sameSlot)
  constructor
  · exact clear.objects
  · intro sessionHandle session object sessionFound sameSlot _ found
    exact resolved sessionFound sameSlot (Or.inl rfl) found
  · intro sessionHandle session handle object sessionFound sameSlot _ listed found
    exact resolved sessionFound sameSlot (Or.inr (List.mem_of_mem_drop listed)) found

/-- In every state of every run: under an SO login all sessions of the slot are
read-write, a login has a session, and while USER is not logged in at a slot that
required it since it was loaded, nothing leads to a protected object. -/
theorem login_state_of_run (host : Host) (disk : FileSystem) (inputs : List (Call × Oracle))
    (id : Nat) (slot : Slot)
    (found : (Runs.final (step host) (.loaded disk) inputs).findSlot id = some slot) :
    (slot.loggedInUser = some .so → ∀ handle session,
        (Runs.final (step host) (.loaded disk) inputs).findSession handle = some session →
        session.slotId = id → session.isReadWrite = true) ∧
      (slot.loggedInUser ≠ none → ∃ handle session,
        (Runs.final (step host) (.loaded disk) inputs).findSession handle = some session ∧
        session.slotId = id) ∧
      (Runs.history (step host) (LoginState.requiredAfter host) (fun _ => false) (.loaded disk)
          inputs id = true → slot.loggedInUser ≠ some .user →
        Purged (Runs.final (step host) (.loaded disk) inputs) id) := by
  have login := LoginState.run host disk inputs
  refine ⟨?_, ?_, ?_⟩
  · exact login.officer id slot found
  · exact login.present id slot found
  · exact fun isRequired notUser => (login.clear id slot found isRequired notUser).purged

/-- A storage root with one slot that has a USER PIN. -/
def guardedRoot : FileSystem where
  files := (∅ : OrderedMap Path Bytes).insert [ascii "data", ascii "1_a", ascii "pin.txt"] [49]
  directories := (∅ : OrderedMap Path Unit).insert [ascii "data", ascii "1_a"] ()

theorem login_state_of_guardedRoot :
    Purged (Runs.final (step .plain) (.loaded guardedRoot)
      (plainRun [.cInitialize false, .openSession 1 6 true, .login 1 1 (.bytes [49]), .logout 1]))
      1 := by
  have found : ∃ slot, (Runs.final (step .plain) (.loaded guardedRoot)
    (plainRun [.cInitialize false,
      .openSession 1 6 true, .login 1 1 (.bytes [49]), .logout 1])).findSlot 1 = some slot ∧
        slot.loggedInUser ≠ some .user := by
    decide
  rcases found with ⟨slot, found, notUser⟩
  exact (login_state_of_run .plain guardedRoot _ 1 slot found).2.2 (by decide) notUser

end HsmSimulator
