import HsmSimulator.Pkcs11.AcceptedPins

/-!
# Getting in again

No state locks out who has a PIN: whatever sessions are open and whoever is logged in, closing
the sessions of the slot, opening one and logging in succeeds, with every token object where it
was.  With the PIN of the security officer the USER PIN can be replaced on the way.
-/

namespace HsmSimulator

open Checks

/-- Flags of a read-write session. -/
abbrev readWriteFlags : Nat := ckfRwSession ||| ckfSerialSession

/-- One read-write session is open on the slot, which is as given, and the token objects are
those there were. -/
structure Entered (before after : State) (id sessionHandle : Nat) (slot : Slot) : Prop where
  initialized : after.initialized = true
  session : ∃ session, after.findSession sessionHandle = some session ∧ session.slotId = id ∧
    session.isReadWrite = true
  readWrite : after.hasReadOnlySession id = false
  slotFound : after.findSlot id = some slot
  slotId : slot.id = id
  objects : ∀ handle object, object.ownerSession = 0 →
    (after.objects.get? handle = some object ↔ before.objects.get? handle = some object)

namespace Entered

variable {host : Host} {oracle : Oracle} {before after : State} {id sessionHandle : Nat}
  {slot : Slot}

theorem sessionSlot (entered : Entered before after id sessionHandle slot) :
    after.sessionSlot sessionHandle = some slot := by
  obtain ⟨session, found, onSlot, _⟩ := entered.session
  refine State.sessionSlot_eq_some_iff.mpr ⟨session, found, ?_⟩
  rw [onSlot]
  exact entered.slotFound

/-- The state after the sessions of a slot were closed. -/
def cleared (state : State) (slot : Slot) : State :=
  ({ state with
      sessions := state.sessions.eraseIf fun _ session => session.slotId = slot.id
      objects := state.objects.eraseIf fun _ object =>
        object.slotId = slot.id && object.ownerSession ≠ 0 } : State).putSlot slot.id slot.loggedOut

theorem closeAll_eq (wellFormed : WellFormed before) (found : before.findSlot id = some slot) :
    step host before (.closeAllSessions id, oracle) = (cleared before slot, .plain .ok) := by
  have slotKey := wellFormed.slotKey id slot found
  subst slotKey
  rw [step_of_open (wellFormed.initialized_of_slot found), service, closeAllSessions, found]
  rfl

/-- Closing the sessions of a slot and opening one leaves that one. -/
theorem opened (wellFormed : WellFormed before) (found : before.findSlot id = some slot) :
    ∃ next, step host (cleared before slot) (.openSession id readWriteFlags true, oracle) =
        (next, .success (.handle before.nextSessionHandle)) ∧ next.disk = before.disk ∧
      Entered before next id before.nextSessionHandle slot.loggedOut := by
  have slotKey := wellFormed.slotKey id slot found
  subst slotKey
  have isOpen : (cleared before slot).initialized = true := wellFormed.initialized_of_slot found
  have slotFound : (cleared before slot).findSlot slot.id = some slot.loggedOut := by
    rw [cleared, findSlot_putSlot, if_pos rfl]
  have swept (handle : Nat) : (cleared before slot).sessions.get? handle =
      (before.findSession handle).filter fun session => !decide (session.slotId = slot.id) :=
    OrderedMap.get?_eraseIf _ _ _
  have fresh : (cleared before slot).sessions.get? before.nextSessionHandle = none := by
    rw [swept, wellFormed.freshSession (Nat.le_refl _)]
    rfl
  have checks : openSessionChecks (cleared before slot) slot.id readWriteFlags true = .ok () := by
    rw [openSessionChecks, slotFound]
    rfl
  let opening : Session := .opened before.nextSessionHandle readWriteFlags slot.id
  let next : State :=
    { cleared before slot with
      nextSessionHandle := before.nextSessionHandle + 1
      sessions := (cleared before slot).sessions.insert before.nextSessionHandle opening }
  have readWrite : opening.isReadWrite = true := by
    simp [opening, Session.opened, Session.isReadWrite]
  refine ⟨next, ?_, rfl, isOpen, ?_, ?_, slotFound, rfl, ?_⟩
  · rw [step_of_open isOpen, service, openSession, checks]
    have sameHandle : (cleared before slot).nextSessionHandle = before.nextSessionHandle := rfl
    dsimp only
    rw [sameHandle, OrderedMap.emplace_of_fresh fresh]
  · exact ⟨opening, OrderedMap.get?_insert_self _ _ _, rfl, readWrite⟩
  · rw [State.hasReadOnlySession, List.any_eq_false]
    intro session member
    obtain ⟨handle, isSession⟩ := OrderedMap.mem_values_iff.mp member
    have cases := isSession
    rw [OrderedMap.get?_insert] at cases
    split at cases
    · cases cases
      simp [readWrite]
    · rw [swept] at cases
      have onOther := (Option.filter_eq_some_iff.mp cases).2
      simp only [Bool.not_eq_true', decide_eq_false_iff_not] at onOther
      simp [onOther]
  · intro handle object token
    have kept : next.objects.get? handle = (before.objects.get? handle).filter
        fun object => !(decide (object.slotId = slot.id) && decide (object.ownerSession ≠ 0)) :=
      OrderedMap.get?_eraseIf _ _ _
    rw [kept, Option.filter_eq_some_iff]
    simp [token]

/-- The slot record may change. -/
theorem putSlot {next : State} {changed : Slot}
    (entered : Entered before after id sessionHandle slot) (sameId : changed.id = slot.id)
    (slots : next.findSlot id = some changed)
    (sessions : next.sessions = after.sessions) (objects : next.objects = after.objects)
    (initialized : next.initialized = after.initialized) :
    Entered before next id sessionHandle changed := by
  refine ⟨initialized.trans entered.initialized, ?_, ?_, slots, sameId.trans entered.slotId, ?_⟩
  · rw [State.findSession, sessions]
    exact entered.session
  · rw [State.hasReadOnlySession, sessions]
    exact entered.readWrite
  · rw [objects]
    exact entered.objects

/-- Whoever has the PIN of a role may log in when nobody is logged in. -/
theorem loggedIn (entered : Entered before after id sessionHandle slot)
    (nobody : slot.loggedInUser = none) {userType : Nat} {role : UserType} {pin : Buffer}
    (isRole : UserType.ofNumber userType = some role) (given : pin.isMissing = false)
    (accepted : acceptPin slot role pin = .ok ()) :
    ∃ next, step host after (.login sessionHandle userType pin, oracle) = (next, .plain .ok) ∧
      next.disk = after.disk ∧
        Entered before next id sessionHandle { slot with loggedInUser := some role } := by
  obtain ⟨session, found, rfl, readWrite⟩ := entered.session
  have officer : soLoginChecks after session slot role = .ok () := by
    simp only [soLoginChecks, bind_eq_ok_iff, require_eq_ok_iff]
    refine ⟨(), fun _ => readWrite, fun _ => ?_⟩
    rw [entered.slotId]
    exact entered.readWrite
  have checks : loginChecks after sessionHandle userType pin = .ok (session, slot, role) := by
    simp only [loginChecks, bind_eq_ok_iff, fetch_eq_ok_iff, require_eq_ok_iff]
    exact ⟨session, found, role, isRole, (), given, slot, entered.sessionSlot, (), nobody, (),
      officer, (), accepted, rfl⟩
  refine ⟨after.putSlot session.slotId { slot with loggedInUser := some role }, ?_, rfl, ?_⟩
  · rw [step_of_open entered.initialized, service, login, checks]
  · exact entered.putSlot rfl (by rw [findSlot_putSlot, if_pos rfl]) rfl rfl rfl

/-- Whoever is logged in may log out. -/
theorem loggedOut (entered : Entered before after id sessionHandle slot)
    (somebody : slot.loggedInUser ≠ none) :
    ∃ next, step host after (.logout sessionHandle, oracle) = (next, .plain .ok) ∧
      Entered before next id sessionHandle slot.loggedOut := by
  obtain ⟨session, found, rfl, readWrite⟩ := entered.session
  let out : State := (after.putSlot session.slotId slot.loggedOut).purgeSlot slot.id
  refine ⟨out, ?_, ?_⟩
  · have sessionSlot := entered.sessionSlot
    simp only [step_of_open entered.initialized, service, logout, found, sessionSlot, fetch_some,
      ok_bind, require, if_pos somebody]
    rfl
  · have sessions (handle : Nat) : out.findSession handle =
        (after.findSession handle).map fun session =>
          if session.slotId = slot.id then session.purged else session :=
      OrderedMap.get?_mapValues _ _ _
    refine ⟨entered.initialized, ?_, ?_, ?_, entered.slotId, ?_⟩
    · refine ⟨session.purged, ?_, rfl, readWrite⟩
      rw [sessions, found, Option.map_some, entered.slotId, if_pos rfl]
    · have writable := entered.readWrite
      rw [State.hasReadOnlySession, List.any_eq_false] at writable ⊢
      intro purged member
      obtain ⟨handle, isPurged⟩ := OrderedMap.mem_values_iff.mp member
      have fromOld := sessions handle
      rw [State.findSession, isPurged] at fromOld
      obtain ⟨old, oldFound, rfl⟩ := Option.map_eq_some_iff.mp fromOld.symm
      have was := writable old (OrderedMap.mem_values_iff.mpr ⟨handle, oldFound⟩)
      split
      · exact was
      · exact was
    · change (after.putSlot session.slotId slot.loggedOut).findSlot session.slotId = _
      rw [findSlot_putSlot, if_pos rfl]
    · intro handle object token
      rw [← entered.objects handle object token]
      have kept : out.objects.get? handle = (after.objects.get? handle).filter fun object =>
          !(decide (object.slotId = slot.id) && decide (object.ownerSession ≠ 0) &&
            isProtectedObject object) :=
        OrderedMap.get?_eraseIf _ _ _
      rw [kept, Option.filter_eq_some_iff]
      simp [token]

/-- The security officer may replace the USER PIN where its file can be replaced. -/
theorem userPinReplaced (entered : Entered before after id sessionHandle slot)
    (officer : slot.loggedInUser = some .so) {pin : Buffer} (valid : validatePin pin = .ok ())
    (replaced : PinFileReplaced after oracle slot .user) :
    ∃ next, step host after (.initPin sessionHandle pin, oracle) = (next, .plain .ok) ∧
      Entered before next id sessionHandle (slot.withPin .user pin.content) := by
  obtain ⟨session, found, rfl, readWrite⟩ := entered.session
  have checks : initPinChecks after sessionHandle = .ok (session, slot) := by
    simp only [initPinChecks, bind_eq_ok_iff, fetch_eq_ok_iff, require_eq_ok_iff]
    exact ⟨session, found, (), readWrite, slot, entered.sessionSlot, (), officer, rfl⟩
  obtain ⟨disk, stored⟩ : ∃ disk, storePin after.disk oracle slot .user pin =
      (disk, .ok (slot.withPin .user pin.content)) := by
    simp [storePin, valid, replaced.statted, replaced.free, FileSystem.publish, streamResult,
      replaced.written, replaced.renamed]
  refine ⟨({ after with disk := disk } : State).putSlot session.slotId
    (slot.withPin .user pin.content), ?_, ?_⟩
  · rw [step_of_open entered.initialized, service, initPin, checks]
    dsimp only
    rw [changePin, stored]
  · exact entered.putSlot rfl (by rw [findSlot_putSlot, if_pos rfl]) rfl rfl rfl

/-- With USER logged in, the session has access to every token object of its slot. -/
theorem access (entered : Entered before after id sessionHandle slot)
    (user : slot.loggedInUser = some .user) {handle : Nat} {object : Object}
    (found : before.objects.get? handle = some object) (token : object.ownerSession = 0)
    (onSlot : object.slotId = id) :
    after.findObject sessionHandle handle = some object ∧
      after.requireUserLogin sessionHandle = .ok () := by
  obtain ⟨session, sessionFound, rfl, _⟩ := entered.session
  constructor
  · exact State.findObject_eq_some_iff.mpr
      ⟨session, sessionFound, (entered.objects handle object token).mpr found, onSlot⟩
  · refine State.requireUserLogin_eq_ok_iff.mpr ⟨slot, entered.sessionSlot, ?_⟩
    simp [Slot.grantsAccess, user]

end Entered

/-- Every token object of the slot is there and may be used on the session. -/
def TokenAccess (before after : State) (id sessionHandle : Nat) : Prop :=
  ∀ handle object, before.objects.get? handle = some object → object.ownerSession = 0 →
    object.slotId = id → after.findObject sessionHandle handle = some object ∧
      after.requireUserLogin sessionHandle = .ok ()

/-- The calls of an application that starts afresh on a slot. -/
def enterCalls (state : State) (id userType : Nat) (pin : Buffer) (first second third : Oracle) :
    List (Call × Oracle) :=
  [(.closeAllSessions id, first), (.openSession id readWriteFlags true, second),
    (.login state.nextSessionHandle userType pin, third)]

/-- From every state that a run reaches, whatever went before, who has the PIN of a role gets
in: the three calls succeed, and USER has access to every token object of the slot. -/
theorem access_regained (host : Host) (state : State) (reachable : Reachable host state)
    (id : Nat) (slot : Slot) (found : state.findSlot id = some slot) (userType : Nat)
    (role : UserType) (isRole : UserType.ofNumber userType = some role) (pin : Buffer)
    (given : pin.isMissing = false) (accepted : acceptPin slot role pin = .ok ())
    (first second third : Oracle) :
    let inputs := enterCalls state id userType pin first second third
    let later := Runs.final (step host) state inputs
    Runs.outputs (step host) state inputs =
        [.plain .ok, .success (.handle state.nextSessionHandle), .plain .ok] ∧
      Entered state later id state.nextSessionHandle { slot with loggedInUser := some role } ∧
      (role = .user → TokenAccess state later id state.nextSessionHandle) := by
  have wellFormed := reachable.wellFormed
  obtain ⟨opened, opens, _, entered⟩ := @Entered.opened host second state id slot wellFormed found
  obtain ⟨later, logsIn, _, loggedIn⟩ :=
    @Entered.loggedIn host third state opened id _ _ entered rfl userType role pin isRole given
      accepted
  have closes := @Entered.closeAll_eq host first state id slot wellFormed found
  simp only [enterCalls, Runs.outputs, Runs.final, closes, opens, logsIn]
  refine ⟨trivial, loggedIn, ?_⟩
  rintro rfl handle object isObject token onSlot
  exact loggedIn.access rfl isObject token onSlot

/-- A slot with both PINs. -/
def officerSlot : FileSystem where
  files := ((∅ : OrderedMap Path Bytes).insert [ascii "data", ascii "1_a", ascii "pin.txt"]
    [49]).insert [ascii "data", ascii "1_a", ascii "so-pin.txt"] [50]
  directories := (∅ : OrderedMap Path Unit).insert [ascii "data", ascii "1_a"] ()

/-- USER is logged in on a read-only session. -/
def readOnlyUser : State :=
  Runs.final (step .plain) (.loaded officerSlot)
    (plainRun [.cInitialize false, .openSession 1 4 true, .login 1 1 (.bytes [49])])

/-- The security officer gets in where a read-only session of USER was open. -/
theorem access_regained_officer :
    Runs.outputs (step .plain) readOnlyUser
        (enterCalls readOnlyUser 1 0 (.bytes [50]) .plain .plain .plain) =
      [.plain .ok, .success (.handle 2), .plain .ok] := by
  have slots : ∃ slot, readOnlyUser.findSlot 1 = some slot ∧
      acceptPin slot .so (.bytes [50]) = .ok () := by
    decide
  obtain ⟨slot, found, accepted⟩ := slots
  exact (access_regained .plain readOnlyUser ⟨officerSlot, _, rfl⟩ 1 slot found 0 .so rfl
    (.bytes [50]) rfl accepted .plain .plain .plain).1

/-- The calls with which the security officer replaces the USER PIN, and USER logs in. -/
def resetCalls (state : State) (id : Nat) (officerPin newPin : Buffer) (oracles : Fin 6 → Oracle) :
    List (Call × Oracle) :=
  enterCalls state id 0 officerPin (oracles 0) (oracles 1) (oracles 2) ++
    [(.initPin state.nextSessionHandle newPin, oracles 3),
      (.logout state.nextSessionHandle, oracles 4),
      (.login state.nextSessionHandle 1 newPin, oracles 5)]

/-- From every state that a run reaches, with the PIN of the security officer the USER PIN can
be replaced, where its file can be, and USER then has access to every token object. -/
theorem user_pin_reset (host : Host) (state : State) (reachable : Reachable host state)
    (id : Nat) (slot : Slot) (found : state.findSlot id = some slot) (officerPin newPin : Buffer)
    (given : officerPin.isMissing = false) (accepted : acceptPin slot .so officerPin = .ok ())
    (valid : validatePin newPin = .ok ()) (oracles : Fin 6 → Oracle)
    (replaced : PinFileReplaced state (oracles 3) slot .user) :
    let inputs := resetCalls state id officerPin newPin oracles
    let later := Runs.final (step host) state inputs
    (∀ response ∈ Runs.outputs (step host) state inputs, response.rv = .ok) ∧
      Entered state later id state.nextSessionHandle
        { slot.withPin .user newPin.content with loggedInUser := some .user } ∧
      TokenAccess state later id state.nextSessionHandle := by
  have wellFormed := reachable.wellFormed
  have newGiven : newPin.isMissing = false := by
    simp only [validatePin, bind_eq_ok_iff, require_eq_ok_iff] at valid
    obtain ⟨_, newGiven, _⟩ := valid
    exact newGiven
  have closes := @Entered.closeAll_eq host (oracles 0) state id slot wellFormed found
  obtain ⟨opened, opens, openedDisk, entered⟩ :=
    @Entered.opened host (oracles 1) state id slot wellFormed found
  obtain ⟨officer, officerLogin, officerDisk, officerEntered⟩ :=
    @Entered.loggedIn host (oracles 2) state opened id _ _ entered rfl 0 .so officerPin rfl given
      accepted
  have stillReplaced : PinFileReplaced officer (oracles 3)
      { slot.loggedOut with loggedInUser := some .so } .user :=
    ⟨replaced.statted, by rw [officerDisk, openedDisk]; exact replaced.free, replaced.written,
      replaced.renamed⟩
  obtain ⟨changed, changes, changedEntered⟩ :=
    @Entered.userPinReplaced host (oracles 3) state officer id _ _ officerEntered rfl newPin valid
      stillReplaced
  obtain ⟨out, leaves, outEntered⟩ :=
    @Entered.loggedOut host (oracles 4) state changed id _ _ changedEntered (by simp [Slot.withPin])
  have newAccepted : acceptPin (Slot.loggedOut
      (Slot.withPin { slot with loggedInUser := some .so } .user newPin.content)) .user newPin =
      .ok () := by
    rw [acceptPin, if_neg (by simp [Slot.pin, Slot.withPin, Slot.loggedOut])]
    simp [checkPin, newGiven, Slot.pin, Slot.withPin, Slot.loggedOut, require]
  obtain ⟨later, logsIn, _, loggedIn⟩ :=
    @Entered.loggedIn host (oracles 5) state out id _ _ outEntered rfl 1 .user newPin rfl newGiven
      newAccepted
  simp only [resetCalls, enterCalls, List.cons_append, List.nil_append, Runs.outputs, Runs.final,
    closes, opens, officerLogin, changes, leaves, logsIn]
  refine ⟨by simp, loggedIn, ?_⟩
  intro handle object isObject token onSlot
  exact loggedIn.access rfl isObject token onSlot

/-- The USER PIN is replaced where USER was logged in. -/
theorem user_pin_reset_readOnly :
    (Runs.outputs (step .plain) readOnlyUser
      (resetCalls readOnlyUser 1 (.bytes [50]) (.bytes [51]) fun _ => .plain)).all
        (fun response => response.rv = .ok) = true := by
  have slots : ∃ slot, readOnlyUser.findSlot 1 = some slot ∧
      acceptPin slot .so (.bytes [50]) = .ok () ∧
      readOnlyUser.disk.hasPath (slot.pinTemporary .user) = false := by
    decide
  obtain ⟨slot, found, accepted, free⟩ := slots
  obtain ⟨succeed, _⟩ := user_pin_reset .plain readOnlyUser ⟨officerSlot, _, rfl⟩ 1 slot found
    (.bytes [50]) (.bytes [51]) rfl accepted (by decide) (fun _ => .plain) ⟨rfl, free, rfl, rfl⟩
  apply List.all_eq_true.mpr
  intro response member
  exact decide_eq_true (succeed response member)

end HsmSimulator
