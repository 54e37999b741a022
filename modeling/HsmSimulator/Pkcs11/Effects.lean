import HsmSimulator.Objects.Correctness
import HsmSimulator.Pkcs11.CreationCalls

/-!
# What one call does

Every call on a well-formed state ends in one of the listed effects, each with the
checks that passed before it.  The invariants of later modules are proved by cases on
the effect and never look into the entry points.
-/

namespace HsmSimulator

open Checks FileSystem

/-- The calls that may succeed without changing anything. -/
def Call.reads : Call → Bool
  | .getInfo .. => true
  | .getSlotList .. => true
  | .getSlotInfo .. => true
  | .getTokenInfo .. => true
  | .getMechanismList .. => true
  | .getMechanismInfo .. => true
  | .getSessionInfo .. => true
  | .getAttributeValue .. => true
  | .sign .. => true
  | .signFinal .. => true
  | .wrapKey .. => true
  | .generateRandom .. => true
  | _ => false

/-- What a call may do to the record of its session: it stays the same session, and what
becomes pending on it is accessible to it. -/
structure SessionUpdate (state : State) (sessionHandle : Nat) (before after : Session) : Prop where
  handle : after.handle = before.handle
  flags : after.flags = before.flags
  slotId : after.slotId = before.slotId
  keyHandle : after.operation.keyHandle = before.operation.keyHandle ∨
    state.Accessible sessionHandle after.operation.keyHandle
  searchMatches : ∀ found ∈ after.searchMatches,
    found ∈ before.searchMatches ∨ state.Accessible sessionHandle found

/-- What a login has established. -/
structure LoginGuard (state : State) (sessionHandle : Nat) (session : Session) (slot : Slot)
    (role : UserType) (pin : Buffer) : Prop where
  sessionFound : state.findSession sessionHandle = some session
  slotFound : state.findSlot session.slotId = some slot
  nobody : slot.loggedInUser = none
  readWrite : role = .so → session.isReadWrite = true ∧ state.hasReadOnlySession slot.id = false
  accepted : acceptPin slot role pin = .ok ()

/-- The slot, the role and the value a PIN call is for. -/
def Call.pinRequest (state : State) : Call → Option (Slot × UserType × Buffer)
  | .initPin sessionHandle pin =>
      (state.sessionSlot sessionHandle).map fun slot => (slot, .user, pin)
  | .setPin sessionHandle _ newPin =>
      (state.sessionSlot sessionHandle).map fun slot =>
        (slot, slot.loggedInUser.getD .user, newPin)
  | _ => none

/-- The slot after its last session was closed. -/
def State.endLogin (state : State) (slot : Slot) : State := state.putSlot slot.id slot.loggedOut

/-- The effects of a call. -/
inductive Effect (host : Host) (oracle : Oracle) (state : State) :
    Call → State × Response → Prop
  | quiet {call : Call} {response : Response} : (call.reads = true ∨ response.rv ≠ .ok) →
      response.output.handles = [] → Effect host oracle state call (state, response)
  | updated {call : Call} {sessionHandle : Nat} {session changed : Session} {response : Response} :
      call.session? = some sessionHandle → state.findSession sessionHandle = some session →
      SessionUpdate state sessionHandle session changed → response.output.handles = [] →
      Effect host oracle state call (state.putSession sessionHandle changed, response)
  | opened {slotId flags : Nat} {slot : Slot} : state.findSlot slotId = some slot →
      (flags &&& ckfRwSession ≠ 0 ∨ slot.loggedInUser ≠ some .so) →
      Effect host oracle state (.openSession slotId flags true)
        ({ state with
            nextSessionHandle := state.nextSessionHandle + 1
            sessions := state.sessions.insert state.nextSessionHandle
              (.opened state.nextSessionHandle flags slotId) },
          .success (.handle state.nextSessionHandle))
  | closed {sessionHandle : Nat} {session : Session} :
      state.findSession sessionHandle = some session →
      (state.dropSession sessionHandle).hasSession session.slotId = true →
      Effect host oracle state (.closeSession sessionHandle)
        (state.dropSession sessionHandle, .plain .ok)
  | closedLast {sessionHandle : Nat} {session : Session} {slot : Slot} :
      state.findSession sessionHandle = some session →
      state.findSlot session.slotId = some slot →
      (state.dropSession sessionHandle).hasSession slot.id = false →
      Effect host oracle state (.closeSession sessionHandle)
        ((state.dropSession sessionHandle).endLogin slot, .plain .ok)
  | closedAll {slot : Slot} : state.findSlot slot.id = some slot →
      Effect host oracle state (.closeAllSessions slot.id)
        (({ state with
            sessions := state.sessions.eraseIf fun _ session => session.slotId = slot.id
            objects := state.objects.eraseIf fun _ object =>
              object.slotId = slot.id && object.ownerSession ≠ 0 } : State).endLogin slot,
          .plain .ok)
  | loggedIn {sessionHandle userType : Nat} {pin : Buffer} {session : Session} {slot : Slot}
      {role : UserType} : LoginGuard state sessionHandle session slot role pin →
      UserType.ofNumber userType = some role →
      Effect host oracle state (.login sessionHandle userType pin)
        (state.putSlot slot.id { slot with loggedInUser := some role }, .plain .ok)
  | loggedOut {sessionHandle : Nat} {session : Session} {slot : Slot} :
      state.findSession sessionHandle = some session →
      state.findSlot session.slotId = some slot → slot.loggedInUser ≠ none →
      Effect host oracle state (.logout sessionHandle)
        ((state.endLogin slot).purgeSlot slot.id, .plain .ok)
  | pinChanged {call : Call} {sessionHandle : Nat} {session : Session} {slot : Slot}
      {role : UserType} {pin : Buffer} :
      call.session? = some sessionHandle → state.findSession sessionHandle = some session →
      session.isReadWrite = true → state.findSlot session.slotId = some slot →
      call.pinRequest state = some (slot, role, pin) → validatePin pin = .ok () →
      Effect host oracle state call
        (({ state with
            disk := state.disk.writeFile (slot.pinPath role) pin.content } : State).putSlot
            slot.id (slot.withPin role pin.content),
          .plain .ok)
  /-- The temporary file of a PIN could not be removed. -/
  | pinLeft {call : Call} {sessionHandle : Nat} {session : Session} {slot : Slot}
      {role : UserType} {pin : Buffer} {left : Bytes} :
      call.session? = some sessionHandle → state.findSession sessionHandle = some session →
      state.findSlot session.slotId = some slot →
      call.pinRequest state = some (slot, role, pin) →
      oracle.removeFails (slot.pinTemporary role) = true →
      Effect host oracle state call
        ({ state with disk := state.disk.writeFile (slot.pinTemporary role) left },
          .plain .deviceError)
  | sessionObjectChanged {sessionHandle handle : Nat} {attributes : Template}
      {object changed : Object} :
      AttributeChange state sessionHandle handle attributes object changed →
      object.ownerSession ≠ 0 →
      Effect host oracle state (.setAttributeValue sessionHandle handle attributes)
        ({ state with objects := state.objects.insert handle changed }, .plain .ok)
  | tokenObjectChanged {sessionHandle handle : Nat} {attributes : Template}
      {object changed : Object} {records : Metadata.Records} :
      AttributeChange state sessionHandle handle attributes object changed →
      object.ownerSession = 0 →
      records = collectMetadata oracle state.objects object.path (some changed) →
      (Metadata.encode records).complete = true →
      Effect host oracle state (.setAttributeValue sessionHandle handle attributes)
        ({ state with
            disk := state.disk.writeFile (Metadata.path object.path) (Metadata.encode records).bytes
            objects := state.objects.insert handle changed },
          .plain .ok)
  /-- The temporary file of metadata could not be removed. -/
  | metadataLeft {sessionHandle handle : Nat} {attributes : Template} {object changed : Object}
      {left : Bytes} : AttributeChange state sessionHandle handle attributes object changed →
      object.ownerSession = 0 → oracle.removeFails (Metadata.temporaryPath object.path) = true →
      Effect host oracle state (.setAttributeValue sessionHandle handle attributes)
        ({ state with disk := state.disk.writeFile (Metadata.temporaryPath object.path) left },
          .plain .deviceError)
  | sessionObjectDestroyed {sessionHandle handle : Nat} {object : Object} :
      Destruction state sessionHandle handle object → object.ownerSession ≠ 0 →
      Effect host oracle state (.destroyObject sessionHandle handle)
        ({ state with objects := state.objects.erase handle }, .plain .ok)
  | keyFileDestroyed {sessionHandle handle : Nat} {object : Object} {disk : FileSystem} {rv : Rv} :
      Destruction state sessionHandle handle object → object.ownerSession = 0 →
      (rv = .ok ∧ disk = (state.disk.removeFile object.path).removeFile
          (Metadata.path object.path) ∨
        rv ≠ .ok ∧ disk = state.disk.removeFile object.path ∧
          oracle.removeFails (Metadata.path object.path) = true) →
      Effect host oracle state (.destroyObject sessionHandle handle)
        ({ state with
            disk := disk
            objects := state.objects.eraseIf fun _ other => other.path = object.path },
          .plain rv)
  | creation {call : Call} {sessionHandle : Nat} {result : State × Response} :
      call.creates = true → call.session? = some sessionHandle →
      CreationCall host oracle state call sessionHandle result →
      Effect host oracle state call result
  | finalized : Effect host oracle state (.cFinalize false)
      ({ state with slots := ∅, sessions := ∅, objects := ∅, initialized := false }, .plain .ok)
  /-- Loading is described where it is defined. -/
  | initializing : state.initialized = false →
      Effect host oracle state (.cInitialize false) (cInitialize host state oracle false)

/-- A destruction touches the key file and its metadata only. -/
theorem keyFileRemoval_agrees {before after : FileSystem} {path : Path} {touched : List Path}
    {whole broken stuck : Prop}
    (removed : whole ∧ after = (before.removeFile path).removeFile (Metadata.path path) ∨
      broken ∧ after = before.removeFile path ∧ stuck)
    (file : path ∈ touched) (metadata : Metadata.path path ∈ touched) :
    AgreesOutside touched before after := by
  have first := (AgreesOutside.refl touched before).removeFile file
  rcases removed with ⟨_, rfl⟩ | ⟨_, rfl, _⟩
  · exact first.removeFile metadata
  · exact first

/-! ## Sessions and login -/

variable {host : Host} {oracle : Oracle} {state : State}

theorem openSession_effect (wellFormed : WellFormed state) (slotId flags : Nat)
    (hasHandle : Bool) :
    Effect host oracle state (.openSession slotId flags hasHandle)
      (openSession state slotId flags hasHandle) := by
  unfold openSession
  cases checks : openSessionChecks state slotId flags hasHandle with
  | error code =>
      refine .quiet (Or.inr ?_) rfl
      rintro rfl
      simp [openSessionChecks, bind_eq_error_iff] at checks
  | ok value =>
      simp only [openSessionChecks, bind_eq_ok_iff, fetch_eq_ok_iff, require_eq_ok_iff] at checks
      rcases checks with ⟨slot, slotFound, _, rfl, _, _, noOfficer⟩
      have fresh : state.sessions.get? state.nextSessionHandle = none :=
        wellFormed.freshSession (Nat.le_refl _)
      dsimp only
      rw [OrderedMap.emplace_of_fresh fresh]
      exact .opened slotFound noOfficer

theorem closeSession_effect (wellFormed : WellFormed state) (sessionHandle : Nat) :
    Effect host oracle state (.closeSession sessionHandle) (closeSession state sessionHandle) := by
  unfold closeSession
  cases found : state.findSession sessionHandle with
  | none => exact .quiet (Or.inr (by simp)) rfl
  | some session =>
      rcases wellFormed.sessionSlot sessionHandle session found with ⟨slot, slotFound⟩
      have slotKey := wellFormed.slotKey _ _ slotFound
      have still : (state.dropSession sessionHandle).findSlot session.slotId = some slot :=
        slotFound
      dsimp only
      split
      · rename_i others
        exact .closed found others
      · rename_i last
        rw [Bool.not_eq_true, ← slotKey] at last
        rw [still]
        dsimp only
        rw [← slotKey]
        exact .closedLast found slotFound last

theorem closeAllSessions_effect (wellFormed : WellFormed state) (slotId : Nat) :
    Effect host oracle state (.closeAllSessions slotId) (closeAllSessions state slotId) := by
  unfold closeAllSessions
  cases found : state.findSlot slotId with
  | none => exact .quiet (Or.inr (by simp)) rfl
  | some slot =>
      have slotKey := wellFormed.slotKey _ _ found
      subst slotKey
      exact .closedAll found

theorem acceptPin_ne_ok (slot : Slot) (role : UserType) (pin : Buffer) :
    acceptPin slot role pin ≠ .error .ok := by
  unfold acceptPin
  split
  · simp
  · simp [checkPin, bind_eq_error_iff]

theorem loginChecks_ne_ok (state : State) (sessionHandle userType : Nat) (pin : Buffer) :
    loginChecks state sessionHandle userType pin ≠ .error .ok := by
  simp only [loginChecks, soLoginChecks, ne_eq, bind_eq_error_iff, fetch_eq_error_iff,
    require_eq_error_iff, acceptPin_ne_ok, pure_eq_ok, Exception.code]
  rintro (⟨_, same⟩ | ⟨session, _, ⟨_, same⟩ | ⟨role, _, ⟨_, same⟩ | ⟨_, _, ⟨_, same⟩ | ⟨slot, _,
    ⟨_, same⟩ | ⟨_, _, (⟨_, same⟩ | ⟨_, _, _, same⟩) | ⟨_, _, same | ⟨_, _, same⟩⟩⟩⟩⟩⟩⟩)
  all_goals first | contradiction | skip
  split at same <;> contradiction

theorem login_effect (wellFormed : WellFormed state) (sessionHandle userType : Nat)
    (pin : Buffer) :
    Effect host oracle state (.login sessionHandle userType pin)
      (login state sessionHandle userType pin) := by
  unfold login
  cases checks : loginChecks state sessionHandle userType pin with
  | error code =>
      refine .quiet (Or.inr ?_) rfl
      rintro rfl
      exact loginChecks_ne_ok _ _ _ _ checks
  | ok result =>
      rcases result with ⟨session, slot, role⟩
      simp only [loginChecks, bind_eq_ok_iff, fetch_eq_ok_iff, require_eq_ok_iff, pure_eq_ok,
        Except.ok.injEq, Prod.mk.injEq] at checks
      rcases checks with ⟨found, sessionFound, asked, isRole, _, _, stored, slotOfSession, _,
        nobody,
        _, officer, _, accepted, rfl, rfl, rfl⟩
      rcases State.sessionSlot_eq_some_iff.mp slotOfSession with ⟨other, otherFound, slotFound⟩
      rw [sessionFound] at otherFound
      cases otherFound
      have slotKey := wellFormed.slotKey _ _ slotFound
      dsimp only
      rw [← slotKey]
      simp only [soLoginChecks, bind_eq_ok_iff, require_eq_ok_iff] at officer
      rcases officer with ⟨_, readWrite, noReader⟩
      have guard : LoginGuard state sessionHandle found _ _ pin :=
        ⟨sessionFound, slotFound, nobody,
          fun isOfficer => ⟨readWrite isOfficer, noReader isOfficer⟩, accepted⟩
      exact .loggedIn guard isRole

theorem logout_effect (wellFormed : WellFormed state) (sessionHandle : Nat) :
    Effect host oracle state (.logout sessionHandle) (logout state sessionHandle) := by
  unfold logout
  split
  · rename_i code checks
    refine .quiet (Or.inr ?_) rfl
    rintro rfl
    simp [bind_eq_error_iff, Exception.code] at checks
  · rename_i session slot checks
    simp only [bind_eq_ok_iff, fetch_eq_ok_iff, require_eq_ok_iff, pure_eq_ok, Except.ok.injEq,
      Prod.mk.injEq] at checks
    rcases checks with ⟨found, sessionFound, stored, slotOfSession, _, somebody, rfl, rfl⟩
    rcases State.sessionSlot_eq_some_iff.mp slotOfSession with ⟨other, otherFound, slotFound⟩
    rw [sessionFound] at otherFound
    cases otherFound
    have slotKey := wellFormed.slotKey _ _ slotFound
    rw [← slotKey]
    exact .loggedOut sessionFound slotFound somebody

/-! ## PINs -/

theorem validatePin_ne_ok (pin : Buffer) : validatePin pin ≠ .error .ok := by
  simp [validatePin, bind_eq_error_iff]

/-- Storing a PIN replaces its file and the PIN in memory, or changes nothing, or leaves
the temporary file. -/
theorem storePin_cases (disk : FileSystem) (oracle : Oracle) (slot : Slot) (role : UserType)
    (pin : Buffer) :
    (validatePin pin = .ok () ∧ storePin disk oracle slot role pin =
        (disk.writeFile (slot.pinPath role) pin.content, .ok (slot.withPin role pin.content))) ∨
      (∃ code, code ≠ Rv.ok ∧ storePin disk oracle slot role pin = (disk, .error code)) ∨
      ∃ left, oracle.removeFails (slot.pinTemporary role) = true ∧
        storePin disk oracle slot role pin =
          (disk.writeFile (slot.pinTemporary role) left, .error .deviceError) := by
  unfold storePin
  cases valid : validatePin pin with
  | error code =>
      right
      left
      refine ⟨code, ?_, rfl⟩
      rintro rfl
      exact validatePin_ne_ok pin valid
  | ok value =>
      by_cases blocked : (oracle.statFails (slot.pinTemporary role) ||
          disk.hasPath (slot.pinTemporary role)) = true
      · right
        left
        exact ⟨.deviceError, by decide, if_pos blocked⟩
      · have absent : disk.hasPath (slot.pinTemporary role) = false := by
          rw [Bool.or_eq_true, not_or] at blocked
          exact Bool.eq_false_of_not_eq_true blocked.2
        dsimp only
        rw [if_neg blocked]
        rcases publish_cases oracle (slot.pinPath role) absent pin.content true with
          ⟨published, _⟩ | unchanged | ⟨left, leftover, stuck⟩
        · left
          rw [published]
          exact ⟨rfl, rfl⟩
        · right
          left
          rw [unchanged]
          exact ⟨.deviceError, by decide, rfl⟩
        · right
          right
          rw [leftover]
          exact ⟨left, stuck, rfl⟩

/-- The session and the slot of a PIN call. -/
structure PinSession (state : State) (sessionHandle : Nat) (session : Session) (slot : Slot) :
    Prop where
  sessionFound : state.findSession sessionHandle = some session
  readWrite : session.isReadWrite = true
  slotOfSession : state.sessionSlot sessionHandle = some slot
  slotFound : state.findSlot session.slotId = some slot

theorem pinSession_of {sessionHandle : Nat} {session : Session} {slot : Slot}
    (sessionFound : state.findSession sessionHandle = some session)
    (readWrite : session.isReadWrite = true)
    (slotOfSession : state.sessionSlot sessionHandle = some slot) :
    PinSession state sessionHandle session slot := by
  rcases State.sessionSlot_eq_some_iff.mp slotOfSession with ⟨other, otherFound, slotFound⟩
  rw [sessionFound] at otherFound
  cases otherFound
  exact ⟨sessionFound, readWrite, slotOfSession, slotFound⟩

theorem initPinChecks_eq_ok {sessionHandle : Nat} {session : Session} {slot : Slot}
    (passes : initPinChecks state sessionHandle = .ok (session, slot)) :
    PinSession state sessionHandle session slot ∧ slot.loggedInUser = some .so := by
  simp only [initPinChecks, bind_eq_ok_iff, fetch_eq_ok_iff, require_eq_ok_iff, pure_eq_ok,
    Except.ok.injEq, Prod.mk.injEq] at passes
  rcases passes with ⟨_, sessionFound, _, readWrite, _, slotOfSession, _, officer, rfl, rfl⟩
  exact ⟨pinSession_of sessionFound readWrite slotOfSession, officer⟩

theorem initPinChecks_ne_ok (sessionHandle : Nat) :
    initPinChecks state sessionHandle ≠ .error .ok := by
  simp [initPinChecks, bind_eq_error_iff, Exception.code]

theorem setPinChecks_eq_ok {sessionHandle : Nat} {oldPin newPin : Buffer} {session : Session}
    {slot : Slot} {role : UserType}
    (passes : setPinChecks state sessionHandle oldPin newPin = .ok (session, slot, role)) :
    PinSession state sessionHandle session slot ∧ role = slot.loggedInUser.getD .user ∧
      acceptPin slot role oldPin = .ok () := by
  simp only [setPinChecks, bind_eq_ok_iff, fetch_eq_ok_iff, require_eq_ok_iff, pure_eq_ok,
    Except.ok.injEq, Prod.mk.injEq] at passes
  rcases passes with
    ⟨_, sessionFound, _, readWrite, _, _, _, slotOfSession, _, accepted, rfl, rfl, rfl⟩
  exact ⟨pinSession_of sessionFound readWrite slotOfSession, rfl, accepted⟩

theorem setPinChecks_ne_ok (sessionHandle : Nat) (oldPin newPin : Buffer) :
    setPinChecks state sessionHandle oldPin newPin ≠ .error .ok := by
  simp [setPinChecks, bind_eq_error_iff, acceptPin_ne_ok, Exception.code]

/-- A PIN change on a read-write session. -/
theorem changePin_effect (wellFormed : WellFormed state) {call : Call} {sessionHandle : Nat}
    {session : Session} {slot : Slot} {role : UserType} {pin : Buffer}
    (onSession : call.session? = some sessionHandle)
    (sessionFound : state.findSession sessionHandle = some session)
    (readWrite : session.isReadWrite = true)
    (slotFound : state.findSlot session.slotId = some slot)
    (asked : call.pinRequest state = some (slot, role, pin)) :
    Effect host oracle state call (changePin state oracle session.slotId slot role pin) := by
  have slotKey := wellFormed.slotKey _ _ slotFound
  unfold changePin
  rcases storePin_cases state.disk oracle slot role pin with
    ⟨valid, stored⟩ | ⟨code, failed, refused⟩ | ⟨left, stuck, leftover⟩
  · rw [stored, ← slotKey]
    exact .pinChanged onSession sessionFound readWrite slotFound asked valid
  · rw [refused]
    exact .quiet (Or.inr failed) rfl
  · rw [leftover]
    exact .pinLeft onSession sessionFound slotFound asked stuck

theorem initPin_effect (wellFormed : WellFormed state) (sessionHandle : Nat) (pin : Buffer) :
    Effect host oracle state (.initPin sessionHandle pin)
      (initPin state oracle sessionHandle pin) := by
  unfold initPin
  cases checks : initPinChecks state sessionHandle with
  | error code =>
      refine .quiet (Or.inr ?_) rfl
      rintro rfl
      exact initPinChecks_ne_ok _ checks
  | ok result =>
      rcases result with ⟨session, slot⟩
      rcases initPinChecks_eq_ok checks with ⟨⟨sessionFound, readWrite, isSlot, slotFound⟩, _⟩
      exact changePin_effect wellFormed rfl sessionFound readWrite slotFound
        (by simp [Call.pinRequest, isSlot])

theorem setPin_effect (wellFormed : WellFormed state) (sessionHandle : Nat)
    (oldPin newPin : Buffer) :
    Effect host oracle state (.setPin sessionHandle oldPin newPin)
      (setPin state oracle sessionHandle oldPin newPin) := by
  unfold setPin
  cases checks : setPinChecks state sessionHandle oldPin newPin with
  | error code =>
      refine .quiet (Or.inr ?_) rfl
      rintro rfl
      exact setPinChecks_ne_ok _ _ _ checks
  | ok result =>
      rcases result with ⟨session, slot, role⟩
      rcases setPinChecks_eq_ok checks with
        ⟨⟨sessionFound, readWrite, isSlot, slotFound⟩, rfl, _⟩
      exact changePin_effect wellFormed rfl sessionFound readWrite slotFound
        (by simp [Call.pinRequest, isSlot])

/-! ## Objects -/

theorem alterableObject_ne_ok (state : State) (sessionHandle handle required : Nat) :
    alterableObject state sessionHandle handle required ≠ .error .ok := by
  simp [alterableObject, bind_eq_error_iff, requireUserLogin_ne_ok]

theorem changeAttributes_ne_ok (object changed : Object) (entries : List Attribute) :
    changeAttributes object changed entries ≠ .error .ok := by
  induction entries generalizing changed with
  | nil => simp [changeAttributes]
  | cons entry rest ih =>
      unfold changeAttributes
      split
      · exact ih _
      · split
        · exact ih _
        · split
          · split
            · simp
            · exact ih _
          · simp

theorem changedObject_ne_ok (state : State) (sessionHandle handle : Nat) (attributes : Template) :
    changedObject state sessionHandle handle attributes ≠ .error .ok := by
  simp [changedObject, bind_eq_error_iff, alterableObject_ne_ok, validateCreationTemplate_ne_ok,
    changeAttributes_ne_ok]

/-- An attribute change keeps everything but label, id and policies. -/
theorem AttributeChange.core_eq {sessionHandle handle : Nat} {attributes : Template}
    {object changed : Object}
    (change : AttributeChange state sessionHandle handle attributes object changed) :
    changed.core = object.core := by
  rcases change.relabelled with ⟨label, id, rfl⟩
  rfl

theorem AttributeChange.handle_eq {sessionHandle handle : Nat} {attributes : Template}
    {object changed : Object}
    (change : AttributeChange state sessionHandle handle attributes object changed) :
    changed.handle = object.handle := by
  rcases change.relabelled with ⟨label, id, rfl⟩
  rfl

/-- How a change of attributes ends. -/
inductive SettingEnds (oracle : Oracle) (state : State) (sessionHandle handle : Nat)
    (attributes : Template) : State × Response → Prop
  | refused {code : Rv} : code ≠ .ok →
      SettingEnds oracle state sessionHandle handle attributes (state, .plain code)
  | session {object changed : Object} :
      AttributeChange state sessionHandle handle attributes object changed →
      object.ownerSession ≠ 0 →
      SettingEnds oracle state sessionHandle handle attributes
        ({ state with objects := state.objects.insert handle changed }, .plain .ok)
  | published {object changed : Object} {records : Metadata.Records} {disk : FileSystem} :
      AttributeChange state sessionHandle handle attributes object changed →
      object.ownerSession = 0 →
      records = collectMetadata oracle state.objects object.path (some changed) →
      (Metadata.encode records).complete = true →
      Metadata.create state.disk oracle object.path records true = (disk, true) →
      disk = state.disk.writeFile (Metadata.path object.path) (Metadata.encode records).bytes →
      SettingEnds oracle state sessionHandle handle attributes
        ({ state with disk := disk, objects := state.objects.insert handle changed }, .plain .ok)
  /-- The temporary file of metadata could not be removed. -/
  | left {object changed : Object} {bytes : Bytes} :
      AttributeChange state sessionHandle handle attributes object changed →
      object.ownerSession = 0 → oracle.removeFails (Metadata.temporaryPath object.path) = true →
      SettingEnds oracle state sessionHandle handle attributes
        ({ state with disk := state.disk.writeFile (Metadata.temporaryPath object.path) bytes },
          .plain .deviceError)

theorem setAttributeValue_ends (oracle : Oracle) (sessionHandle handle : Nat)
    (attributes : Template) :
    SettingEnds oracle state sessionHandle handle attributes
      (setAttributeValue state oracle sessionHandle handle attributes) := by
  unfold setAttributeValue
  cases passes : changedObject state sessionHandle handle attributes with
  | error code =>
      apply SettingEnds.refused
      rintro rfl
      exact changedObject_ne_ok _ _ _ _ passes
  | ok changed =>
      rcases changedObject_eq_ok passes with ⟨object, change⟩
      have sameOwner := ownerSession_eq_of_core change.core_eq
      have samePath := path_eq_of_core change.core_eq
      dsimp only
      split
      · rename_i token
        rw [sameOwner] at token
        rw [samePath]
        rcases Metadata.create_cases state.disk oracle object.path
            (collectMetadata oracle state.objects object.path (some changed)) true with
          ⟨published, complete, _⟩ | unchanged | ⟨bytes, leftover, stuck⟩
        · rw [published]
          exact .published change token rfl complete published rfl
        · rw [unchanged]
          exact .refused (by simp)
        · rw [leftover]
          exact .left change token stuck
      · rename_i notToken
        rw [sameOwner] at notToken
        exact .session change notToken

theorem setAttributeValue_effect (sessionHandle handle : Nat) (attributes : Template) :
    Effect host oracle state (.setAttributeValue sessionHandle handle attributes)
      (setAttributeValue state oracle sessionHandle handle attributes) := by
  have ends := @setAttributeValue_ends state oracle sessionHandle handle attributes
  generalize setAttributeValue state oracle sessionHandle handle attributes = result at ends ⊢
  cases ends with
  | refused failed => exact .quiet (Or.inr failed) rfl
  | session change notToken => exact .sessionObjectChanged change notToken
  | published change token isRecords complete _ isDisk =>
      rw [isDisk]
      exact .tokenObjectChanged change token isRecords complete
  | left change token stuck => exact .metadataLeft change token stuck

theorem destroyObject_effect (sessionHandle handle : Nat) :
    Effect host oracle state (.destroyObject sessionHandle handle)
      (destroyObject state oracle sessionHandle handle) := by
  unfold destroyObject
  cases passes : destroyableObject state sessionHandle handle with
  | error code =>
      refine .quiet (Or.inr ?_) rfl
      rintro rfl
      simp [destroyableObject, bind_eq_error_iff, alterableObject_ne_ok] at passes
  | ok object =>
      have destruction := destroyableObject_eq_ok passes
      dsimp only
      split
      · rename_i token
        unfold destroyKeyFile FileSystem.remove
        cases removed : oracle.removeFails object.path with
        | true => exact .quiet (Or.inr (by simp)) rfl
        | false =>
            cases left : oracle.removeFails (Metadata.path object.path) with
            | true =>
                exact .keyFileDestroyed destruction token (Or.inr ⟨by simp, rfl, left⟩)
            | false => exact .keyFileDestroyed destruction token (Or.inl ⟨by simp, rfl⟩)
      · rename_i notToken
        exact .sessionObjectDestroyed destruction notToken

/-! ## Searching -/

theorem searchingSession_eq_ok {sessionHandle : Nat} {attributes : Template} {session : Session}
    (passes : searchingSession state sessionHandle attributes = .ok session) :
    state.findSession sessionHandle = some session := by
  simp only [searchingSession, bind_eq_ok_iff, fetch_eq_ok_iff, require_eq_ok_iff, pure_eq_ok,
    Except.ok.injEq] at passes
  rcases passes with ⟨found, sessionFound, _, _, _, _, _, _, rfl⟩
  exact sessionFound

theorem findObjectsInit_effect (sessionHandle : Nat) (attributes : Template) :
    Effect host oracle state (.findObjectsInit sessionHandle attributes)
      (findObjectsInit host state sessionHandle attributes) := by
  unfold findObjectsInit
  cases passes : searchingSession state sessionHandle attributes with
  | error code =>
      refine .quiet (Or.inr ?_) rfl
      rintro rfl
      simp [searchingSession, bind_eq_error_iff] at passes
  | ok session =>
      have sessionFound := searchingSession_eq_ok passes
      refine .updated rfl sessionFound ⟨rfl, rfl, rfl, Or.inl rfl, ?_⟩ rfl
      intro handle listed
      right
      rcases OrderedMap.mem_keys_iff.mp listed with ⟨object, found⟩
      rw [OrderedMap.get?_filter, Option.filter_eq_some_iff] at found
      exact matchesTemplate_accessible sessionFound found.1 found.2

theorem findObjects_effect (sessionHandle : Nat) (hasOutput : Bool) (capacity : Nat)
    (hasCount : Bool) :
    Effect host oracle state (.findObjects sessionHandle hasOutput capacity hasCount)
      (findObjects state sessionHandle hasOutput capacity hasCount) := by
  unfold findObjects
  split
  · rename_i code passes
    refine .quiet (Or.inr ?_) rfl
    rintro rfl
    simp [bind_eq_error_iff] at passes
  · rename_i session passes
    simp only [bind_eq_ok_iff, fetch_eq_ok_iff, require_eq_ok_iff, pure_eq_ok, Except.ok.injEq]
      at passes
    rcases passes with ⟨found, sessionFound, _, _, _, _, rfl⟩
    exact .updated rfl sessionFound ⟨rfl, rfl, rfl, Or.inl rfl, fun _ listed => Or.inl listed⟩ rfl

theorem findObjectsFinal_effect (sessionHandle : Nat) :
    Effect host oracle state (.findObjectsFinal sessionHandle)
      (findObjectsFinal state sessionHandle) := by
  unfold findObjectsFinal
  split
  · rename_i code passes
    refine .quiet (Or.inr ?_) rfl
    rintro rfl
    simp [bind_eq_error_iff] at passes
  · rename_i session passes
    simp only [bind_eq_ok_iff, fetch_eq_ok_iff, require_eq_ok_iff, pure_eq_ok, Except.ok.injEq]
      at passes
    rcases passes with ⟨found, sessionFound, _, _, rfl⟩
    exact .updated rfl sessionFound ⟨rfl, rfl, rfl, Or.inl rfl, by simp⟩ rfl

/-! ## Signatures -/

theorem signingSession_ne_ok (state : State) (sessionHandle : Nat) (verify : Bool) :
    signingSession state sessionHandle verify ≠ .error .ok := by
  simp [signingSession, bind_eq_error_iff]

theorem signingSession_eq_ok {sessionHandle : Nat} {verify : Bool} {session : Session}
    (passes : signingSession state sessionHandle verify = .ok session) :
    state.findSession sessionHandle = some session ∧ session.operation.active = true ∧
      session.operation.verify = verify := by
  simp only [signingSession, bind_eq_ok_iff, fetch_eq_ok_iff, require_eq_ok_iff, pure_eq_ok,
    Except.ok.injEq] at passes
  rcases passes with ⟨found, sessionFound, _, pending, rfl⟩
  exact ⟨sessionFound, pending⟩

theorem SessionUpdate.endOperation (state : State) (sessionHandle : Nat) (session : Session) :
    SessionUpdate state sessionHandle session session.endOperation :=
  ⟨rfl, rfl, rfl, Or.inl rfl, fun _ listed => Or.inl listed⟩

theorem appendSignatureData_effect {call : Call} {sessionHandle : Nat} (data : Buffer)
    (verify : Bool) (onSession : call.session? = some sessionHandle) :
    Effect host oracle state call (appendSignatureData state sessionHandle data verify) := by
  unfold appendSignatureData
  split
  · rename_i code passes
    refine .quiet (Or.inr ?_) rfl
    rintro rfl
    simp [bind_eq_error_iff, signingSession_ne_ok] at passes
  · rename_i session passes
    simp only [bind_eq_ok_iff, require_eq_ok_iff, pure_eq_ok, Except.ok.injEq] at passes
    rcases passes with ⟨found, pending, _, _, rfl⟩
    have sessionFound := (signingSession_eq_ok pending).1
    split
    · exact .updated onSession sessionFound (.endOperation _ _ _) rfl
    · split
      · exact .updated onSession sessionFound (.endOperation _ _ _) rfl
      · exact .updated onSession sessionFound
          ⟨rfl, rfl, rfl, Or.inl rfl, fun _ listed => Or.inl listed⟩ rfl

theorem completeSign_effect {call : Call} {sessionHandle : Nat} {session : Session} (data : Bytes)
    (signature : OutputBuffer) (reads : call.reads = true)
    (onSession : call.session? = some sessionHandle)
    (sessionFound : state.findSession sessionHandle = some session) :
    Effect host oracle state call
      (completeSign host oracle state sessionHandle session data signature) := by
  unfold completeSign
  dsimp only
  split
  · exact .updated onSession sessionFound (.endOperation _ _ _) rfl
  · exact .quiet (Or.inl reads) rfl

theorem sign_effect (sessionHandle : Nat) (data : Buffer) (signature : OutputBuffer)
    (hasLength : Bool) :
    Effect host oracle state (.sign sessionHandle data signature hasLength)
      (sign host oracle state sessionHandle data signature hasLength) := by
  unfold sign
  split
  · exact .quiet (Or.inl rfl) rfl
  · rename_i session passes
    simp only [bind_eq_ok_iff, require_eq_ok_iff, pure_eq_ok, Except.ok.injEq] at passes
    rcases passes with ⟨found, pending, _, _, rfl⟩
    exact completeSign_effect _ _ rfl rfl (signingSession_eq_ok pending).1

theorem signFinal_effect (sessionHandle : Nat) (signature : OutputBuffer) (hasLength : Bool) :
    Effect host oracle state (.signFinal sessionHandle signature hasLength)
      (signFinal host oracle state sessionHandle signature hasLength) := by
  unfold signFinal
  split
  · exact .quiet (Or.inl rfl) rfl
  · rename_i session passes
    simp only [bind_eq_ok_iff, require_eq_ok_iff, pure_eq_ok, Except.ok.injEq] at passes
    rcases passes with ⟨found, pending, _, _, rfl⟩
    exact completeSign_effect _ _ rfl rfl (signingSession_eq_ok pending).1

theorem executeVerify_output (host : Host) (oracle : Oracle) (state : State) (sessionHandle : Nat)
    (operation : Operation) (data : Bytes) (signature : Buffer) :
    (executeVerify host oracle state sessionHandle operation data signature).output = .none := by
  unfold executeVerify
  split <;> rfl

theorem completeVerify_effect {call : Call} {sessionHandle : Nat} {session : Session}
    (data : Bytes) (signature : Buffer) (onSession : call.session? = some sessionHandle)
    (sessionFound : state.findSession sessionHandle = some session) :
    Effect host oracle state call
      (completeVerify host oracle state sessionHandle session data signature) := by
  unfold completeVerify
  refine .updated onSession sessionFound (.endOperation _ _ _) ?_
  rw [executeVerify_output]
  rfl

theorem verify_effect (sessionHandle : Nat) (data signature : Buffer) :
    Effect host oracle state (.verify sessionHandle data signature)
      (verify host oracle state sessionHandle data signature) := by
  unfold verify
  split
  · rename_i code passes
    refine .quiet (Or.inr ?_) rfl
    rintro rfl
    simp [bind_eq_error_iff, signingSession_ne_ok] at passes
  · rename_i session passes
    simp only [bind_eq_ok_iff, require_eq_ok_iff, pure_eq_ok, Except.ok.injEq] at passes
    rcases passes with ⟨found, pending, _, _, rfl⟩
    exact completeVerify_effect _ _ rfl (signingSession_eq_ok pending).1

theorem verifyFinal_effect (sessionHandle : Nat) (signature : Buffer) :
    Effect host oracle state (.verifyFinal sessionHandle signature)
      (verifyFinal host oracle state sessionHandle signature) := by
  unfold verifyFinal
  split
  · rename_i code passes
    refine .quiet (Or.inr ?_) rfl
    rintro rfl
    simp [bind_eq_error_iff, signingSession_ne_ok] at passes
  · rename_i session passes
    simp only [bind_eq_ok_iff, require_eq_ok_iff, pure_eq_ok, Except.ok.injEq] at passes
    rcases passes with ⟨found, pending, _, _, rfl⟩
    exact completeVerify_effect _ _ rfl (signingSession_eq_ok pending).1

theorem signatureParameters_ne_ok (openSsl : OpenSsl) (mechanism : Mechanism) (key : EvpKey) :
    signatureParameters openSsl mechanism key ≠ .error .ok := by
  unfold signatureParameters
  split
  · split <;> simp [bind_eq_error_iff]
  · simp [bind_eq_error_iff]

theorem objectAccessStatus_ne_ok (state : State) (sessionHandle : Nat) (object : Object) :
    state.objectAccessStatus sessionHandle object ≠ .error .ok := by
  unfold State.objectAccessStatus
  split
  · exact requireUserLogin_ne_ok state sessionHandle
  · simp

theorem signatureOperation_ne_ok (host : Host) (state : State) (sessionHandle : Nat)
    (mechanism : Option Mechanism) (keyHandle : Nat) (verify : Bool) :
    signatureOperation host state sessionHandle mechanism keyHandle verify ≠ .error .ok := by
  simp [signatureOperation, bind_eq_error_iff, objectAccessStatus_ne_ok,
    signatureParameters_ne_ok]

theorem initializeSignature_effect {call : Call} {sessionHandle : Nat}
    (mechanism : Option Mechanism) (keyHandle : Nat) (verify : Bool)
    (onSession : call.session? = some sessionHandle) :
    Effect host oracle state call
      (initializeSignature host state sessionHandle mechanism keyHandle verify) := by
  unfold initializeSignature
  cases passes : signatureOperation host state sessionHandle mechanism keyHandle verify with
  | error code =>
      refine .quiet (Or.inr ?_) rfl
      rintro rfl
      exact signatureOperation_ne_ok _ _ _ _ _ _ passes
  | ok result =>
      rcases result with ⟨session, operation⟩
      simp only [signatureOperation, bind_eq_ok_iff, fetch_eq_ok_iff, require_eq_ok_iff,
        pure_eq_ok, Except.ok.injEq, Prod.mk.injEq] at passes
      rcases passes with ⟨found, sessionFound, _, _, _, _, object, objectFound, _, _, _, access,
        _, _, _, _, _, _, _, _, _, _, rfl, rfl⟩
      refine .updated onSession sessionFound ⟨rfl, rfl, rfl, Or.inr ?_, ?_⟩ rfl
      · exact ⟨object, objectFound, access⟩
      · exact fun _ listed => Or.inl listed

/-! ## All calls -/

theorem listResponse_handles (values : List Nat) (hasList : Bool) (count : Nat) :
    (listResponse values hasList count).output.handles = [] := by
  unfold listResponse
  split <;> [rfl; split] <;> rfl

theorem readAttributes_handles (openSsl : OpenSsl) (object : Object) (attributes : QueryTemplate) :
    (readAttributes openSsl object attributes).output.handles = [] := by
  cases attributes <;> rfl

/-- A reading call issues no handle. -/
theorem service_reads {call : Call} (reads : call.reads = true)
    (unchanged : (service host oracle state call).1 = state)
    (noHandle : (service host oracle state call).2.output.handles = []) :
    Effect host oracle state call (service host oracle state call) := by
  have whole : service host oracle state call =
      (state, (service host oracle state call).2) := Prod.ext unchanged rfl
  rw [whole]
  exact .quiet (Or.inl reads) noHandle

theorem service_effect (wellFormed : WellFormed state) (call : Call) :
    Effect host oracle state call (service host oracle state call) := by
  cases call with
  | cInitialize hasReserved =>
      cases opened : state.initialized with
      | true =>
          have refused : cInitialize host state oracle hasReserved =
              (state, .plain .cryptokiAlreadyInitialized) := if_pos opened
          change Effect host oracle state _ (cInitialize host state oracle hasReserved)
          rw [refused]
          exact .quiet (Or.inr (by simp)) rfl
      | false =>
          cases hasReserved with
          | true =>
              have refused : cInitialize host state oracle true =
                  (state, .plain .argumentsBad) := by simp [cInitialize, opened]
              change Effect host oracle state _ (cInitialize host state oracle true)
              rw [refused]
              exact .quiet (Or.inr (by simp)) rfl
          | false => exact .initializing opened
  | cFinalize hasReserved =>
      change Effect host oracle state _ (cFinalize state hasReserved)
      unfold cFinalize
      split
      · exact .quiet (Or.inr (by simp)) rfl
      · cases hasReserved with
        | true => exact .quiet (Or.inr (by simp)) rfl
        | false => exact .finalized
  | getInfo hasInfo => exact service_reads rfl rfl (by cases hasInfo <;> rfl)
  | getSlotList hasList count =>
      refine service_reads rfl rfl ?_
      cases count with
      | none => rfl
      | some count => exact listResponse_handles _ _ _
  | getSlotInfo slotId hasInfo =>
      refine service_reads rfl rfl ?_
      change (getSlotInfo state slotId hasInfo).output.handles = []
      unfold getSlotInfo
      split <;> rfl
  | getTokenInfo slotId hasInfo =>
      refine service_reads rfl rfl ?_
      change (getTokenInfo state slotId hasInfo).output.handles = []
      unfold getTokenInfo
      split <;> rfl
  | getMechanismList slotId hasList count =>
      refine service_reads rfl rfl ?_
      change (getMechanismList state slotId hasList count).output.handles = []
      unfold getMechanismList
      split
      · rfl
      · exact listResponse_handles _ _ _
  | getMechanismInfo slotId mechanism hasInfo =>
      refine service_reads rfl rfl ?_
      change (getMechanismInfo state slotId mechanism hasInfo).output.handles = []
      unfold getMechanismInfo
      split <;> rfl
  | openSession slotId flags hasHandle => exact openSession_effect wellFormed _ _ _
  | closeSession sessionHandle => exact closeSession_effect wellFormed _
  | closeAllSessions slotId => exact closeAllSessions_effect wellFormed _
  | getSessionInfo sessionHandle hasInfo =>
      refine service_reads rfl rfl ?_
      change (getSessionInfo state sessionHandle hasInfo).output.handles = []
      unfold getSessionInfo
      split <;> rfl
  | initPin sessionHandle pin => exact initPin_effect wellFormed _ _
  | setPin sessionHandle oldPin newPin => exact setPin_effect wellFormed _ _ _
  | login sessionHandle userType pin => exact login_effect wellFormed _ _ _
  | logout sessionHandle => exact logout_effect wellFormed _
  | destroyObject sessionHandle objectHandle => exact destroyObject_effect _ _
  | getAttributeValue sessionHandle objectHandle attributes =>
      refine service_reads rfl rfl ?_
      change
        (getAttributeValue host state sessionHandle objectHandle attributes).output.handles = []
      unfold getAttributeValue
      split
      · rfl
      · exact readAttributes_handles _ _ _
  | setAttributeValue sessionHandle objectHandle attributes =>
      exact setAttributeValue_effect _ _ _
  | findObjectsInit sessionHandle attributes => exact findObjectsInit_effect _ _
  | findObjects sessionHandle hasOutput capacity hasCount => exact findObjects_effect _ _ _ _
  | findObjectsFinal sessionHandle => exact findObjectsFinal_effect _
  | signInit sessionHandle mechanism keyHandle => exact initializeSignature_effect _ _ _ rfl
  | sign sessionHandle data signature hasLength => exact sign_effect _ _ _ _
  | signUpdate sessionHandle data => exact appendSignatureData_effect _ _ rfl
  | signFinal sessionHandle signature hasLength => exact signFinal_effect _ _ _
  | verifyInit sessionHandle mechanism keyHandle => exact initializeSignature_effect _ _ _ rfl
  | verify sessionHandle data signature => exact verify_effect _ _ _
  | verifyUpdate sessionHandle data => exact appendSignatureData_effect _ _ rfl
  | verifyFinal sessionHandle signature => exact verifyFinal_effect _ _
  | generateKey => exact .creation rfl rfl (service_creationCall wellFormed rfl rfl)
  | generateKeyPair => exact .creation rfl rfl (service_creationCall wellFormed rfl rfl)
  | unwrapKey => exact .creation rfl rfl (service_creationCall wellFormed rfl rfl)
  | deriveKey => exact .creation rfl rfl (service_creationCall wellFormed rfl rfl)
  | wrapKey sessionHandle mechanism wrappingHandle keyHandle output hasLength =>
      refine service_reads rfl rfl ?_
      change (wrapKey host oracle state sessionHandle mechanism wrappingHandle keyHandle output
        hasLength).output.handles = []
      unfold wrapKey
      split <;> rfl
  | generateRandom sessionHandle output =>
      refine service_reads rfl rfl ?_
      change (generateRandom oracle state sessionHandle output).output.handles = []
      unfold generateRandom
      split <;> rfl
  | unsupported => exact .quiet (Or.inr (by simp)) rfl

/-- One step of the module is one of the effects. -/
theorem step_effect (wellFormed : WellFormed state) (call : Call) :
    Effect host oracle state call (step host state (call, oracle)) := by
  unfold step
  split
  · exact .quiet (Or.inr (by simp)) rfl
  · exact service_effect wellFormed call

end HsmSimulator
