import HsmSimulator.Library.Erasure
import HsmSimulator.Pkcs11.Operations

/-!
# Sessions keep to themselves

What a session reads, searches, signs, verifies or wraps is its own affair: a run without these
calls gives all other calls, of whatever session, the answers they got.  The operation and the
search of a session are the only things such a call changes, and nothing but the session itself
looks at them.
-/

namespace HsmSimulator

open Checks

/-- The calls that at most change the operation or the search of their session. -/
def Call.isPrivate : Call → Bool
  | .getSessionInfo .. => true
  | .getAttributeValue .. => true
  | .findObjectsInit .. => true
  | .findObjects .. => true
  | .findObjectsFinal .. => true
  | .signInit .. => true
  | .sign .. => true
  | .signUpdate .. => true
  | .signFinal .. => true
  | .verifyInit .. => true
  | .verify .. => true
  | .verifyUpdate .. => true
  | .verifyFinal .. => true
  | .wrapKey .. => true
  | .generateRandom .. => true
  | _ => false

/-- A private call of one of the sessions. -/
def Call.isPrivateOf (hidden : Nat → Bool) (call : Call) : Bool :=
  call.isPrivate && call.session?.any hidden

/-- A session with nothing pending. -/
def Session.idle (session : Session) : Session :=
  { session with
    searchActive := false, searchMatches := [], searchOffset := 0, operation := .initial }

/-- The record of a session, without what is pending if the session is hidden. -/
def Session.veiled (hidden : Nat → Bool) (session : Session) : Session :=
  if hidden session.handle then session.idle else session

/-- The state without what is pending on the hidden sessions. -/
def State.veiled (hidden : Nat → Bool) (state : State) : State :=
  { state with sessions := state.sessions.mapValues (Session.veiled hidden) }

section

variable {hidden : Nat → Bool} {state : State} {sessionHandle handle : Nat} {object : Object}
  {session : Session}

/-! ## What a veil leaves -/

@[simp]
theorem slotId_veiled : (session.veiled hidden).slotId = session.slotId := by
  unfold Session.veiled
  split <;> rfl

@[simp]
theorem flags_veiled : (session.veiled hidden).flags = session.flags := by
  unfold Session.veiled
  split <;> rfl

@[simp]
theorem isReadWrite_veiled : (session.veiled hidden).isReadWrite = session.isReadWrite := by
  rw [Session.isReadWrite, Session.isReadWrite, flags_veiled]

theorem veiled_of_shown (shown : hidden session.handle = false) :
    session.veiled hidden = session := by
  simp [Session.veiled, shown]

theorem veiled_of_hidden (isHidden : hidden session.handle = true) :
    session.veiled hidden = session.idle := by
  simp [Session.veiled, isHidden]

theorem findSession_veiled : (state.veiled hidden).findSession sessionHandle =
    (state.findSession sessionHandle).map (Session.veiled hidden) :=
  OrderedMap.get?_mapValues _ _ _

theorem putSession_veiled : (state.veiled hidden).putSession sessionHandle
    (session.veiled hidden) = (state.putSession sessionHandle session).veiled hidden :=
  congrArg (fun sessions => { state with sessions := sessions })
    (OrderedMap.mapValues_insert _ _ _ _).symm

@[simp]
theorem findSlot_veiled (slotId : Nat) :
    (state.veiled hidden).findSlot slotId = state.findSlot slotId :=
  rfl

@[simp]
theorem objects_veiled : (state.veiled hidden).objects = state.objects :=
  rfl

@[simp]
theorem disk_veiled : (state.veiled hidden).disk = state.disk :=
  rfl

@[simp]
theorem nextObjectHandle_veiled :
    (state.veiled hidden).nextObjectHandle = state.nextObjectHandle :=
  rfl

@[simp]
theorem sessionSlot_veiled :
    (state.veiled hidden).sessionSlot sessionHandle = state.sessionSlot sessionHandle := by
  rw [State.sessionSlot, State.sessionSlot, findSession_veiled, Option.bind_map]
  cases state.findSession sessionHandle with
  | none => rfl
  | some session => simp

@[simp]
theorem findObject_veiled : (state.veiled hidden).findObject sessionHandle handle =
    state.findObject sessionHandle handle := by
  rw [State.findObject, State.findObject, findSession_veiled, objects_veiled]
  cases state.findSession sessionHandle with
  | none => rfl
  | some session =>
      cases state.objects.get? handle with
      | none => rfl
      | some object => simp

@[simp]
theorem requireUserLogin_veiled : (state.veiled hidden).requireUserLogin sessionHandle =
    state.requireUserLogin sessionHandle := by
  rw [State.requireUserLogin, State.requireUserLogin, sessionSlot_veiled]

@[simp]
theorem objectAccessStatus_veiled :
    (state.veiled hidden).objectAccessStatus sessionHandle object =
      state.objectAccessStatus sessionHandle object := by
  rw [State.objectAccessStatus, State.objectAccessStatus, requireUserLogin_veiled]

@[simp]
theorem hasSession_veiled (slotId : Nat) :
    (state.veiled hidden).hasSession slotId = state.hasSession slotId := by
  rw [State.hasSession, State.hasSession, State.veiled, OrderedMap.values_mapValues, List.any_map]
  congr
  funext session
  simp

@[simp]
theorem hasReadOnlySession_veiled (slotId : Nat) :
    (state.veiled hidden).hasReadOnlySession slotId = state.hasReadOnlySession slotId := by
  rw [State.hasReadOnlySession, State.hasReadOnlySession, State.veiled,
    OrderedMap.values_mapValues, List.any_map]
  congr
  funext session
  simp

/-- The session itself is looked up as it is, unless it is hidden. -/
theorem findSession_of_shown (wellFormed : WellFormed state)
    (shown : hidden sessionHandle = false) :
    (state.veiled hidden).findSession sessionHandle = state.findSession sessionHandle := by
  rw [findSession_veiled]
  cases found : state.findSession sessionHandle with
  | none => rfl
  | some session =>
      have isHandle := (wellFormed.sessionKey _ _ found).1
      rw [Option.map_some, veiled_of_shown (by rw [isHandle, shown])]

/-! ## Calls that look at no operation and no search -/

/-- A result with the veil over its state. -/
def veiledResult {ρ : Type} (hidden : Nat → Bool) (result : State × ρ) : State × ρ :=
  (result.1.veiled hidden, result.2)

variable {host : Host} {oracle : Oracle}

theorem openSession_veiled (slotId flags : Nat) (hasHandle : Bool) :
    openSession (state.veiled hidden) slotId flags hasHandle =
      veiledResult hidden (openSession state slotId flags hasHandle) := by
  have opened : (Session.opened state.nextSessionHandle flags slotId).veiled hidden =
      .opened state.nextSessionHandle flags slotId := by
    unfold Session.veiled
    split <;> rfl
  have sessions := OrderedMap.mapValues_emplace state.sessions (Session.veiled hidden)
    state.nextSessionHandle (.opened state.nextSessionHandle flags slotId)
  rw [opened] at sessions
  have checks : openSessionChecks (state.veiled hidden) slotId flags hasHandle =
      openSessionChecks state slotId flags hasHandle := rfl
  rw [openSession, openSession, checks]
  cases openSessionChecks state slotId flags hasHandle with
  | error code => rfl
  | ok value =>
      simp only [veiledResult, State.veiled, sessions]

theorem dropSession_veiled : (state.veiled hidden).dropSession sessionHandle =
    (state.dropSession sessionHandle).veiled hidden := by
  rw [State.dropSession, State.dropSession, State.veiled, State.veiled, OrderedMap.mapValues_erase]

theorem closeSession_veiled : closeSession (state.veiled hidden) sessionHandle =
    veiledResult hidden (closeSession state sessionHandle) := by
  unfold closeSession
  rw [findSession_veiled]
  cases state.findSession sessionHandle with
  | none => rfl
  | some session =>
      simp only [Option.map_some, dropSession_veiled, hasSession_veiled, findSlot_veiled,
        slotId_veiled]
      split
      · rfl
      · split <;> rfl

theorem closeAllSessions_veiled (slotId : Nat) : closeAllSessions (state.veiled hidden) slotId =
    veiledResult hidden (closeAllSessions state slotId) := by
  have sessions : (state.sessions.eraseIf fun _ session => session.slotId = slotId).mapValues
      (Session.veiled hidden) = (state.sessions.mapValues (Session.veiled hidden)).eraseIf
        fun _ session => session.slotId = slotId := by
    apply OrderedMap.mapValues_eraseIf
    intro _ session _
    rw [slotId_veiled]
  unfold closeAllSessions
  rw [findSlot_veiled]
  cases state.findSlot slotId with
  | none => rfl
  | some slot => simp only [veiledResult, State.veiled, State.putSlot, sessions]

theorem loginChecks_veiled (userType : Nat) (pin : Buffer) :
    loginChecks (state.veiled hidden) sessionHandle userType pin =
      (fun found => (found.1.veiled hidden, found.2)) <$>
        loginChecks state sessionHandle userType pin := by
  simp only [loginChecks, soLoginChecks, findSession_veiled, fetch_map, sessionSlot_veiled,
    hasReadOnlySession_veiled, isReadWrite_veiled, map_bind, bind_map_left, map_pure]

theorem login_veiled (userType : Nat) (pin : Buffer) :
    login (state.veiled hidden) sessionHandle userType pin =
      veiledResult hidden (login state sessionHandle userType pin) := by
  rw [login, login, loginChecks_veiled]
  cases loginChecks state sessionHandle userType pin with
  | error code => rfl
  | ok found => simp [veiledResult, State.veiled, State.putSlot]

theorem purged_veiled : (session.veiled hidden).purged = session.purged.veiled hidden := by
  have sameHandle : session.purged.handle = session.handle := rfl
  rw [Session.veiled, Session.veiled, sameHandle]
  split <;> rfl

theorem purgeSlot_veiled (slotId : Nat) : (state.veiled hidden).purgeSlot slotId =
    (state.purgeSlot slotId).veiled hidden := by
  have sessions : (state.sessions.mapValues (Session.veiled hidden)).mapValues
      (fun session => if session.slotId = slotId then session.purged else session) =
        (state.sessions.mapValues fun session =>
          if session.slotId = slotId then session.purged else session).mapValues
            (Session.veiled hidden) := by
    apply OrderedMap.ext_get?
    intro other
    simp only [OrderedMap.get?_mapValues]
    cases state.sessions.get? other with
    | none => rfl
    | some session =>
        simp only [Option.map_some, slotId_veiled, purged_veiled]
        split <;> rfl
  rw [State.purgeSlot, State.purgeSlot, State.veiled, State.veiled, sessions]

theorem logout_veiled : logout (state.veiled hidden) sessionHandle =
    veiledResult hidden (logout state sessionHandle) := by
  unfold logout
  rw [findSession_veiled]
  cases found : state.findSession sessionHandle with
  | none => rfl
  | some session =>
      simp only [Option.map_some, fetch_some, ok_bind, sessionSlot_veiled]
      cases state.sessionSlot sessionHandle with
      | none => rfl
      | some slot =>
          by_cases nobody : slot.loggedInUser = none
          · simp [require, nobody, veiledResult]
          · simp only [require, nobody, ne_eq, not_false_eq_true, if_true, ok_bind, fetch_some,
              pure_eq_ok, slotId_veiled]
            have purged := @purgeSlot_veiled hidden (state.putSlot session.slotId slot.loggedOut)
              slot.id
            exact congrArg (fun next => (next, Response.plain Rv.ok)) purged

theorem changePin_veiled (slotId : Nat) (slot : Slot) (role : UserType) (pin : Buffer) :
    changePin (state.veiled hidden) oracle slotId slot role pin =
      veiledResult hidden (changePin state oracle slotId slot role pin) := by
  unfold changePin
  rw [disk_veiled]
  split <;> rfl

theorem initPin_veiled (pin : Buffer) : initPin (state.veiled hidden) oracle sessionHandle pin =
    veiledResult hidden (initPin state oracle sessionHandle pin) := by
  have checks : initPinChecks (state.veiled hidden) sessionHandle =
      (fun found => (found.1.veiled hidden, found.2)) <$> initPinChecks state sessionHandle := by
    simp only [initPinChecks, findSession_veiled, fetch_map, sessionSlot_veiled,
      isReadWrite_veiled, map_bind, bind_map_left, map_pure]
  rw [initPin, initPin, checks]
  cases initPinChecks state sessionHandle with
  | error code => rfl
  | ok found =>
      change changePin _ _ (found.1.veiled hidden).slotId _ _ _ = _
      rw [slotId_veiled]
      exact changePin_veiled _ _ _ _

theorem setPin_veiled (oldPin newPin : Buffer) :
    setPin (state.veiled hidden) oracle sessionHandle oldPin newPin =
      veiledResult hidden (setPin state oracle sessionHandle oldPin newPin) := by
  have checks : setPinChecks (state.veiled hidden) sessionHandle oldPin newPin =
      (fun found => (found.1.veiled hidden, found.2)) <$>
        setPinChecks state sessionHandle oldPin newPin := by
    simp only [setPinChecks, findSession_veiled, fetch_map, sessionSlot_veiled,
      isReadWrite_veiled, map_bind, bind_map_left, map_pure]
  rw [setPin, setPin, checks]
  cases setPinChecks state sessionHandle oldPin newPin with
  | error code => rfl
  | ok found =>
      change changePin _ _ (found.1.veiled hidden).slotId _ _ _ = _
      rw [slotId_veiled]
      exact changePin_veiled _ _ _ _

theorem cFinalize_veiled (hasReserved : Bool) : cFinalize (state.veiled hidden) hasReserved =
    veiledResult hidden (cFinalize state hasReserved) := by
  have same : (state.veiled hidden).initialized = state.initialized := rfl
  unfold cFinalize
  rw [same]
  split
  · rfl
  · split <;> rfl

/-! ## Objects -/

theorem alterableObject_veiled (required : Nat) :
    alterableObject (state.veiled hidden) sessionHandle handle required =
      alterableObject state sessionHandle handle required := by
  simp only [alterableObject, findSession_veiled, fetch_map, bind_map_left, findObject_veiled,
    requireUserLogin_veiled, isReadWrite_veiled]

theorem setAttributeValue_veiled (attributes : Template) :
    setAttributeValue (state.veiled hidden) oracle sessionHandle handle attributes =
      veiledResult hidden (setAttributeValue state oracle sessionHandle handle attributes) := by
  have changed : changedObject (state.veiled hidden) sessionHandle handle attributes =
      changedObject state sessionHandle handle attributes := by
    rw [changedObject, changedObject, alterableObject_veiled]
  unfold setAttributeValue
  rw [changed, disk_veiled, objects_veiled]
  split
  · rfl
  · split
    · dsimp only
      split <;> rfl
    · rfl

theorem destroyKeyFile_veiled (path : Path) :
    destroyKeyFile (state.veiled hidden) oracle path =
      veiledResult hidden (destroyKeyFile state oracle path) := by
  unfold destroyKeyFile
  rw [disk_veiled]
  dsimp only
  split <;> rfl

theorem destroyObject_veiled : destroyObject (state.veiled hidden) oracle sessionHandle handle =
    veiledResult hidden (destroyObject state oracle sessionHandle handle) := by
  have destroyable : destroyableObject (state.veiled hidden) sessionHandle handle =
      destroyableObject state sessionHandle handle := by
    rw [destroyableObject, destroyableObject, alterableObject_veiled, objects_veiled]
  unfold destroyObject
  rw [destroyable]
  split
  · rfl
  · split
    · exact destroyKeyFile_veiled _
    · rfl

/-! ## New keys -/

theorem publishKey_veiled (path : Path) (output : Output) :
    publishKey (state.veiled hidden) oracle path output =
      veiledResult hidden (publishKey state oracle path output) := by
  have persisted : persistMetadata (state.veiled hidden) oracle path =
      veiledResult hidden (persistMetadata state oracle path) := by
    unfold persistMetadata
    rw [disk_veiled, objects_veiled]
    dsimp only
    split <;> rfl
  rw [publishKey, publishKey, persisted]
  obtain ⟨next, code⟩ := persistMetadata state oracle path
  cases code <;> rfl

theorem storeSecretKey_veiled (new : Object) (token : Bool) :
    storeSecretKey oracle (state.veiled hidden) new token =
      veiledResult hidden (storeSecretKey oracle state new token) := by
  unfold storeSecretKey
  dsimp only
  rw [disk_veiled, objects_veiled]
  split
  · split
    · rename_i disk _
      exact @publishKey_veiled hidden
        { state with disk := disk, objects := state.objects.emplace new.handle new } oracle _ _
    · rfl
  · rfl

theorem registerKeyPair_veiled (slotId : Nat) (label : Bytes) (path : Path) (key : EvpKey)
    (certificate : Option Bytes) :
    registerKeyPair host oracle (state.veiled hidden) slotId label path key certificate =
      veiledResult hidden
        (registerKeyPair host oracle state slotId label path key certificate) := by
  unfold registerKeyPair
  split
  · rfl
  · cases publicKeyOnly oracle key <;> cases certificate <;> rfl

theorem finishKeyPair_veiled (request : PairRequest) (output : Output) :
    finishKeyPair oracle (state.veiled hidden) handle request output =
      veiledResult hidden (finishKeyPair oracle state handle request output) := by
  unfold finishKeyPair
  rw [objects_veiled]
  cases state.objects.get? handle with
  | none => rfl
  | some privateObject =>
      dsimp only
      cases state.objects.get? (handle + 1) with
      | none => rfl
      | some publicObject =>
          dsimp only
          split
          · exact @publishKey_veiled hidden { state with
              objects := (state.objects.insert handle
                (request.patchPrivate privateObject.id privateObject)).insert (handle + 1)
                  (request.patchPublic privateObject.id publicObject) } oracle _ _
          · rfl

theorem storeKeyPair_veiled (request : PairRequest) (output : Nat → Output) :
    storeKeyPair host oracle (state.veiled hidden) request output =
      veiledResult hidden (storeKeyPair host oracle state request output) := by
  obtain ⟨left, isLeft⟩ : ∃ left, left = state.veiled hidden := ⟨_, rfl⟩
  have registered (disk : FileSystem) :
      registerKeyPair host oracle { left with disk := disk } request.slot.id request.label
          request.path request.key none =
        veiledResult hidden (registerKeyPair host oracle { state with disk := disk } request.slot.id
          request.label request.path request.key none) := by
    rw [isLeft]
    exact @registerKeyPair_veiled hidden { state with disk := disk } host oracle _ _ _ _ _
  have sameDisk : left.disk = state.disk := by rw [isLeft, disk_veiled]
  have sameHandle : left.nextObjectHandle = state.nextObjectHandle := by
    rw [isLeft, nextObjectHandle_veiled]
  rw [← isLeft, storeKeyPair, storeKeyPair, sameDisk]
  split
  · rename_i disk _
    rw [registered, sameHandle]
    generalize registerKeyPair host oracle { state with disk := disk } request.slot.id request.label
      request.path request.key none = result
    obtain ⟨next, isWhole⟩ := result
    cases isWhole with
    | false => rfl
    | true => exact finishKeyPair_veiled _ _
  · rw [isLeft]
    rfl

theorem applyCreationTemplate_veiled (start : Object) (attributes : Template) (fallback : Bool) :
    applyCreationTemplate (state.veiled hidden) start sessionHandle attributes fallback =
      applyCreationTemplate state start sessionHandle attributes fallback := by
  simp only [applyCreationTemplate, findSession_veiled, fetch_map, bind_map_left,
    requireUserLogin_veiled, isReadWrite_veiled, slotId_veiled]

theorem generateKey_veiled (mechanism : Option Mechanism) (attributes : Template)
    (hasHandle : Bool) :
    generateKey oracle (state.veiled hidden) sessionHandle mechanism attributes hasHandle =
      veiledResult hidden
        (generateKey oracle state sessionHandle mechanism attributes hasHandle) := by
  have lengths : generatedKeyLength (state.veiled hidden) sessionHandle mechanism attributes
      hasHandle = generatedKeyLength state sessionHandle mechanism attributes hasHandle := by
    simp only [generatedKeyLength, findSession_veiled, fetch_map, bind_map_left]
  have objects (length : Nat) :
      generatedKey oracle (state.veiled hidden) sessionHandle attributes length =
        generatedKey oracle state sessionHandle attributes length := by
    simp only [generatedKey, sessionSlot_veiled, applyCreationTemplate_veiled,
      nextObjectHandle_veiled]
  unfold generateKey
  rw [lengths]
  split
  · rfl
  · rw [objects]
    split
    · rfl
    · exact @storeSecretKey_veiled hidden state.takeHandle oracle _ _

theorem generateKeyPair_veiled (mechanism : Option Mechanism)
    (publicTemplate privateTemplate : Template) (hasHandles : Bool) :
    generateKeyPair host oracle (state.veiled hidden) sessionHandle mechanism publicTemplate
        privateTemplate hasHandles =
      veiledResult hidden (generateKeyPair host oracle state sessionHandle mechanism
        publicTemplate privateTemplate hasHandles) := by
  have pairs : generatedPair oracle (state.veiled hidden) sessionHandle mechanism publicTemplate
      privateTemplate hasHandles = generatedPair oracle state sessionHandle mechanism
        publicTemplate privateTemplate hasHandles := by
    simp only [generatedPair, pairTemplates, findSession_veiled, fetch_map, bind_map_left,
      applyCreationTemplate_veiled, sessionSlot_veiled]
  unfold generateKeyPair
  rw [pairs]
  split
  · rfl
  · exact storeKeyPair_veiled _ _

theorem unwrapKey_veiled (mechanism : Option Mechanism) (wrappingHandle : Nat) (input : Buffer)
    (attributes : Template) (hasHandle : Bool) :
    unwrapKey host oracle (state.veiled hidden) sessionHandle mechanism wrappingHandle input
        attributes hasHandle =
      veiledResult hidden (unwrapKey host oracle state sessionHandle mechanism wrappingHandle
        input attributes hasHandle) := by
  have unwrapped : unwrappedBytes host oracle (state.veiled hidden) sessionHandle mechanism
      wrappingHandle input attributes hasHandle = unwrappedBytes host oracle state sessionHandle
        mechanism wrappingHandle input attributes hasHandle := by
    simp only [unwrappedBytes, findSession_veiled, fetch_map, bind_map_left, findObject_veiled,
      requireUserLogin_veiled]
  have secrets (label raw : Bytes) :
      unwrappedSecret (state.veiled hidden) sessionHandle attributes label raw =
        unwrappedSecret state sessionHandle attributes label raw := by
    simp only [unwrappedSecret, sessionSlot_veiled, applyCreationTemplate_veiled,
      nextObjectHandle_veiled]
  have pairs (label raw : Bytes) :
      unwrappedPair host (state.veiled hidden) sessionHandle attributes label raw =
        unwrappedPair host state sessionHandle attributes label raw := by
    simp only [unwrappedPair, sessionSlot_veiled, applyCreationTemplate_veiled]
  unfold unwrapKey
  rw [unwrapped]
  split
  · rfl
  · dsimp only
    rw [secrets, pairs]
    split
    · split
      · rfl
      · split
        · rfl
        · exact @storeSecretKey_veiled hidden state.takeHandle oracle _ _
    · split
      · rfl
      · split
        · rfl
        · exact storeKeyPair_veiled _ _

theorem deriveKey_veiled (mechanism : Option Mechanism) (baseKey : Nat) (attributes : Template)
    (hasHandle : Bool) :
    deriveKey host oracle (state.veiled hidden) sessionHandle mechanism baseKey attributes
        hasHandle =
      veiledResult hidden (deriveKey host oracle state sessionHandle mechanism baseKey attributes
        hasHandle) := by
  have masters : derivationMaster (state.veiled hidden) sessionHandle baseKey =
      derivationMaster state sessionHandle baseKey := by
    simp only [derivationMaster, findObject_veiled, requireUserLogin_veiled]
  have derived : derivation host oracle (state.veiled hidden) sessionHandle mechanism baseKey
      attributes hasHandle = (fun found => (found.1.veiled hidden, found.2)) <$>
        derivation host oracle state sessionHandle mechanism baseKey attributes hasHandle := by
    simp only [derivation, findSession_veiled, fetch_map, masters, isReadWrite_veiled,
      sessionSlot_veiled, map_bind, bind_map_left, map_pure]
  rw [deriveKey, deriveKey, derived]
  cases derivation host oracle state sessionHandle mechanism baseKey attributes hasHandle with
  | error code => rfl
  | ok found =>
      obtain ⟨session, slot, value⟩ := found
      have sameObject : derivedObject (state.veiled hidden) sessionHandle (session.veiled hidden)
          slot attributes value =
            derivedObject state sessionHandle session slot attributes value := by
        simp only [derivedObject, nextObjectHandle_veiled, slotId_veiled]
      change storeSecretKey oracle (state.takeHandle.veiled hidden) (derivedObject
        (state.veiled hidden) sessionHandle (session.veiled hidden) slot attributes value) _ = _
      rw [sameObject]
      exact storeSecretKey_veiled _ _

/-! ## Private calls of a session that is not hidden -/

section

variable (wellFormed : WellFormed state) (shown : hidden sessionHandle = false)

include wellFormed shown

/-- What a session that is not hidden gets is stored under the veil as it is. -/
theorem putSession_of_shown {changed : Session}
    (found : state.findSession sessionHandle = some session)
    (sameHandle : changed.handle = session.handle) :
    (state.veiled hidden).putSession sessionHandle changed =
      (state.putSession sessionHandle changed).veiled hidden := by
  have isHandle := (wellFormed.sessionKey _ _ found).1
  have isShown : changed.veiled hidden = changed :=
    veiled_of_shown (by rw [sameHandle, isHandle, shown])
  have stored := @putSession_veiled hidden state sessionHandle changed
  rw [isShown] at stored
  exact stored

theorem findObjectsInit_veiled (attributes : Template) :
    findObjectsInit host (state.veiled hidden) sessionHandle attributes =
      veiledResult hidden (findObjectsInit host state sessionHandle attributes) := by
  have searching : searchingSession (state.veiled hidden) sessionHandle attributes =
      searchingSession state sessionHandle attributes := by
    rw [searchingSession, searchingSession, findSession_of_shown wellFormed shown]
  have matching (other : Session) (entry : Object) :
      matchesTemplate host (state.veiled hidden) sessionHandle other attributes entry =
        matchesTemplate host state sessionHandle other attributes entry := by
    simp only [matchesTemplate, objectAccessStatus_veiled]
  unfold findObjectsInit
  rw [searching]
  cases passes : searchingSession state sessionHandle attributes with
  | error code => rfl
  | ok session =>
      simp only [searchingSession, bind_eq_ok_iff, fetch_eq_ok_iff, pure_eq_ok, Except.ok.injEq]
        at passes
      obtain ⟨_, found, _, _, _, _, _, _, rfl⟩ := passes
      simp only [matching, objects_veiled]
      exact Prod.ext (putSession_of_shown wellFormed shown found rfl) rfl

theorem findObjects_veiled (hasOutput : Bool) (capacity : Nat) (hasCount : Bool) :
    findObjects (state.veiled hidden) sessionHandle hasOutput capacity hasCount =
      veiledResult hidden (findObjects state sessionHandle hasOutput capacity hasCount) := by
  have visible : stillVisible (state.veiled hidden) sessionHandle =
      stillVisible state sessionHandle := by
    funext other
    simp only [stillVisible, findObject_veiled, objectAccessStatus_veiled]
  unfold findObjects
  rw [findSession_of_shown wellFormed shown, visible]
  split
  · rfl
  · rename_i session passes
    simp only [bind_eq_ok_iff, fetch_eq_ok_iff, pure_eq_ok, Except.ok.injEq] at passes
    obtain ⟨_, found, _, _, _, _, rfl⟩ := passes
    dsimp only
    exact Prod.ext (putSession_of_shown wellFormed shown found rfl) rfl

theorem findObjectsFinal_veiled : findObjectsFinal (state.veiled hidden) sessionHandle =
    veiledResult hidden (findObjectsFinal state sessionHandle) := by
  unfold findObjectsFinal
  rw [findSession_of_shown wellFormed shown]
  split
  · rfl
  · rename_i session passes
    simp only [bind_eq_ok_iff, fetch_eq_ok_iff, pure_eq_ok, Except.ok.injEq] at passes
    obtain ⟨_, found, _, _, rfl⟩ := passes
    exact Prod.ext (putSession_of_shown wellFormed shown found rfl) rfl

theorem initializeSignature_veiled (mechanism : Option Mechanism) (keyHandle : Nat)
    (verify : Bool) :
    initializeSignature host (state.veiled hidden) sessionHandle mechanism keyHandle verify =
      veiledResult hidden
        (initializeSignature host state sessionHandle mechanism keyHandle verify) := by
  have operations : signatureOperation host (state.veiled hidden) sessionHandle mechanism
      keyHandle verify = signatureOperation host state sessionHandle mechanism keyHandle
        verify := by
    simp only [signatureOperation, findSession_of_shown wellFormed shown, findObject_veiled,
      objectAccessStatus_veiled]
  unfold initializeSignature
  rw [operations]
  cases passes : signatureOperation host state sessionHandle mechanism keyHandle verify with
  | error code => rfl
  | ok started =>
      obtain ⟨session, operation⟩ := started
      have found := (signatureOperation_recorded passes).1
      dsimp only
      exact Prod.ext (putSession_of_shown wellFormed shown found rfl) rfl

theorem signingSession_veiled (verify : Bool) :
    signingSession (state.veiled hidden) sessionHandle verify =
      signingSession state sessionHandle verify := by
  rw [signingSession, signingSession, findSession_of_shown wellFormed shown]

theorem appendSignatureData_veiled (data : Buffer) (verify : Bool) :
    appendSignatureData (state.veiled hidden) sessionHandle data verify =
      veiledResult hidden (appendSignatureData state sessionHandle data verify) := by
  unfold appendSignatureData
  rw [signingSession_veiled wellFormed shown]
  split
  · rfl
  · rename_i session passes
    simp only [bind_eq_ok_iff, pure_eq_ok, Except.ok.injEq] at passes
    obtain ⟨_, pending, _, _, rfl⟩ := passes
    have found := (signingSession_eq_ok pending).1
    dsimp only
    split
    · exact Prod.ext (putSession_of_shown wellFormed shown found rfl) rfl
    · split
      · exact Prod.ext (putSession_of_shown wellFormed shown found rfl) rfl
      · exact Prod.ext (putSession_of_shown wellFormed shown found rfl) rfl

omit wellFormed shown in
theorem signatureKey_veiled (operation : Operation) (verify : Bool) :
    signatureKey (state.veiled hidden) sessionHandle operation verify =
      signatureKey state sessionHandle operation verify := by
  simp only [signatureKey, findObject_veiled, objectAccessStatus_veiled]

theorem completeSign_veiled (found : state.findSession sessionHandle = some session)
    (data : Bytes) (signature : OutputBuffer) :
    completeSign host oracle (state.veiled hidden) sessionHandle session data signature =
      veiledResult hidden
        (completeSign host oracle state sessionHandle session data signature) := by
  have same : executeSign host oracle (state.veiled hidden) sessionHandle session.operation data
      signature = executeSign host oracle state sessionHandle session.operation data signature := by
    rw [executeSign, executeSign, signatureKey_veiled]
  simp only [completeSign, same]
  split
  · exact Prod.ext (putSession_of_shown wellFormed shown found rfl) rfl
  · rfl

theorem completeVerify_veiled (found : state.findSession sessionHandle = some session)
    (data : Bytes) (signature : Buffer) :
    completeVerify host oracle (state.veiled hidden) sessionHandle session data signature =
      veiledResult hidden
        (completeVerify host oracle state sessionHandle session data signature) := by
  simp only [completeVerify, executeVerify, verification, signatureKey_veiled]
  exact Prod.ext (putSession_of_shown wellFormed shown found rfl) rfl

theorem sign_veiled (data : Buffer) (signature : OutputBuffer) (hasLength : Bool) :
    sign host oracle (state.veiled hidden) sessionHandle data signature hasLength =
      veiledResult hidden (sign host oracle state sessionHandle data signature hasLength) := by
  unfold sign
  rw [signingSession_veiled wellFormed shown]
  split
  · rfl
  · rename_i session passes
    simp only [bind_eq_ok_iff, pure_eq_ok, Except.ok.injEq] at passes
    obtain ⟨_, pending, _, _, rfl⟩ := passes
    have found := (signingSession_eq_ok pending).1
    exact completeSign_veiled wellFormed shown found _ _

theorem signFinal_veiled (signature : OutputBuffer) (hasLength : Bool) :
    signFinal host oracle (state.veiled hidden) sessionHandle signature hasLength =
      veiledResult hidden (signFinal host oracle state sessionHandle signature hasLength) := by
  unfold signFinal
  rw [signingSession_veiled wellFormed shown]
  split
  · rfl
  · rename_i session passes
    simp only [bind_eq_ok_iff, pure_eq_ok, Except.ok.injEq] at passes
    obtain ⟨_, pending, _, _, rfl⟩ := passes
    have found := (signingSession_eq_ok pending).1
    exact completeSign_veiled wellFormed shown found _ _

theorem verify_veiled (data signature : Buffer) :
    verify host oracle (state.veiled hidden) sessionHandle data signature =
      veiledResult hidden (verify host oracle state sessionHandle data signature) := by
  unfold verify
  rw [signingSession_veiled wellFormed shown]
  split
  · rfl
  · rename_i session passes
    simp only [bind_eq_ok_iff, pure_eq_ok, Except.ok.injEq] at passes
    obtain ⟨_, pending, _, _, rfl⟩ := passes
    have found := (signingSession_eq_ok pending).1
    exact completeVerify_veiled wellFormed shown found _ _

theorem verifyFinal_veiled (signature : Buffer) :
    verifyFinal host oracle (state.veiled hidden) sessionHandle signature =
      veiledResult hidden (verifyFinal host oracle state sessionHandle signature) := by
  unfold verifyFinal
  rw [signingSession_veiled wellFormed shown]
  split
  · rfl
  · rename_i session passes
    simp only [bind_eq_ok_iff, pure_eq_ok, Except.ok.injEq] at passes
    obtain ⟨_, pending, _, _, rfl⟩ := passes
    have found := (signingSession_eq_ok pending).1
    exact completeVerify_veiled wellFormed shown found _ _

end

/-! ## Calls that only read -/

theorem getTokenInfo_veiled (slotId : Nat) (hasInfo : Bool) :
    getTokenInfo (state.veiled hidden) slotId hasInfo = getTokenInfo state slotId hasInfo := by
  have sameChecks : infoChecks (state.veiled hidden) slotId hasInfo =
      infoChecks state slotId hasInfo := rfl
  have sessions : (state.veiled hidden).sessions.values =
      state.sessions.values.map (Session.veiled hidden) := OrderedMap.values_mapValues _ _
  have ofSlot : ((fun session : Session => decide (session.slotId = slotId)) ∘
      Session.veiled hidden) = fun session => decide (session.slotId = slotId) := by
    funext session
    simp
  have readWrite : Session.isReadWrite ∘ Session.veiled hidden = Session.isReadWrite := by
    funext session
    simp
  simp only [getTokenInfo, sameChecks, sessions, List.filter_map, ofSlot, readWrite,
    List.length_map]

theorem getSessionInfo_veiled (hasInfo : Bool) :
    getSessionInfo (state.veiled hidden) sessionHandle hasInfo =
      getSessionInfo state sessionHandle hasInfo := by
  unfold getSessionInfo
  rw [findSession_veiled]
  cases state.findSession sessionHandle with
  | none => rfl
  | some session =>
      simp only [Option.map_some, fetch_some, ok_bind, sessionSlot_veiled]
      cases hasInfo with
      | false => rfl
      | true =>
          cases state.sessionSlot sessionHandle with
          | none => rfl
          | some slot =>
              simp [require, sessionState]

theorem getAttributeValue_veiled (attributes : QueryTemplate) :
    getAttributeValue host (state.veiled hidden) sessionHandle handle attributes =
      getAttributeValue host state sessionHandle handle attributes := by
  simp only [getAttributeValue, readableObject, findSession_veiled, fetch_map, bind_map_left,
    findObject_veiled, objectAccessStatus_veiled]

theorem wrapKey_veiled (mechanism : Option Mechanism) (wrappingHandle : Nat)
    (output : OutputBuffer) (hasLength : Bool) :
    wrapKey host oracle (state.veiled hidden) sessionHandle mechanism wrappingHandle handle output
        hasLength =
      wrapKey host oracle state sessionHandle mechanism wrappingHandle handle output
        hasLength := by
  simp only [wrapKey, wrapInput, findSession_veiled, fetch_map, bind_map_left, findObject_veiled,
    requireUserLogin_veiled]

theorem generateRandom_veiled (output : Buffer) :
    generateRandom oracle (state.veiled hidden) sessionHandle output =
      generateRandom oracle state sessionHandle output := by
  simp only [generateRandom, findSession_veiled, fetch_map, bind_map_left]

/-! ## One call -/

theorem veiled_of_noSessions (noSessions : state.sessions = ∅) : state.veiled hidden = state := by
  have veiled : (∅ : OrderedMap Nat Session).mapValues (Session.veiled hidden) = ∅ := rfl
  rw [State.veiled, noSessions, veiled, ← noSessions]

/-- A private call of a hidden session leaves nothing to be seen. -/
theorem step_unseen (wellFormed : WellFormed state) {call : Call}
    (isPrivate : call.isPrivateOf hidden = true) :
    (step host state (call, oracle)).1.veiled hidden = state.veiled hidden := by
  simp only [Call.isPrivateOf, Bool.and_eq_true] at isPrivate
  obtain ⟨isPrivate, ofHidden⟩ := isPrivate
  have effect := @step_effect host oracle state wellFormed call
  generalize HsmSimulator.step host state (call, oracle) = result at effect ⊢
  cases effect with
  | quiet _ _ => rfl
  | @updated _ sessionHandle session changed _ onSession found update _ =>
      rw [onSession, Option.any_some] at ofHidden
      have isHandle := (wellFormed.sessionKey _ _ found).1
      have veils : changed.veiled hidden = session.veiled hidden := by
        rw [veiled_of_hidden (by rw [update.handle, isHandle, ofHidden]),
          veiled_of_hidden (by rw [isHandle, ofHidden]), Session.idle, Session.idle,
          update.handle, update.flags, update.slotId]
      have stored : (state.veiled hidden).findSession sessionHandle =
          some (session.veiled hidden) := by
        rw [findSession_veiled, found, Option.map_some]
      dsimp only
      rw [← putSession_veiled, veils, State.putSession_self stored]
  | pinChanged _ _ _ _ _ _ =>
      cases call <;> contradiction
  | pinLeft _ _ _ _ _ =>
      cases call <;> contradiction
  | creation creates _ _ => cases call <;> contradiction
  | _ => contradiction

/-- Every other call is answered as before and leaves what it left before. -/
theorem step_seen (wellFormed : WellFormed state) {call : Call}
    (isSeen : call.isPrivateOf hidden = false) :
    step host (state.veiled hidden) (call, oracle) =
      veiledResult hidden (step host state (call, oracle)) := by
  cases isOpen : state.initialized with
  | false =>
      have noSessions := (wellFormed.closed isOpen).2.2
      have stillNone : (step host state (call, oracle)).1.sessions = ∅ := by
        rw [step, ← noSessions]
        split
        · rfl
        · rename_i accepted
          cases call with
          | cInitialize hasReserved => exact cInitialize_sessions hasReserved
          | _ => exact (accepted ⟨rfl, isOpen⟩).elim
      rw [veiledResult, veiled_of_noSessions noSessions, veiled_of_noSessions stillNone]
  | true =>
      have stillOpen : (state.veiled hidden).initialized = true := isOpen
      rw [step_of_open stillOpen, step_of_open isOpen]
      have shown {sessionHandle : Nat} (isPrivate : call.isPrivate = true)
          (onSession : call.session? = some sessionHandle) : hidden sessionHandle = false := by
        simpa [Call.isPrivateOf, isPrivate, onSession] using isSeen
      cases call with
      | cInitialize hasReserved =>
          simp only [service, cInitialize, isOpen, stillOpen, if_true]
          rfl
      | cFinalize hasReserved => exact cFinalize_veiled _
      | getInfo | getSlotList | getSlotInfo | getMechanismList | getMechanismInfo
      | unsupported => rfl
      | getTokenInfo => exact Prod.ext rfl (getTokenInfo_veiled _ _)
      | openSession => exact openSession_veiled _ _ _
      | closeSession => exact closeSession_veiled
      | closeAllSessions => exact closeAllSessions_veiled _
      | getSessionInfo => exact Prod.ext rfl (getSessionInfo_veiled _)
      | initPin => exact initPin_veiled _
      | setPin => exact setPin_veiled _ _
      | login => exact login_veiled _ _
      | logout => exact logout_veiled
      | destroyObject => exact destroyObject_veiled
      | getAttributeValue => exact Prod.ext rfl (getAttributeValue_veiled _)
      | setAttributeValue => exact setAttributeValue_veiled _
      | findObjectsInit => exact findObjectsInit_veiled wellFormed (shown rfl rfl) _
      | findObjects => exact findObjects_veiled wellFormed (shown rfl rfl) _ _ _
      | findObjectsFinal => exact findObjectsFinal_veiled wellFormed (shown rfl rfl)
      | signInit => exact initializeSignature_veiled wellFormed (shown rfl rfl) _ _ _
      | sign => exact sign_veiled wellFormed (shown rfl rfl) _ _ _
      | signUpdate => exact appendSignatureData_veiled wellFormed (shown rfl rfl) _ _
      | signFinal => exact signFinal_veiled wellFormed (shown rfl rfl) _ _
      | verifyInit => exact initializeSignature_veiled wellFormed (shown rfl rfl) _ _ _
      | verify => exact verify_veiled wellFormed (shown rfl rfl) _ _
      | verifyUpdate => exact appendSignatureData_veiled wellFormed (shown rfl rfl) _ _
      | verifyFinal => exact verifyFinal_veiled wellFormed (shown rfl rfl) _
      | generateKey => exact generateKey_veiled _ _ _
      | generateKeyPair => exact generateKeyPair_veiled _ _ _ _
      | wrapKey => exact Prod.ext rfl (wrapKey_veiled _ _ _ _)
      | unwrapKey => exact unwrapKey_veiled _ _ _ _ _
      | deriveKey => exact deriveKey_veiled _ _ _ _
      | generateRandom => exact Prod.ext rfl (generateRandom_veiled _)

end

/-! ## Runs -/

theorem conceals (host : Host) (hidden : Nat → Bool) :
    Runs.Conceals (step host) WellFormed (State.veiled hidden)
      fun input => input.1.isPrivateOf hidden where
  keeps _ input wellFormed := wellFormed.step input
  unseen _ _ wellFormed isPrivate := step_unseen wellFormed isPrivate
  seen _ _ wellFormed isSeen := step_seen wellFormed isSeen

/-- Any private calls of any sessions can be left out of any run: all other calls are answered
as they were, and the state at the end is the same but for what is pending on these sessions. -/
theorem sessions_private (host : Host) (disk : FileSystem) (inputs : List (Call × Oracle))
    (hidden : Nat → Bool) :
    let others := inputs.filter fun input => !input.1.isPrivateOf hidden
    (Runs.trace (step host) (.loaded disk) inputs).filter
        (fun event => !event.1.1.isPrivateOf hidden) =
        Runs.trace (step host) (.loaded disk) others ∧
      (Runs.final (step host) (.loaded disk) inputs).veiled hidden =
        (Runs.final (step host) (.loaded disk) others).veiled hidden := by
  intro others
  have start := wellFormed_loaded disk
  exact (conceals host hidden).erased_run start start rfl inputs

end HsmSimulator
