import HsmSimulator.Core.Access
import HsmSimulator.Core.Response
import HsmSimulator.Storage.Slots

/-!
# Sessions, login and PINs

Sessions belong to a slot, and so does the login: it ends with a logout and with
the last session of the slot.
-/

namespace HsmSimulator

open Checks

/-- Store a slot record under its identifier. -/
def State.putSlot (state : State) (slotId : Nat) (slot : Slot) : State :=
  { state with slots := state.slots.insert slotId slot }

section

variable (state : State) (slotId other : Nat) (slot : Slot)

@[simp]
theorem findSlot_putSlot : (state.putSlot slotId slot).findSlot other =
    if other = slotId then some slot else state.findSlot other :=
  OrderedMap.get?_insert _ _ _ _

@[simp]
theorem findSession_putSlot :
    (state.putSlot slotId slot).findSession other = state.findSession other :=
  rfl

@[simp]
theorem objects_putSlot : (state.putSlot slotId slot).objects = state.objects :=
  rfl

end

/-- Some open session belongs to the slot. -/
def State.hasSession (state : State) (slotId : Nat) : Bool :=
  state.sessions.values.any fun session => session.slotId = slotId

/-- Some read-only session belongs to the slot. -/
def State.hasReadOnlySession (state : State) (slotId : Nat) : Bool :=
  state.sessions.values.any fun session => session.slotId = slotId && !session.isReadWrite

/-- A session as it is opened. -/
def Session.opened (handle flags slotId : Nat) : Session where
  handle := handle
  flags := flags
  slotId := slotId
  searchActive := false
  searchMatches := []
  searchOffset := 0
  operation := .initial

def openSessionChecks (state : State) (slotId flags : Nat) (hasHandle : Bool) :
    Except Rv Unit := do
  let slot ← fetch (state.findSlot slotId) .slotIdInvalid
  require (hasHandle = true) .argumentsBad
  require (flags &&& ckfSerialSession ≠ 0) .sessionParallelNotSupported
  require (flags &&& ckfRwSession ≠ 0 ∨ slot.loggedInUser ≠ some .so) .sessionReadWriteSoExists

def openSession (state : State) (slotId flags : Nat) (hasHandle : Bool) : State × Response :=
  match openSessionChecks state slotId flags hasHandle with
  | .error code => (state, .plain code)
  | .ok _ =>
      let handle := state.nextSessionHandle
      ({ state with
          nextSessionHandle := handle + 1
          sessions := state.sessions.emplace handle (.opened handle flags slotId) },
        .success (.handle handle))

def Slot.loggedOut (slot : Slot) : Slot := { slot with loggedInUser := none }

/-- The session and the objects it owns are removed. -/
def State.dropSession (state : State) (sessionHandle : Nat) : State :=
  { state with
    sessions := state.sessions.erase sessionHandle
    objects := state.objects.eraseIf fun _ object => object.ownerSession = sessionHandle }

def closeSession (state : State) (sessionHandle : Nat) : State × Response :=
  match state.findSession sessionHandle with
  | none => (state, .plain .sessionHandleInvalid)
  | some session =>
      let closed := state.dropSession sessionHandle
      if closed.hasSession session.slotId then (closed, .plain .ok)
      else
        match closed.findSlot session.slotId with
        | none => (closed, .plain Exception.other.code)
        | some slot => (closed.putSlot session.slotId slot.loggedOut, .plain .ok)

def closeAllSessions (state : State) (slotId : Nat) : State × Response :=
  match state.findSlot slotId with
  | none => (state, .plain .slotIdInvalid)
  | some slot =>
      let closed := { state with
        sessions := state.sessions.eraseIf fun _ session => session.slotId = slotId
        objects := state.objects.eraseIf fun _ object =>
          object.slotId = slotId && object.ownerSession ≠ 0 }
      (closed.putSlot slotId slot.loggedOut, .plain .ok)

/-- `CK_STATE` of a session. -/
def sessionState (slot : Slot) (session : Session) : Nat :=
  match slot.loggedInUser with
  | some .so => cksRwSoFunctions
  | some .user => if session.isReadWrite then cksRwUserFunctions else cksRoUserFunctions
  | none => if session.isReadWrite then cksRwPublicSession else cksRoPublicSession

def getSessionInfo (state : State) (sessionHandle : Nat) (hasInfo : Bool) : Response :=
  match (do
      let session ← fetch (state.findSession sessionHandle) .sessionHandleInvalid
      require (hasInfo = true) .argumentsBad
      let slot ← fetch (state.sessionSlot sessionHandle) Exception.other.code
      return (session, slot) : Except Rv (Session × Slot)) with
  | .error code => .plain code
  | .ok (session, slot) =>
      .success (.info (.session session.slotId (sessionState slot session) session.flags))

/-! ## Login -/

/-- PIN of a role. -/
def Slot.pin (slot : Slot) : UserType → Option Bytes
  | .so => slot.soPin
  | .user => slot.userPin

/-- The historical flat layout without a PIN accepts any. -/
def acceptPin (slot : Slot) (userType : UserType) (pin : Buffer) : Except Rv Unit :=
  if slot.legacyLayout = true ∧ slot.requiresLogin = false ∧ slot.pin userType = none then .ok ()
  else checkPin (slot.pin userType) pin

/-- What a login as SO asks of the sessions. -/
def soLoginChecks (state : State) (session : Session) (slot : Slot) (role : UserType) :
    Except Rv Unit := do
  require (role = .so → session.isReadWrite = true) .sessionReadOnly
  require (role = .so → state.hasReadOnlySession slot.id = false) .sessionReadOnlyExists

/-- The session and the slot a login is for, and the role. -/
def loginChecks (state : State) (sessionHandle userType : Nat) (pin : Buffer) :
    Except Rv (Session × Slot × UserType) := do
  let session ← fetch (state.findSession sessionHandle) .sessionHandleInvalid
  let role ← fetch (UserType.ofNumber userType) .userTypeInvalid
  require (pin.isMissing = false) .argumentsBad
  let slot ← fetch (state.sessionSlot sessionHandle) Exception.other.code
  require (slot.loggedInUser = none)
    (if slot.loggedInUser = some role then .userAlreadyLoggedIn else .userAnotherAlreadyLoggedIn)
  soLoginChecks state session slot role
  acceptPin slot role pin
  return (session, slot, role)

def login (state : State) (sessionHandle userType : Nat) (pin : Buffer) : State × Response :=
  match loginChecks state sessionHandle userType pin with
  | .error code => (state, .plain code)
  | .ok (session, slot, role) =>
      (state.putSlot session.slotId { slot with loggedInUser := some role }, .plain .ok)

/-- A session after a logout of its slot. -/
def Session.purged (session : Session) : Session :=
  { session with operation := .initial, searchActive := false, searchMatches := [] }

/-- Operations, searches and protected session objects of the slot are dropped. -/
def State.purgeSlot (state : State) (slotId : Nat) : State :=
  { state with
    sessions := state.sessions.mapValues fun session =>
      if session.slotId = slotId then session.purged else session
    objects := state.objects.eraseIf fun _ object =>
      object.slotId = slotId && object.ownerSession ≠ 0 && isProtectedObject object }

def logout (state : State) (sessionHandle : Nat) : State × Response :=
  match (do
      let session ← fetch (state.findSession sessionHandle) .sessionHandleInvalid
      let slot ← fetch (state.sessionSlot sessionHandle) Exception.other.code
      require (slot.loggedInUser ≠ none) .userNotLoggedIn
      return (session, slot) : Except Rv (Session × Slot)) with
  | .error code => (state, .plain code)
  | .ok (session, slot) =>
      ((state.putSlot session.slotId slot.loggedOut).purgeSlot slot.id, .plain .ok)

/-! ## PINs -/

/-- Store the PIN of a role. -/
def changePin (state : State) (oracle : Oracle) (slotId : Nat) (slot : Slot)
    (userType : UserType) (pin : Buffer) : State × Response :=
  match storePin state.disk oracle slot userType pin with
  | (disk, .ok changed) => ({ state with disk := disk }.putSlot slotId changed, .plain .ok)
  | (disk, .error code) => ({ state with disk := disk }, .plain code)

/-- The session and slot whose USER PIN the security officer sets. -/
def initPinChecks (state : State) (sessionHandle : Nat) : Except Rv (Session × Slot) := do
  let session ← fetch (state.findSession sessionHandle) .sessionHandleInvalid
  require (session.isReadWrite = true) .sessionReadOnly
  let slot ← fetch (state.sessionSlot sessionHandle) Exception.other.code
  require (slot.loggedInUser = some .so) .userNotLoggedIn
  return (session, slot)

def initPin (state : State) (oracle : Oracle) (sessionHandle : Nat) (pin : Buffer) :
    State × Response :=
  match initPinChecks state sessionHandle with
  | .error code => (state, .plain code)
  | .ok (session, slot) => changePin state oracle session.slotId slot .user pin

/-- The session, the slot and the role whose PIN changes: the one logged in, else
USER. -/
def setPinChecks (state : State) (sessionHandle : Nat) (oldPin newPin : Buffer) :
    Except Rv (Session × Slot × UserType) := do
  let session ← fetch (state.findSession sessionHandle) .sessionHandleInvalid
  require (session.isReadWrite = true) .sessionReadOnly
  require (oldPin.isMissing = false ∧ newPin.isMissing = false) .argumentsBad
  let slot ← fetch (state.sessionSlot sessionHandle) Exception.other.code
  let userType := slot.loggedInUser.getD .user
  acceptPin slot userType oldPin
  return (session, slot, userType)

def setPin (state : State) (oracle : Oracle) (sessionHandle : Nat) (oldPin newPin : Buffer) :
    State × Response :=
  match setPinChecks state sessionHandle oldPin newPin with
  | .error code => (state, .plain code)
  | .ok (session, slot, userType) =>
      changePin state oracle session.slotId slot userType newPin

end HsmSimulator
