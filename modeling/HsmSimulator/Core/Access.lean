import HsmSimulator.Objects.Template

/-!
# Lookups and access control

Handles are resolved through the session: an object of another slot does not
resolve.  Access to key material and to private objects needs the USER login of
the slot, where the slot requires one.
-/

namespace HsmSimulator

open Checks

namespace State

variable (state : State)

def findSession (handle : Nat) : Option Session := state.sessions.get? handle

def findSlot (slotId : Nat) : Option Slot := state.slots.get? slotId

/-- The slot of a session; `none` is the exception of `std::map::at`. -/
def sessionSlot (sessionHandle : Nat) : Option Slot :=
  (state.findSession sessionHandle).bind fun session => state.findSlot session.slotId

def findObject (sessionHandle handle : Nat) : Option Object :=
  match state.findSession sessionHandle, state.objects.get? handle with
  | some session, some object => if object.slotId = session.slotId then some object else none
  | _, _ => none

/-- Store a session record under its handle. -/
def putSession (sessionHandle : Nat) (session : Session) : State :=
  { state with sessions := state.sessions.insert sessionHandle session }

end State

/-- A configured slot PIN protects key material even when `CKA_PRIVATE` is false. -/
def isProtectedObject (object : Object) : Bool :=
  object.objectClass = ckoPrivateKey || object.objectClass = ckoSecretKey ||
    policyValue object ckaPrivate

/-- The slot lets its objects be used: it needs no login, or USER is logged in. -/
def Slot.grantsAccess (slot : Slot) : Bool :=
  !slot.requiresLogin || slot.loggedInUser = some .user

namespace State

def requireUserLogin (state : State) (sessionHandle : Nat) : Except Rv Unit := do
  let slot ← fetch (state.sessionSlot sessionHandle) Exception.other.code
  require (slot.grantsAccess = true) .userNotLoggedIn

def objectAccessStatus (state : State) (sessionHandle : Nat) (object : Object) :
    Except Rv Unit :=
  if isProtectedObject object then state.requireUserLogin sessionHandle else .ok ()

/-! ## What the checks say -/

variable {state : State} {sessionHandle handle : Nat} {object : Object}

theorem sessionSlot_eq_some_iff {slot : Slot} :
    state.sessionSlot sessionHandle = some slot ↔
      ∃ session, state.findSession sessionHandle = some session ∧
        state.findSlot session.slotId = some slot := by
  rw [sessionSlot, Option.bind_eq_some_iff]

theorem findObject_eq_some_iff :
    state.findObject sessionHandle handle = some object ↔
      ∃ session, state.findSession sessionHandle = some session ∧
        state.objects.get? handle = some object ∧ object.slotId = session.slotId := by
  unfold findObject
  cases state.findSession sessionHandle with
  | none => simp
  | some session =>
      cases state.objects.get? handle with
      | none => simp
      | some found =>
          simp only [Option.some.injEq, exists_eq_left', ite_eq_iff', reduceCtorEq, imp_false]
          constructor
          · rintro ⟨stored, notOther⟩
            have same := not_not.mp notOther
            cases stored same
            exact ⟨rfl, same⟩
          · rintro ⟨rfl, same⟩
            exact ⟨fun _ => rfl, not_not.mpr same⟩

theorem requireUserLogin_eq_ok_iff {value : Unit} :
    state.requireUserLogin sessionHandle = .ok value ↔
      ∃ slot, state.sessionSlot sessionHandle = some slot ∧ slot.grantsAccess = true := by
  simp only [requireUserLogin, bind_eq_ok_iff, fetch_eq_ok_iff, require_eq_ok_iff]

/-- The session may look at the object: it is not protected, or the slot grants access. -/
theorem objectAccessStatus_eq_ok_iff {value : Unit} :
    state.objectAccessStatus sessionHandle object = .ok value ↔
      (isProtectedObject object = true →
        ∃ slot, state.sessionSlot sessionHandle = some slot ∧ slot.grantsAccess = true) := by
  unfold objectAccessStatus
  split
  · rename_i guarded
    rw [requireUserLogin_eq_ok_iff]
    simp [guarded]
  · rename_i open'
    simp [open']

@[simp]
theorem findSession_putSession (session : Session) (other : Nat) :
    (state.putSession sessionHandle session).findSession other =
      if other = sessionHandle then some session else state.findSession other :=
  OrderedMap.get?_insert _ _ _ _

@[simp]
theorem findSlot_putSession (session : Session) (slotId : Nat) :
    (state.putSession sessionHandle session).findSlot slotId = state.findSlot slotId :=
  rfl

@[simp]
theorem objects_putSession (session : Session) :
    (state.putSession sessionHandle session).objects = state.objects :=
  rfl

/-- Storing the record that is there changes nothing. -/
theorem putSession_self {session : Session}
    (found : state.findSession sessionHandle = some session) :
    state.putSession sessionHandle session = state := by
  have same : state.sessions.insert sessionHandle session = state.sessions := by
    apply OrderedMap.ext_get?
    intro other
    rw [OrderedMap.get?_insert]
    split
    · rename_i isSession
      rw [isSession]
      exact found.symm
    · rfl
  exact congrArg (fun sessions => { state with sessions := sessions }) same

section

/-! What a session sees and may use depends on its slot, not on the rest of its record. -/

variable {session changed : Session} (found : state.findSession sessionHandle = some session)
  (sameSlot : changed.slotId = session.slotId)

include found sameSlot

theorem findObject_putSession :
    (state.putSession sessionHandle changed).findObject sessionHandle handle =
      state.findObject sessionHandle handle := by
  simp only [findObject, findSession_putSession, if_pos, found, objects_putSession]
  cases state.objects.get? handle with
  | none => rfl
  | some object =>
      dsimp only
      rw [sameSlot]

theorem sessionSlot_putSession :
    (state.putSession sessionHandle changed).sessionSlot sessionHandle =
      state.sessionSlot sessionHandle := by
  simp only [sessionSlot, findSession_putSession, if_pos, found, Option.bind_some,
    findSlot_putSession, sameSlot]

theorem requireUserLogin_putSession :
    (state.putSession sessionHandle changed).requireUserLogin sessionHandle =
      state.requireUserLogin sessionHandle := by
  rw [requireUserLogin, requireUserLogin, sessionSlot_putSession found sameSlot]

theorem objectAccessStatus_putSession :
    (state.putSession sessionHandle changed).objectAccessStatus sessionHandle object =
      state.objectAccessStatus sessionHandle object := by
  rw [objectAccessStatus, objectAccessStatus, requireUserLogin_putSession found sameSlot]

end

/-- The handle names an object of the session's slot that the session may look at. -/
def Accessible (state : State) (sessionHandle handle : Nat) : Prop :=
  ∃ object, state.findObject sessionHandle handle = some object ∧
    state.objectAccessStatus sessionHandle object = .ok ()

end State

end HsmSimulator
