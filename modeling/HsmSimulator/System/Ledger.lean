import HsmSimulator.Library.Traces
import HsmSimulator.Pkcs11.Registry

/-!
# The sessions as an application keeps them

A ledger is written from the calls and their answers alone: which sessions are open, on
which slot and with which flags, and who is logged in where.  It is the session protocol
without the module.  The module refines it: in every run the ledger agrees with the session
and slot tables, so that it foretells the answers about sessions.
-/

namespace HsmSimulator

open Checks

/-! ## The protocol -/

/-- What is fixed when a session is opened. -/
structure Opening where
  slotId : Nat
  flags : Nat
  deriving DecidableEq, Repr

/-- The open sessions and the roles that are logged in. -/
structure Ledger where
  isOpen : Bool
  sessions : OrderedMap Nat Opening
  roles : OrderedMap Nat UserType
  deriving DecidableEq

namespace Ledger

/-- Before the first initialisation. -/
def blank : Ledger := ⟨false, ∅, ∅⟩

/-- The open sessions of a slot. -/
def sessionsOf (ledger : Ledger) (slotId : Nat) : List Opening :=
  ledger.sessions.values.filter fun opening => opening.slotId = slotId

/-- A session ends; the login of its slot ends with the last one. -/
def close (ledger : Ledger) (sessionHandle : Nat) : Ledger :=
  match ledger.sessions.get? sessionHandle with
  | none => ledger
  | some opening =>
      let closed := { ledger with sessions := ledger.sessions.erase sessionHandle }
      if closed.sessionsOf opening.slotId = [] then
        { closed with roles := closed.roles.erase opening.slotId }
      else closed

def closeAll (ledger : Ledger) (slotId : Nat) : Ledger :=
  { ledger with
    sessions := ledger.sessions.eraseIf fun _ opening => opening.slotId = slotId
    roles := ledger.roles.erase slotId }

/-- A role logs in to the slot of a session. -/
def logIn (ledger : Ledger) (sessionHandle : Nat) (role : Option UserType) : Ledger :=
  match ledger.sessions.get? sessionHandle, role with
  | some opening, some role => { ledger with roles := ledger.roles.insert opening.slotId role }
  | _, _ => ledger

def logOut (ledger : Ledger) (sessionHandle : Nat) : Ledger :=
  match ledger.sessions.get? sessionHandle with
  | none => ledger
  | some opening => { ledger with roles := ledger.roles.erase opening.slotId }

/-- What a successful call says. -/
def after (ledger : Ledger) : Call → Output → Ledger
  | .cInitialize _, _ => ⟨true, ∅, ∅⟩
  | .cFinalize _, _ => blank
  | .openSession slotId flags _, .handle handle =>
      { ledger with sessions := ledger.sessions.insert handle ⟨slotId, flags⟩ }
  | .closeSession sessionHandle, _ => ledger.close sessionHandle
  | .closeAllSessions slotId, _ => ledger.closeAll slotId
  | .login sessionHandle userType _, _ =>
      ledger.logIn sessionHandle (UserType.ofNumber userType)
  | .logout sessionHandle, _ => ledger.logOut sessionHandle
  | _, _ => ledger

/-- A failing call says nothing. -/
def note (ledger : Ledger) (call : Call) (response : Response) : Ledger :=
  if response.rv = .ok then ledger.after call response.output else ledger

/-- `CK_STATE` of an open session. -/
def stateOf (ledger : Ledger) (opening : Opening) : Nat :=
  match ledger.roles.get? opening.slotId, opening.flags &&& ckfRwSession != 0 with
  | some .so, _ => cksRwSoFunctions
  | some .user, true => cksRwUserFunctions
  | some .user, false => cksRoUserFunctions
  | none, true => cksRwPublicSession
  | none, false => cksRoPublicSession

/-- Some open session of the slot is read-only. -/
def hasReadOnly (ledger : Ledger) (slotId : Nat) : Bool :=
  (ledger.sessionsOf slotId).any fun opening => opening.flags &&& ckfRwSession == 0

/-- The code with which a login is refused before its PIN is looked at. -/
def loginRefusal (ledger : Ledger) (sessionHandle userType : Nat) (pin : Buffer) : Option Rv :=
  match ledger.sessions.get? sessionHandle, UserType.ofNumber userType with
  | none, _ => some .sessionHandleInvalid
  | some _, none => some .userTypeInvalid
  | some opening, some role =>
      if pin.isMissing then some .argumentsBad
      else
        match ledger.roles.get? opening.slotId with
        | some present =>
            some (if present = role then .userAlreadyLoggedIn else .userAnotherAlreadyLoggedIn)
        | none =>
            if role = .so ∧ opening.flags &&& ckfRwSession = 0 then some .sessionReadOnly
            else if role = .so ∧ ledger.hasReadOnly opening.slotId = true then
              some .sessionReadOnlyExists
            else none

/-- The answer to `C_Logout`. -/
def logoutAnswer (ledger : Ledger) (sessionHandle : Nat) : Rv :=
  match ledger.sessions.get? sessionHandle with
  | none => .sessionHandleInvalid
  | some opening => if ledger.roles.get? opening.slotId = none then .userNotLoggedIn else .ok

/-- The answer to `C_OpenSession` on a slot that exists. -/
def openAnswer (ledger : Ledger) (slotId flags : Nat) : Rv :=
  if flags &&& ckfSerialSession = 0 then .sessionParallelNotSupported
  else if flags &&& ckfRwSession = 0 ∧ ledger.roles.get? slotId = some .so then
    .sessionReadWriteSoExists
  else .ok

/-- The answer to `C_GetSessionInfo`. -/
def sessionInfo (ledger : Ledger) (sessionHandle : Nat) : Response :=
  if ledger.isOpen then
    match ledger.sessions.get? sessionHandle with
    | none => .plain .sessionHandleInvalid
    | some opening =>
        .success (.info (.session opening.slotId (ledger.stateOf opening) opening.flags))
  else .plain .cryptokiNotInitialized

end Ledger

/-- The ledger of a trace. -/
def ledgerOf (events : List ((Call × Oracle) × Response)) : Ledger :=
  Runs.observe (fun ledger input response => ledger.note input.1 response) .blank events

/-! ## Agreement -/

/-- A session as it was opened. -/
def Session.opening (session : Session) : Opening := ⟨session.slotId, session.flags⟩

/-- The ledger is the session table and the logins of the slots. -/
structure Tells (state : State) (ledger : Ledger) : Prop where
  isOpen : ledger.isOpen = state.initialized
  sessions : ledger.sessions = state.sessions.mapValues Session.opening
  roles : ∀ id, ledger.roles.get? id = (state.findSlot id).bind Slot.loggedInUser

/-- The calls that the ledger takes note of. -/
def Call.keepsLedger : Call → Bool
  | .cInitialize _ => false
  | .cFinalize _ => false
  | .openSession .. => false
  | .closeSession _ => false
  | .closeAllSessions _ => false
  | .login .. => false
  | .logout _ => false
  | _ => true

section

variable {host : Host} {oracle : Oracle} {state next : State} {call : Call} {ledger : Ledger}

theorem Tells.congr (tells : Tells state ledger) (isOpen : next.initialized = state.initialized)
    (sessions : next.sessions.mapValues Session.opening =
      state.sessions.mapValues Session.opening)
    (roles : ∀ id, (next.findSlot id).bind Slot.loggedInUser =
      (state.findSlot id).bind Slot.loggedInUser) : Tells next ledger :=
  ⟨tells.isOpen.trans isOpen.symm, tells.sessions.trans sessions.symm,
    fun id => (tells.roles id).trans (roles id).symm⟩

theorem Ledger.after_of_keeps (keeps : call.keepsLedger = true) (output : Output) :
    ledger.after call output = ledger := by
  cases call <;> first | rfl | contradiction

theorem openings_putSession {sessionHandle : Nat} {session changed : Session}
    (found : state.findSession sessionHandle = some session)
    (same : changed.opening = session.opening) :
    (state.putSession sessionHandle changed).sessions.mapValues Session.opening =
      state.sessions.mapValues Session.opening := by
  apply OrderedMap.ext_get?
  intro handle
  rw [OrderedMap.get?_mapValues, OrderedMap.get?_mapValues, State.putSession,
    OrderedMap.get?_insert]
  split
  · rename_i isHandle
    rw [isHandle, show state.sessions.get? sessionHandle = some session from found]
    exact congrArg some same
  · rfl

theorem roles_putSlot {slot changed : Slot} (found : state.findSlot slot.id = some slot)
    (same : changed.loggedInUser = slot.loggedInUser) (id : Nat) :
    ((state.putSlot slot.id changed).findSlot id).bind Slot.loggedInUser =
      (state.findSlot id).bind Slot.loggedInUser := by
  rw [findSlot_putSlot]
  split
  · rename_i isSlot
    rw [isSlot, found]
    exact same
  · rfl

/-- The other calls change neither a session's opening nor a login. -/
theorem Tells.kept {result : State × Response} (tells : Tells state ledger)
    (wellFormed : WellFormed state) (effect : Effect host oracle state call result)
    (keeps : call.keepsLedger = true) : Tells result.1 ledger := by
  cases effect with
  | quiet _ _ => exact tells
  | updated _ found update _ =>
      refine tells.congr rfl (openings_putSession found ?_) fun _ => rfl
      rw [Session.opening, update.slotId, update.flags, Session.opening]
  | opened _ _ => contradiction
  | closed _ _ => contradiction
  | closedLast _ _ _ => contradiction
  | closedAll _ => contradiction
  | loggedIn _ _ => contradiction
  | loggedOut _ _ _ => contradiction
  | @pinChanged _ _ _ slot role pin _ _ _ slotFound _ _ =>
      have slotKey := wellFormed.slotKey _ _ slotFound
      rw [← slotKey] at slotFound
      have sameRole : (slot.withPin role pin.content).loggedInUser = slot.loggedInUser := by
        cases role <;> rfl
      exact tells.congr rfl rfl fun id => roles_putSlot slotFound sameRole id
  | pinLeft _ _ _ _ _ => exact tells.congr rfl rfl fun _ => rfl
  | sessionObjectChanged _ _ => exact tells.congr rfl rfl fun _ => rfl
  | tokenObjectChanged _ _ _ _ => exact tells.congr rfl rfl fun _ => rfl
  | metadataLeft _ _ _ => exact tells.congr rfl rfl fun _ => rfl
  | sessionObjectDestroyed _ _ => exact tells.congr rfl rfl fun _ => rfl
  | keyFileDestroyed _ _ _ => exact tells.congr rfl rfl fun _ => rfl
  | creation _ _ ends =>
      rw [ends.frame]
      exact tells.congr rfl rfl fun _ => rfl
  | finalized => contradiction
  | initializing _ => contradiction

end

/-! ## The calls about sessions -/

section

variable {host : Host} {oracle : Oracle} {state : State} {ledger : Ledger}

theorem Ledger.note_ok {call : Call} {response : Response} (ok : response.rv = .ok) :
    ledger.note call response = ledger.after call response.output :=
  if_pos ok

theorem Ledger.note_failed {call : Call} {response : Response} (failed : response.rv ≠ .ok) :
    ledger.note call response = ledger :=
  if_neg failed

theorem Tells.session (tells : Tells state ledger) {handle : Nat} {session : Session}
    (found : state.findSession handle = some session) :
    ledger.sessions.get? handle = some session.opening := by
  rw [tells.sessions, OrderedMap.get?_mapValues, show state.sessions.get? handle = _ from found]
  rfl

theorem sessionsOf_eq_nil_iff {sessions : OrderedMap Nat Session} (isOpen : Bool)
    (roles : OrderedMap Nat UserType) (id : Nat) :
    Ledger.sessionsOf ⟨isOpen, sessions.mapValues Session.opening, roles⟩ id = [] ↔
      sessions.values.any (fun session => session.slotId = id) = false := by
  rw [Ledger.sessionsOf, List.filter_eq_nil_iff, List.any_eq_false]
  constructor
  · intro none session member
    rcases OrderedMap.mem_values_iff.mp member with ⟨handle, found⟩
    refine none session.opening (OrderedMap.mem_values_iff.mpr ⟨handle, ?_⟩)
    rw [OrderedMap.get?_mapValues, found]
    rfl
  · intro none opening member
    rcases OrderedMap.mem_values_iff.mp member with ⟨handle, found⟩
    rw [OrderedMap.get?_mapValues, Option.map_eq_some_iff] at found
    rcases found with ⟨session, found, rfl⟩
    exact none session (OrderedMap.mem_values_iff.mpr ⟨handle, found⟩)

/-- The login of one slot ends. -/
theorem roles_loggedOut {next : State} {slot : Slot} {roles : OrderedMap Nat UserType}
    (tells : ∀ id, roles.get? id = (state.findSlot id).bind Slot.loggedInUser)
    (slots : ∀ id, next.findSlot id = if id = slot.id then some slot.loggedOut
      else state.findSlot id) (id : Nat) :
    (roles.erase slot.id).get? id = (next.findSlot id).bind Slot.loggedInUser := by
  rw [OrderedMap.get?_erase, slots]
  split
  · rfl
  · exact tells id

theorem Tells.closeSession (tells : Tells state ledger) (wellFormed : WellFormed state)
    (sessionHandle : Nat) :
    Tells (closeSession state sessionHandle).1
      (ledger.note (.closeSession sessionHandle) (closeSession state sessionHandle).2) := by
  unfold HsmSimulator.closeSession
  cases found : state.findSession sessionHandle with
  | none => exact tells
  | some session =>
      rcases wellFormed.sessionSlot sessionHandle session found with ⟨slot, slotFound⟩
      have slotKey := wellFormed.slotKey _ _ slotFound
      have still : (state.dropSession sessionHandle).findSlot session.slotId = some slot :=
        slotFound
      have erased : ledger.sessions.erase sessionHandle =
          (state.sessions.erase sessionHandle).mapValues Session.opening := by
        rw [tells.sessions, OrderedMap.mapValues_erase]
      have last : Ledger.sessionsOf { ledger with
            sessions := ledger.sessions.erase sessionHandle } session.opening.slotId = [] ↔
          (state.dropSession sessionHandle).hasSession session.slotId = false := by
        rw [erased]
        exact sessionsOf_eq_nil_iff _ _ _
      dsimp only
      split
      · rename_i others
        rw [Ledger.note_ok rfl, Ledger.after, Ledger.close, tells.session found]
        dsimp only
        rw [if_neg (by simp [last, others])]
        exact ⟨tells.isOpen, erased, tells.roles⟩
      · rename_i noOthers
        rw [Bool.not_eq_true] at noOthers
        rw [still]
        dsimp only
        rw [Ledger.note_ok rfl, Ledger.after, Ledger.close, tells.session found]
        dsimp only
        rw [if_pos (last.mpr noOthers), show session.opening.slotId = slot.id from slotKey.symm,
          ← slotKey]
        exact ⟨tells.isOpen, erased, roles_loggedOut tells.roles fun id => findSlot_putSlot _ _ _ _⟩

theorem Tells.closeAllSessions (tells : Tells state ledger) (wellFormed : WellFormed state)
    (slotId : Nat) :
    Tells (closeAllSessions state slotId).1
      (ledger.note (.closeAllSessions slotId) (closeAllSessions state slotId).2) := by
  unfold HsmSimulator.closeAllSessions
  cases found : state.findSlot slotId with
  | none => exact tells
  | some slot =>
      have slotKey := wellFormed.slotKey _ _ found
      subst slotKey
      dsimp only
      rw [Ledger.note_ok rfl, Ledger.after, Ledger.closeAll, tells.sessions]
      have closed : (state.sessions.eraseIf fun _ session => session.slotId = slot.id).mapValues
          Session.opening = (state.sessions.mapValues Session.opening).eraseIf
            fun _ opening => opening.slotId = slot.id :=
        OrderedMap.mapValues_eraseIf _ _ fun _ _ _ => rfl
      rw [← closed]
      exact ⟨tells.isOpen, rfl, roles_loggedOut tells.roles fun id => findSlot_putSlot _ _ _ _⟩

theorem Tells.openSession (tells : Tells state ledger) (wellFormed : WellFormed state)
    (slotId flags : Nat) (hasHandle : Bool) :
    Tells (openSession state slotId flags hasHandle).1
      (ledger.note (.openSession slotId flags hasHandle)
        (openSession state slotId flags hasHandle).2) := by
  have fresh : state.sessions.get? state.nextSessionHandle = none :=
    wellFormed.freshSession (Nat.le_refl _)
  unfold HsmSimulator.openSession
  cases checks : openSessionChecks state slotId flags hasHandle with
  | error code =>
      have failed : code ≠ .ok := by
        rintro rfl
        simp [openSessionChecks, bind_eq_error_iff] at checks
      dsimp only
      rw [Ledger.note_failed failed]
      exact tells
  | ok value =>
      dsimp only
      rw [OrderedMap.emplace_of_fresh fresh, Ledger.note_ok rfl]
      refine ⟨tells.isOpen, ?_, tells.roles⟩
      rw [OrderedMap.mapValues_insert, ← tells.sessions]
      rfl

theorem Tells.login (tells : Tells state ledger) (sessionHandle userType : Nat) (pin : Buffer) :
    Tells (login state sessionHandle userType pin).1
      (ledger.note (.login sessionHandle userType pin)
        (login state sessionHandle userType pin).2) := by
  unfold HsmSimulator.login
  cases checks : loginChecks state sessionHandle userType pin with
  | error code =>
      have failed : code ≠ .ok := by
        rintro rfl
        exact loginChecks_ne_ok _ _ _ _ checks
      dsimp only
      rw [Ledger.note_failed failed]
      exact tells
  | ok result =>
      rcases result with ⟨session, slot, role⟩
      simp only [loginChecks, bind_eq_ok_iff, fetch_eq_ok_iff, require_eq_ok_iff, pure_eq_ok,
        Except.ok.injEq, Prod.mk.injEq] at checks
      rcases checks with ⟨found, sessionFound, asked, isRole, _, _, stored, _, _, _, _, _, _, _,
        rfl, rfl, rfl⟩
      have noted : ledger.logIn sessionHandle (UserType.ofNumber userType) =
          { ledger with roles := ledger.roles.insert found.slotId asked } := by
        rw [isRole]
        unfold Ledger.logIn
        rw [tells.session sessionFound]
        rfl
      dsimp only
      rw [Ledger.note_ok rfl, Ledger.after, noted]
      refine ⟨tells.isOpen, tells.sessions, fun id => ?_⟩
      rw [OrderedMap.get?_insert, findSlot_putSlot]
      split
      · rfl
      · exact tells.roles id

theorem Tells.logout (tells : Tells state ledger) (wellFormed : WellFormed state)
    (sessionHandle : Nat) :
    Tells (logout state sessionHandle).1
      (ledger.note (.logout sessionHandle) (logout state sessionHandle).2) := by
  unfold HsmSimulator.logout
  split
  · rename_i code checks
    have failed : code ≠ .ok := by
      rintro rfl
      simp [bind_eq_error_iff, Exception.code] at checks
    dsimp only
    rw [Ledger.note_failed failed]
    exact tells
  · rename_i session slot checks
    simp only [bind_eq_ok_iff, fetch_eq_ok_iff, require_eq_ok_iff, pure_eq_ok, Except.ok.injEq,
      Prod.mk.injEq] at checks
    rcases checks with ⟨found, sessionFound, stored, slotOfSession, _, _, rfl, rfl⟩
    rcases State.sessionSlot_eq_some_iff.mp slotOfSession with ⟨other, otherFound, slotFound⟩
    rw [sessionFound] at otherFound
    cases otherFound
    have slotKey := wellFormed.slotKey _ _ slotFound
    dsimp only
    rw [Ledger.note_ok rfl, Ledger.after, Ledger.logOut, tells.session sessionFound]
    dsimp only
    rw [show found.opening.slotId = stored.id from slotKey.symm, ← slotKey]
    refine ⟨tells.isOpen, ?_, roles_loggedOut tells.roles fun id => findSlot_putSlot _ _ _ _⟩
    rw [tells.sessions]
    apply OrderedMap.ext_get?
    intro other
    simp only [State.purgeSlot, OrderedMap.get?_mapValues, Option.map_map]
    congr 1
    funext session
    simp only [Function.comp_apply]
    split <;> rfl

theorem Tells.initialize (tells : Tells state ledger) (wellFormed : WellFormed state)
    (hasReserved : Bool) :
    Tells (cInitialize host state oracle hasReserved).1
      (ledger.note (.cInitialize hasReserved) (cInitialize host state oracle hasReserved).2) := by
  cases isOpen : state.initialized with
  | true =>
      rw [show cInitialize host state oracle hasReserved =
        (state, .plain .cryptokiAlreadyInitialized) from if_pos isOpen]
      exact tells
  | false =>
      cases hasReserved with
      | true =>
          rw [show cInitialize host state oracle true = (state, .plain .argumentsBad) by
            simp [cInitialize, isOpen]]
          exact tells
      | false =>
          rcases wellFormed.closed isOpen with ⟨noSlots, _, noSessions⟩
          have initialization := cInitialize_initialization host oracle isOpen
          generalize cInitialize host state oracle false = result at initialization ⊢
          cases initialization with
          | failed stillClosed slots _ sessions _ _ _ _ =>
              refine tells.congr (stillClosed.trans isOpen.symm) (by rw [sessions]) fun id => ?_
              rw [State.findSlot, State.findSlot, slots, noSlots]
          | @succeeded disk slots next _ discovered loaded =>
              have sameSlots : next.slots = slots := loaded.slots_eq
              refine ⟨rfl, ?_, fun id => ?_⟩
              · change ∅ = next.sessions.mapValues Session.opening
                rw [loaded.sessions_eq.1]
                change ∅ = state.sessions.mapValues Session.opening
                rw [noSessions]
                rfl
              · change none = (next.slots.get? id).bind Slot.loggedInUser
                rw [sameSlots]
                cases found : slots.get? id with
                | none => rfl
                | some slot =>
                    rcases discovered.origin id slot found with ⟨_, _, _, loadedFrom⟩
                    exact loadedFrom.nobody.symm

/-- The ledger is kept by one call. -/
theorem Tells.step (tells : Tells state ledger) (wellFormed : WellFormed state)
    (input : Call × Oracle) :
    Tells (HsmSimulator.step host state input).1
      (ledger.note input.1 (HsmSimulator.step host state input).2) := by
  rcases input with ⟨call, oracle⟩
  cases keeps : call.keepsLedger with
  | true =>
      rw [Ledger.note, Ledger.after_of_keeps keeps, ite_self]
      exact tells.kept wellFormed (step_effect wellFormed call) keeps
  | false =>
      unfold HsmSimulator.step
      split
      · exact tells
      · cases call with
        | cInitialize hasReserved => exact tells.initialize wellFormed hasReserved
        | cFinalize hasReserved =>
            change Tells (cFinalize state hasReserved).1
              (ledger.note _ (cFinalize state hasReserved).2)
            unfold cFinalize
            split
            · exact tells
            · split
              · exact tells
              · exact ⟨rfl, rfl, fun id => rfl⟩
        | openSession slotId flags hasHandle =>
            exact tells.openSession wellFormed slotId flags hasHandle
        | closeSession sessionHandle => exact tells.closeSession wellFormed sessionHandle
        | closeAllSessions slotId => exact tells.closeAllSessions wellFormed slotId
        | login sessionHandle userType pin => exact tells.login sessionHandle userType pin
        | logout sessionHandle => exact tells.logout wellFormed sessionHandle
        | _ => contradiction

theorem tells_loaded (disk : FileSystem) : Tells (.loaded disk) .blank :=
  ⟨rfl, rfl, fun _ => rfl⟩

/-- The ledger agrees with the tables after every run. -/
theorem tells_run (host : Host) (disk : FileSystem) (inputs : List (Call × Oracle)) :
    Tells (Runs.final (HsmSimulator.step host) (.loaded disk) inputs)
      (ledgerOf (Runs.trace (HsmSimulator.step host) (.loaded disk) inputs)) := by
  have kept : ∀ state ledger input, WellFormed state ∧ Tells state ledger →
      WellFormed (HsmSimulator.step host state input).1 ∧
        Tells (HsmSimulator.step host state input).1
          (ledger.note input.1 (HsmSimulator.step host state input).2) :=
    fun _ _ input ⟨wellFormed, tells⟩ => ⟨wellFormed.step input, tells.step wellFormed input⟩
  have related := Runs.observe_run kept ⟨wellFormed_loaded disk, tells_loaded disk⟩ inputs
  exact related.2

end

/-! ## What the ledger foretells -/

/-- The answers about sessions are those of the ledger. -/
structure Foretells (host : Host) (state : State) (ledger : Ledger) : Prop where
  sessionInfo : ∀ sessionHandle oracle,
    step host state (.getSessionInfo sessionHandle true, oracle) =
      (state, ledger.sessionInfo sessionHandle)
  /-- A token counts the sessions of its slot. -/
  counts : ∀ slotId oracle label manufacturer model serialNumber flags most count mostReadWrite
    readWrite longest shortest,
    (step host state (.getTokenInfo slotId true, oracle)).2.output =
      .info (.token label manufacturer model serialNumber flags most count mostReadWrite readWrite
        longest shortest) →
      count = (ledger.sessionsOf slotId).length ∧
        readWrite = ((ledger.sessionsOf slotId).filter fun opening =>
          opening.flags &&& ckfRwSession != 0).length
  /-- A login is refused as foretold, or its PIN decides. -/
  login : ledger.isOpen = true → ∀ sessionHandle userType pin oracle,
    match ledger.loginRefusal sessionHandle userType pin with
    | some code => step host state (.login sessionHandle userType pin, oracle) =
        (state, .plain code)
    | none => (step host state (.login sessionHandle userType pin, oracle)).2.rv ∈
        [.ok, .pinIncorrect, .userPinNotInitialized]
  logout : ledger.isOpen = true → ∀ sessionHandle oracle,
    (step host state (.logout sessionHandle, oracle)).2 =
      .plain (ledger.logoutAnswer sessionHandle)
  openSession : ledger.isOpen = true → ∀ slotId flags oracle, state.findSlot slotId ≠ none →
    (step host state (.openSession slotId flags true, oracle)).2.rv =
      ledger.openAnswer slotId flags
  /-- A session that is not open serves no call. -/
  refused : ∀ call oracle sessionHandle, call.session? = some sessionHandle →
    ledger.sessions.get? sessionHandle = none →
      step host state (call, oracle) =
        (state, .plain (if ledger.isOpen then .sessionHandleInvalid else .cryptokiNotInitialized))
  /-- A module that is not open serves no call but `C_Initialize`. -/
  closed : ∀ call oracle, ledger.isOpen = false → call.needsInitialization = true →
    step host state (call, oracle) = (state, .plain .cryptokiNotInitialized)

section

variable {host : Host} {oracle : Oracle} {state : State} {ledger : Ledger}

/-- Every service of a session finds it first. -/
theorem service_of_no_session {call : Call} {sessionHandle : Nat}
    (onSession : call.session? = some sessionHandle)
    (none : state.findSession sessionHandle = none) :
    service host oracle state call = (state, .plain .sessionHandleInvalid) := by
  cases call <;> first | contradiction | cases onSession
  all_goals
    simp only [service, closeSession, getSessionInfo, initPin, initPinChecks, setPin,
      setPinChecks, login, loginChecks, logout, destroyObject, destroyableObject,
      alterableObject, getAttributeValue, readableObject, setAttributeValue, changedObject,
      findObjectsInit, searchingSession, findObjects, findObjectsFinal, signInit, verifyInit,
      initializeSignature, signatureOperation, sign, signUpdate, signFinal, verify,
      verifyUpdate, verifyFinal, appendSignatureData, signingSession, generateKey,
      generatedKeyLength, generateKeyPair, generatedPair, pairTemplates, wrapKey, wrapInput,
      unwrapKey, unwrappedBytes, deriveKey, derivation, generateRandom, none, fetch_none,
      error_bind]

theorem step_of_closed {call : Call} (closed : state.initialized = false)
    (needs : call.needsInitialization = true) :
    HsmSimulator.step host state (call, oracle) = (state, .plain .cryptokiNotInitialized) :=
  if_pos ⟨needs, closed⟩

theorem Call.needsInitialization_of_session {call : Call} {sessionHandle : Nat}
    (onSession : call.session? = some sessionHandle) : call.needsInitialization = true := by
  cases call <;> first | rfl | contradiction

/-- What is left to a login that is not refused is to check its PIN. -/
theorem acceptPin_code {slot : Slot} {role : UserType} {pin : Buffer} {code : Rv}
    (given : pin.isMissing = false) (refused : acceptPin slot role pin = .error code) :
    code = .pinIncorrect ∨ code = .userPinNotInitialized := by
  unfold acceptPin at refused
  split at refused
  · contradiction
  · simp only [checkPin, bind_eq_error_iff, require_eq_error_iff, fetch_eq_error_iff, given,
      not_true_eq_false, false_and, false_or] at refused
    rcases refused with ⟨_, _, ⟨_, rfl⟩ | ⟨_, _, _, rfl⟩⟩
    · exact Or.inr rfl
    · exact Or.inl rfl

namespace Tells

variable (tells : Tells state ledger)

include tells

theorem findSession_eq_none {sessionHandle : Nat}
    (absent : ledger.sessions.get? sessionHandle = none) :
    state.findSession sessionHandle = none := by
  rw [tells.sessions, OrderedMap.get?_mapValues, Option.map_eq_none_iff] at absent
  exact absent

/-- What the ledger says of the sessions of a slot. -/
theorem sessionsOf_eq (slotId : Nat) : ledger.sessionsOf slotId =
    (state.sessions.values.filter fun session => session.slotId = slotId).map
      Session.opening := by
  rw [Ledger.sessionsOf, tells.sessions, OrderedMap.values_mapValues, List.filter_map]
  rfl

theorem hasReadOnly_eq (slotId : Nat) :
    ledger.hasReadOnly slotId = state.hasReadOnlySession slotId := by
  rw [Ledger.hasReadOnly, tells.sessionsOf_eq, List.any_map, List.any_filter,
    State.hasReadOnlySession]
  congr 1
  funext session
  simp [Session.opening, Session.isReadWrite, bne]

theorem stateOf_eq {session : Session} {slot : Slot}
    (slotFound : state.findSlot session.slotId = some slot) :
    ledger.stateOf session.opening = sessionState slot session := by
  have role : ledger.roles.get? session.opening.slotId = slot.loggedInUser := by
    rw [tells.roles, show session.opening.slotId = session.slotId from rfl, slotFound]
    rfl
  rw [Ledger.stateOf, role, sessionState, Session.isReadWrite,
    show session.opening.flags = session.flags from rfl]
  cases slot.loggedInUser with
  | none => cases session.flags &&& ckfRwSession != 0 <;> rfl
  | some role => cases role <;> cases session.flags &&& ckfRwSession != 0 <;> rfl

theorem sessionInfo_eq (wellFormed : WellFormed state) (sessionHandle : Nat) :
    HsmSimulator.step host state (.getSessionInfo sessionHandle true, oracle) =
      (state, ledger.sessionInfo sessionHandle) := by
  unfold Ledger.sessionInfo
  rw [tells.isOpen]
  cases isOpen : state.initialized with
  | false => exact step_of_closed isOpen rfl
  | true =>
      rw [step_of_open isOpen]
      cases found : state.findSession sessionHandle with
      | none =>
          rw [service_of_no_session rfl found, tells.sessions, OrderedMap.get?_mapValues,
            show state.sessions.get? sessionHandle = none from found]
          rfl
      | some session =>
          rcases wellFormed.sessionSlot sessionHandle session found with ⟨slot, slotFound⟩
          have slotOfSession : state.sessionSlot sessionHandle = some slot :=
            State.sessionSlot_eq_some_iff.mpr ⟨session, found, slotFound⟩
          rw [tells.session found]
          simp only [service, getSessionInfo, found, slotOfSession, fetch_some, ok_bind, require,
            if_true, pure_eq_ok, tells.stateOf_eq slotFound]
          rfl

theorem counts (slotId : Nat) {label manufacturer model serialNumber : Bytes}
    {flags most count mostReadWrite readWrite longest shortest : Nat}
    (answered : (HsmSimulator.step host state (.getTokenInfo slotId true, oracle)).2.output =
      .info (.token label manufacturer model serialNumber flags most count mostReadWrite readWrite
        longest shortest)) :
    count = (ledger.sessionsOf slotId).length ∧
      readWrite = ((ledger.sessionsOf slotId).filter fun opening =>
        opening.flags &&& ckfRwSession != 0).length := by
  rw [tells.sessionsOf_eq, List.length_map, List.filter_map, List.length_map]
  unfold HsmSimulator.step at answered
  split at answered
  · contradiction
  · change (getTokenInfo state slotId true).output = _ at answered
    unfold getTokenInfo at answered
    split at answered
    · contradiction
    · simp only [Response.success_output, Output.info.injEq, Info.token.injEq] at answered
      exact ⟨answered.2.2.2.2.2.2.1.symm, answered.2.2.2.2.2.2.2.2.1.symm⟩

theorem logout_eq (wellFormed : WellFormed state) (isOpen : ledger.isOpen = true)
    (sessionHandle : Nat) :
    (HsmSimulator.step host state (.logout sessionHandle, oracle)).2 =
      .plain (ledger.logoutAnswer sessionHandle) := by
  rw [tells.isOpen] at isOpen
  rw [step_of_open isOpen]
  cases found : state.findSession sessionHandle with
  | none =>
      rw [service_of_no_session rfl found, Ledger.logoutAnswer, tells.sessions,
        OrderedMap.get?_mapValues, show state.sessions.get? sessionHandle = none from found]
      rfl
  | some session =>
      rcases wellFormed.sessionSlot sessionHandle session found with ⟨slot, slotFound⟩
      have slotOfSession : state.sessionSlot sessionHandle = some slot :=
        State.sessionSlot_eq_some_iff.mpr ⟨session, found, slotFound⟩
      have role : ledger.roles.get? session.opening.slotId = slot.loggedInUser := by
        rw [tells.roles, show session.opening.slotId = session.slotId from rfl, slotFound]
        rfl
      unfold Ledger.logoutAnswer
      rw [tells.session found]
      dsimp only
      rw [role]
      cases somebody : slot.loggedInUser with
      | none =>
          simp [service, HsmSimulator.logout, found, slotOfSession, somebody, require]
      | some present =>
          simp [service, HsmSimulator.logout, found, slotOfSession, somebody, require]

theorem openSession_eq (isOpen : ledger.isOpen = true) {slotId : Nat} (flags : Nat)
    (exists' : state.findSlot slotId ≠ none) :
    (HsmSimulator.step host state (.openSession slotId flags true, oracle)).2.rv =
      ledger.openAnswer slotId flags := by
  rw [tells.isOpen] at isOpen
  rw [step_of_open isOpen]
  rcases Option.ne_none_iff_exists'.mp exists' with ⟨slot, found⟩
  have role : ledger.roles.get? slotId = slot.loggedInUser := by
    rw [tells.roles, found]
    rfl
  change (HsmSimulator.openSession state slotId flags true).2.rv = _
  unfold HsmSimulator.openSession openSessionChecks Ledger.openAnswer
  rw [found, role, fetch_some, ok_bind]
  by_cases serial : flags &&& ckfSerialSession = 0
  · simp [require, serial]
  · by_cases officer : flags &&& ckfRwSession = 0 ∧ slot.loggedInUser = some .so
    · simp [require, serial, officer]
    · have allowed : flags &&& ckfRwSession ≠ 0 ∨ slot.loggedInUser ≠ some .so := by
        by_contra neither
        rw [not_or, not_not, not_not] at neither
        exact officer neither
      simp only [require, serial, ne_eq, not_false_eq_true, if_true, ok_bind, if_neg officer,
        if_pos allowed, if_false, Response.success_rv]

/-- A login is refused as the ledger says, or comes to its PIN. -/
theorem loginChecks_cases (wellFormed : WellFormed state) (sessionHandle userType : Nat)
    (pin : Buffer) :
    (∃ code, ledger.loginRefusal sessionHandle userType pin = some code ∧
        loginChecks state sessionHandle userType pin = .error code) ∨
      ledger.loginRefusal sessionHandle userType pin = none ∧ pin.isMissing = false ∧
        ∃ session slot role, loginChecks state sessionHandle userType pin =
          (acceptPin slot role pin >>= fun _ => .ok (session, slot, role)) := by
  unfold Ledger.loginRefusal loginChecks
  cases found : state.findSession sessionHandle with
  | none =>
      rw [tells.sessions, OrderedMap.get?_mapValues,
        show state.sessions.get? sessionHandle = none from found]
      exact Or.inl ⟨_, rfl, rfl⟩
  | some session =>
      rcases wellFormed.sessionSlot sessionHandle session found with ⟨slot, slotFound⟩
      have slotKey := wellFormed.slotKey _ _ slotFound
      have slotOfSession : state.sessionSlot sessionHandle = some slot :=
        State.sessionSlot_eq_some_iff.mpr ⟨session, found, slotFound⟩
      have present : ledger.roles.get? session.opening.slotId = slot.loggedInUser := by
        rw [tells.roles, show session.opening.slotId = session.slotId from rfl, slotFound]
        rfl
      rw [tells.session found, fetch_some, ok_bind]
      cases isRole : UserType.ofNumber userType with
      | none => exact Or.inl ⟨_, rfl, rfl⟩
      | some role =>
          rw [fetch_some, ok_bind, slotOfSession]
          cases missing : pin.isMissing with
          | true => exact Or.inl ⟨_, rfl, rfl⟩
          | false =>
              dsimp only
              rw [present]
              cases somebody : slot.loggedInUser with
              | some other =>
                  left
                  refine ⟨_, rfl, ?_⟩
                  simp [require, somebody]
              | none =>
                  have readOnly : session.isReadWrite = false ↔
                      session.opening.flags &&& ckfRwSession = 0 := by
                    simp [Session.isReadWrite, Session.opening]
                  have others : ledger.hasReadOnly session.opening.slotId =
                      state.hasReadOnlySession slot.id := by
                    rw [tells.hasReadOnly_eq, slotKey]
                    rfl
                  simp only [others, ← readOnly, require, somebody, if_true, ok_bind, fetch_some,
                    soLoginChecks]
                  cases role with
                  | user =>
                      right
                      exact ⟨by simp, trivial, session, slot, .user, by simp⟩
                  | so =>
                      cases session.isReadWrite with
                      | false => exact Or.inl ⟨.sessionReadOnly, by simp, by simp⟩
                      | true =>
                          cases state.hasReadOnlySession slot.id with
                          | true => exact Or.inl ⟨.sessionReadOnlyExists, by simp, by simp⟩
                          | false =>
                              right
                              exact ⟨by simp, trivial, session, slot, .so, by simp⟩

theorem login_eq (wellFormed : WellFormed state) (isOpen : ledger.isOpen = true)
    (sessionHandle userType : Nat) (pin : Buffer) :
    match ledger.loginRefusal sessionHandle userType pin with
    | some code => HsmSimulator.step host state (.login sessionHandle userType pin, oracle) =
        (state, .plain code)
    | none => (HsmSimulator.step host state (.login sessionHandle userType pin, oracle)).2.rv ∈
        [.ok, .pinIncorrect, .userPinNotInitialized] := by
  rw [tells.isOpen] at isOpen
  rw [step_of_open isOpen, show service host oracle state (.login sessionHandle userType pin) =
    HsmSimulator.login state sessionHandle userType pin from rfl, HsmSimulator.login]
  rcases tells.loginChecks_cases wellFormed sessionHandle userType pin with
    ⟨code, refused, checks⟩ | ⟨notRefused, given, session, slot, role, checks⟩
  · rw [refused, checks]
  · rw [notRefused, checks]
    cases accepted : acceptPin slot role pin with
    | ok _ => exact List.mem_cons_self
    | error code =>
        rcases acceptPin_code given accepted with rfl | rfl
        · exact List.mem_cons_of_mem _ List.mem_cons_self
        · exact List.mem_cons_of_mem _ (List.mem_cons_of_mem _ List.mem_cons_self)

theorem foretells (wellFormed : WellFormed state) : Foretells host state ledger where
  sessionInfo sessionHandle oracle := tells.sessionInfo_eq wellFormed sessionHandle
  counts slotId oracle _ _ _ _ _ _ _ _ _ _ _ answered := tells.counts slotId answered
  login isOpen sessionHandle userType pin oracle :=
    tells.login_eq wellFormed isOpen sessionHandle userType pin
  logout isOpen sessionHandle oracle := tells.logout_eq wellFormed isOpen sessionHandle
  openSession isOpen slotId flags oracle exists' := tells.openSession_eq isOpen flags exists'
  refused call oracle sessionHandle onSession absent := by
    have none := tells.findSession_eq_none absent
    cases isOpen : state.initialized with
    | true =>
        rw [step_of_open isOpen, service_of_no_session onSession none, tells.isOpen, isOpen]
        rfl
    | false =>
        rw [step_of_closed isOpen (Call.needsInitialization_of_session onSession), tells.isOpen,
          isOpen]
        rfl
  closed call oracle isClosed needs := step_of_closed (tells.isOpen.symm.trans isClosed) needs

end Tells

/-- In every run the answers about sessions are those of the ledger of its trace. -/
theorem sessions_follow_ledger (host : Host) (disk : FileSystem)
    (inputs : List (Call × Oracle)) :
    Foretells host (Runs.final (HsmSimulator.step host) (.loaded disk) inputs)
      (ledgerOf (Runs.trace (HsmSimulator.step host) (.loaded disk) inputs)) :=
  (tells_run host disk inputs).foretells (wellFormed_run disk inputs)

end

end HsmSimulator
