import HsmSimulator.Pkcs11.Handles
import HsmSimulator.Pkcs11.SignatureCalls

/-!
# Pending operations

Eleven calls change what is pending on their session.  Every other call leaves the record
of a session alone, unless it closes the session or ends all that is pending on it.  A
history records what the initialisation of an operation fixed and the data of the updates
since; the operation of the session agrees with it.
-/

namespace HsmSimulator

open Checks

/-- The calls that change what is pending on their session. -/
def Call.updatesSession : Call → Bool
  | .findObjectsInit .. => true
  | .findObjects .. => true
  | .findObjectsFinal .. => true
  | .signInit .. => true
  | .sign .. => true
  | .signUpdate .. => true
  | .signFinal .. => true
  | .verifyInit .. => true
  | .verify .. => true
  | .verifyUpdate .. => true
  | .verifyFinal .. => true
  | _ => false

/-- Nothing is pending on the session. -/
structure Session.Idle (session : Session) : Prop where
  operation : session.operation = .initial
  search : session.searchActive = false

/-- The sessions that are left have their record, or nothing is pending on them. -/
def SessionsKept (state next : State) : Prop :=
  ∀ handle session, next.findSession handle = some session →
    state.findSession handle = some session ∨ session.Idle

section

variable {host : Host} {oracle : Oracle} {state : State}

theorem SessionsKept.of_eq {next : State} (same : next.sessions = state.sessions) :
    SessionsKept state next := by
  intro handle session found
  rw [State.findSession, same] at found
  exact Or.inl found

theorem openSession_kept (wellFormed : WellFormed state) (slotId flags : Nat)
    (hasHandle : Bool) : SessionsKept state (openSession state slotId flags hasHandle).1 := by
  have fresh : state.sessions.get? state.nextSessionHandle = none :=
    wellFormed.freshSession (Nat.le_refl _)
  unfold openSession
  split
  · exact .of_eq rfl
  · intro handle session found
    dsimp only [State.findSession] at found
    rw [OrderedMap.emplace_of_fresh fresh, OrderedMap.get?_insert] at found
    split at found
    · cases found
      exact Or.inr ⟨rfl, rfl⟩
    · exact Or.inl found

theorem closeSession_kept (sessionHandle : Nat) :
    SessionsKept state (closeSession state sessionHandle).1 := by
  have dropped : SessionsKept state (state.dropSession sessionHandle) := by
    intro handle session found
    rw [State.findSession, State.dropSession, OrderedMap.get?_erase] at found
    split at found
    · contradiction
    · exact Or.inl found
  unfold closeSession
  split
  · exact .of_eq rfl
  · dsimp only
    split
    · exact dropped
    · split
      · exact dropped
      · exact dropped

theorem closeAllSessions_kept (slotId : Nat) :
    SessionsKept state (closeAllSessions state slotId).1 := by
  unfold closeAllSessions
  split
  · exact .of_eq rfl
  · intro handle session found
    rw [State.findSession] at found
    exact Or.inl (OrderedMap.get?_eraseIf_eq_some_iff.mp found).1

theorem logout_kept (sessionHandle : Nat) : SessionsKept state (logout state sessionHandle).1 := by
  unfold logout
  split
  · exact .of_eq rfl
  · intro handle session found
    rw [State.findSession, State.purgeSlot, OrderedMap.get?_mapValues, Option.map_eq_some_iff]
      at found
    rcases found with ⟨stored, storedFound, rfl⟩
    split
    · exact Or.inr ⟨rfl, rfl⟩
    · exact Or.inl storedFound

theorem changePin_sessions (slotId : Nat) (slot : Slot) (role : UserType) (pin : Buffer) :
    (changePin state oracle slotId slot role pin).1.sessions = state.sessions := by
  unfold changePin
  split <;> rfl

theorem initPin_sessions (sessionHandle : Nat) (pin : Buffer) :
    (initPin state oracle sessionHandle pin).1.sessions = state.sessions := by
  unfold initPin
  split
  · rfl
  · exact changePin_sessions _ _ _ _

theorem setPin_sessions (sessionHandle : Nat) (oldPin newPin : Buffer) :
    (setPin state oracle sessionHandle oldPin newPin).1.sessions = state.sessions := by
  unfold setPin
  split
  · rfl
  · exact changePin_sessions _ _ _ _

theorem login_sessions (sessionHandle userType : Nat) (pin : Buffer) :
    (login state sessionHandle userType pin).1.sessions = state.sessions := by
  unfold login
  split <;> rfl

theorem destroyObject_sessions (sessionHandle handle : Nat) :
    (destroyObject state oracle sessionHandle handle).1.sessions = state.sessions := by
  unfold destroyObject
  split
  · rfl
  · split
    · unfold destroyKeyFile
      dsimp only
      split <;> rfl
    · rfl

theorem setAttributeValue_sessions (sessionHandle handle : Nat) (attributes : Template) :
    (setAttributeValue state oracle sessionHandle handle attributes).1.sessions =
      state.sessions := by
  unfold setAttributeValue
  split
  · rfl
  · split
    · dsimp only
      split <;> rfl
    · rfl

theorem cInitialize_sessions (hasReserved : Bool) :
    (cInitialize host state oracle hasReserved).1.sessions = state.sessions := by
  by_cases closed : state.initialized = false ∧ hasReserved = false
  · rcases closed with ⟨closed, rfl⟩
    have initialization := cInitialize_initialization host oracle closed
    generalize cInitialize host state oracle false = result at initialization ⊢
    cases initialization with
    | failed _ _ _ sessions _ _ _ _ => exact sessions
    | succeeded _ _ loaded => exact loaded.sessions_eq.1
  · unfold cInitialize
    split
    · rfl
    · rename_i notOpen
      split
      · rfl
      · rename_i notReserved
        exact absurd ⟨by simpa using notOpen, by simpa using notReserved⟩ closed

theorem cFinalize_kept (hasReserved : Bool) :
    SessionsKept state (cFinalize state hasReserved).1 := by
  unfold cFinalize
  split
  · exact .of_eq rfl
  · split
    · exact .of_eq rfl
    · intro handle session found
      contradiction

theorem service_sessionsKept (wellFormed : WellFormed state) {call : Call}
    (leaves : call.updatesSession = false) :
    SessionsKept state (service host oracle state call).1 := by
  cases call with
  | cInitialize hasReserved => exact .of_eq (cInitialize_sessions hasReserved)
  | cFinalize hasReserved => exact cFinalize_kept hasReserved
  | openSession slotId flags hasHandle => exact openSession_kept wellFormed slotId flags hasHandle
  | closeSession sessionHandle => exact closeSession_kept sessionHandle
  | closeAllSessions slotId => exact closeAllSessions_kept slotId
  | initPin sessionHandle pin => exact .of_eq (initPin_sessions sessionHandle pin)
  | setPin sessionHandle oldPin newPin =>
      exact .of_eq (setPin_sessions sessionHandle oldPin newPin)
  | login sessionHandle userType pin => exact .of_eq (login_sessions sessionHandle userType pin)
  | logout sessionHandle => exact logout_kept sessionHandle
  | destroyObject sessionHandle handle =>
      exact .of_eq (destroyObject_sessions sessionHandle handle)
  | setAttributeValue sessionHandle handle attributes =>
      exact .of_eq (setAttributeValue_sessions sessionHandle handle attributes)
  | generateKey => exact .of_eq (by rw [(service_creationCall wellFormed rfl rfl).frame])
  | generateKeyPair => exact .of_eq (by rw [(service_creationCall wellFormed rfl rfl).frame])
  | unwrapKey => exact .of_eq (by rw [(service_creationCall wellFormed rfl rfl).frame])
  | deriveKey => exact .of_eq (by rw [(service_creationCall wellFormed rfl rfl).frame])
  | getInfo | getSlotList | getSlotInfo | getTokenInfo | getMechanismList | getMechanismInfo
  | getSessionInfo | getAttributeValue | wrapKey | generateRandom | unsupported =>
      exact .of_eq rfl
  | _ => contradiction

/-! ## The session of a call -/

/-- The operation of the session stays, or it ends. -/
def OperationKept (state next : State) (sessionHandle : Nat) : Prop :=
  next = state ∨ ∃ session changed, state.findSession sessionHandle = some session ∧
    next = state.putSession sessionHandle changed ∧
    (changed.operation = session.operation ∨ changed = session.endOperation)

/-- At most the operation of the session ends. -/
def OperationClosed (state next : State) (sessionHandle : Nat) : Prop :=
  next = state ∨ ∃ session, state.findSession sessionHandle = some session ∧
    next = state.putSession sessionHandle session.endOperation

theorem OperationClosed.kept {next : State} {sessionHandle : Nat}
    (ended : OperationClosed state next sessionHandle) : OperationKept state next sessionHandle :=
  ended.imp_right fun ⟨session, found, isNext⟩ => ⟨session, _, found, isNext, Or.inr rfl⟩

/-- The operation of a session after a call is the one before it, or has ended. -/
def OperationLeft (state : State) (handle : Nat) (after : Session) : Prop :=
  ∃ before, state.findSession handle = some before ∧
    (before.operation = after.operation ∨ after = before.endOperation)

theorem OperationKept.session {next : State} {sessionHandle handle : Nat} {after : Session}
    (kept : OperationKept state next sessionHandle)
    (found : next.findSession handle = some after) : OperationLeft state handle after := by
  rcases kept with rfl | ⟨session, changed, sessionFound, rfl, left⟩
  · exact ⟨after, found, Or.inl rfl⟩
  · rw [State.findSession_putSession] at found
    split at found
    · rename_i isSession
      cases found
      subst isSession
      refine ⟨session, sessionFound, ?_⟩
      rcases left with same | ended
      · exact Or.inl same.symm
      · exact Or.inr ended
    · exact ⟨after, found, Or.inl rfl⟩

theorem findObjectsInit_kept (sessionHandle : Nat) (attributes : Template) :
    OperationKept state (findObjectsInit host state sessionHandle attributes).1 sessionHandle := by
  unfold findObjectsInit
  split
  · exact Or.inl rfl
  · rename_i session passes
    simp only [searchingSession, bind_eq_ok_iff, fetch_eq_ok_iff, pure_eq_ok, Except.ok.injEq]
      at passes
    rcases passes with ⟨found, sessionFound, _, _, _, _, _, _, rfl⟩
    exact Or.inr ⟨found, _, sessionFound, rfl, Or.inl rfl⟩

theorem findObjects_kept (sessionHandle : Nat) (hasOutput : Bool) (capacity : Nat)
    (hasCount : Bool) :
    OperationKept state (findObjects state sessionHandle hasOutput capacity hasCount).1
      sessionHandle := by
  unfold findObjects
  split
  · exact Or.inl rfl
  · rename_i session passes
    simp only [bind_eq_ok_iff, fetch_eq_ok_iff, pure_eq_ok, Except.ok.injEq] at passes
    rcases passes with ⟨found, sessionFound, _, _, _, _, rfl⟩
    exact Or.inr ⟨found, _, sessionFound, rfl, Or.inl rfl⟩

theorem findObjectsFinal_kept (sessionHandle : Nat) :
    OperationKept state (findObjectsFinal state sessionHandle).1 sessionHandle := by
  unfold findObjectsFinal
  split
  · exact Or.inl rfl
  · rename_i session passes
    simp only [bind_eq_ok_iff, fetch_eq_ok_iff, pure_eq_ok, Except.ok.injEq] at passes
    rcases passes with ⟨found, sessionFound, _, _, rfl⟩
    exact Or.inr ⟨found, _, sessionFound, rfl, Or.inl rfl⟩

theorem completeSign_closed {sessionHandle : Nat} {session : Session}
    (found : state.findSession sessionHandle = some session) (data : Bytes)
    (signature : OutputBuffer) :
    OperationClosed state
      (completeSign host oracle state sessionHandle session data signature).1 sessionHandle := by
  rw [completeSign_state]
  split
  · exact Or.inr ⟨session, found, rfl⟩
  · exact Or.inl rfl

theorem sign_closed (sessionHandle : Nat) (data : Buffer) (signature : OutputBuffer)
    (hasLength : Bool) :
    OperationClosed state (sign host oracle state sessionHandle data signature hasLength).1
      sessionHandle := by
  unfold sign
  split
  · exact Or.inl rfl
  · rename_i session passes
    simp only [bind_eq_ok_iff, pure_eq_ok, Except.ok.injEq] at passes
    rcases passes with ⟨found, pending, _, _, rfl⟩
    exact completeSign_closed (signingSession_eq_ok pending).1 _ _

theorem signFinal_closed (sessionHandle : Nat) (signature : OutputBuffer) (hasLength : Bool) :
    OperationClosed state (signFinal host oracle state sessionHandle signature hasLength).1
      sessionHandle := by
  unfold signFinal
  split
  · exact Or.inl rfl
  · rename_i session passes
    simp only [bind_eq_ok_iff, pure_eq_ok, Except.ok.injEq] at passes
    rcases passes with ⟨found, pending, _, _, rfl⟩
    exact completeSign_closed (signingSession_eq_ok pending).1 _ _

theorem verify_closed (sessionHandle : Nat) (data signature : Buffer) :
    OperationClosed state (verify host oracle state sessionHandle data signature).1
      sessionHandle := by
  unfold verify
  split
  · exact Or.inl rfl
  · rename_i session passes
    simp only [bind_eq_ok_iff, pure_eq_ok, Except.ok.injEq] at passes
    rcases passes with ⟨found, pending, _, _, rfl⟩
    exact Or.inr ⟨found, (signingSession_eq_ok pending).1, rfl⟩

theorem verifyFinal_closed (sessionHandle : Nat) (signature : Buffer) :
    OperationClosed state (verifyFinal host oracle state sessionHandle signature).1
      sessionHandle := by
  unfold verifyFinal
  split
  · exact Or.inl rfl
  · rename_i session passes
    simp only [bind_eq_ok_iff, pure_eq_ok, Except.ok.injEq] at passes
    rcases passes with ⟨found, pending, _, _, rfl⟩
    exact Or.inr ⟨found, (signingSession_eq_ok pending).1, rfl⟩

/-! ## Multipart data -/

/-- The bound on the buffered data is computed without an underflow. -/
theorem fits_iff {buffered length : Nat} :
    ¬(maxMultipartBytes < length ∨ sizeSubtract maxMultipartBytes length < buffered) ↔
      buffered + length ≤ maxMultipartBytes := by
  unfold sizeSubtract maxMultipartBytes
  omega

/-- What an update does: it is refused, it ends the operation, or it appends its data. -/
inductive Appended (state : State) (sessionHandle : Nat) (data : Buffer) (verify : Bool) :
    State × Response → Prop
  | refused {code : Rv} : code ≠ .ok → Appended state sessionHandle data verify (state, .plain code)
  | ended {session : Session} {code : Rv} : state.findSession sessionHandle = some session →
      code ≠ .ok →
      Appended state sessionHandle data verify
        (state.putSession sessionHandle session.endOperation, .plain code)
  | appended {session : Session} : state.findSession sessionHandle = some session →
      session.operation.active = true → session.operation.verify = verify →
      session.operation.bufferedData.length + data.content.length ≤ maxMultipartBytes →
      Appended state sessionHandle data verify
        (state.putSession sessionHandle { session with operation := { session.operation with
            bufferedData := session.operation.bufferedData ++ data.content } },
          .plain .ok)

theorem content_length_le (data : Buffer) : data.content.length ≤ data.length := by
  cases data with
  | null length => exact Nat.zero_le length
  | bytes content => exact Nat.le_refl _

theorem appendSignatureData_cases (sessionHandle : Nat) (data : Buffer) (verify : Bool) :
    Appended state sessionHandle data verify
      (appendSignatureData state sessionHandle data verify) := by
  unfold appendSignatureData
  split
  · rename_i code fails
    apply Appended.refused
    rintro rfl
    simp [bind_eq_error_iff, signingSession_ne_ok] at fails
  · rename_i session passes
    simp only [bind_eq_ok_iff, pure_eq_ok, Except.ok.injEq] at passes
    rcases passes with ⟨found, pending, _, _, rfl⟩
    rcases signingSession_eq_ok pending with ⟨sessionFound, active, direction⟩
    split
    · exact .ended sessionFound (by simp)
    · split
      · exact .ended sessionFound (by simp)
      · rename_i fits
        have bound := fits_iff.mp fits
        have short := content_length_le data
        exact .appended sessionFound active direction (by omega)

end

/-! ## The history of an operation -/

/-- What the initialisation of an operation fixed, and the data since. -/
structure Started where
  verify : Bool
  mechanism : Mechanism
  keyHandle : Nat
  key : EvpKey
  data : Bytes

/-- The record of an operation that a call starts. -/
def beginning (state : State) (sessionHandle : Nat) (mechanism : Option Mechanism)
    (keyHandle : Nat) (verify : Bool) : Option Started := do
  let mechanism ← mechanism
  let object ← state.findObject sessionHandle keyHandle
  let key ← object.asymmetricKey
  return ⟨verify, mechanism, keyHandle, key, []⟩

/-- The record with the data of an update. -/
def Started.append (started : Started) (data : Bytes) : Started :=
  { started with data := started.data ++ data }

/-- Successful initialisations and updates, session by session. -/
def started (host : Host) (history : Nat → Option Started) (state : State)
    (input : Call × Oracle) : Nat → Option Started :=
  if (step host state input).2.rv = .ok then
    match input.1 with
    | .signInit sessionHandle mechanism keyHandle =>
        Function.update history sessionHandle
          (beginning state sessionHandle mechanism keyHandle false)
    | .verifyInit sessionHandle mechanism keyHandle =>
        Function.update history sessionHandle
          (beginning state sessionHandle mechanism keyHandle true)
    | .signUpdate sessionHandle data =>
        Function.update history sessionHandle
          ((history sessionHandle).map fun record => record.append data.content)
    | .verifyUpdate sessionHandle data =>
        Function.update history sessionHandle
          ((history sessionHandle).map fun record => record.append data.content)
    | _ => history
  else history

/-- The session on which a call starts an operation or gives it data. -/
def Call.progresses? : Call → Option Nat
  | .signInit sessionHandle _ _ => some sessionHandle
  | .verifyInit sessionHandle _ _ => some sessionHandle
  | .signUpdate sessionHandle _ => some sessionHandle
  | .verifyUpdate sessionHandle _ => some sessionHandle
  | _ => none

/-- The operation is the one of the record. -/
structure Recorded (host : Host) (state : State) (operation : Operation) (record : Started) :
    Prop where
  verify : operation.verify = record.verify
  mechanism : operation.mechanism = record.mechanism.mechanism
  keyHandle : operation.keyHandle = record.keyHandle
  parameters : signatureParameters host.openSsl record.mechanism record.key = .ok operation.pss
  data : operation.bufferedData = record.data
  bound : operation.bufferedData.length ≤ maxMultipartBytes
  key : ∀ object, state.objects.get? operation.keyHandle = some object →
    object.asymmetricKey = some record.key

/-- No session buffers more than the bound, and every active operation is the one of its
record. -/
structure OperationsRecorded (host : Host) (state : State) (history : Nat → Option Started) :
    Prop where
  bound : ∀ handle session, state.findSession handle = some session →
    session.operation.bufferedData.length ≤ maxMultipartBytes
  active : ∀ handle session, state.findSession handle = some session →
    session.operation.active = true →
    ∃ record, history handle = some record ∧ Recorded host state session.operation record

section

variable {host : Host} {oracle : Oracle} {state : State} {history : Nat → Option Started}

/-- The key of a handle does not change. -/
theorem Recorded.advance {next : State} {operation : Operation} {record : Started}
    (recorded : Recorded host state operation record)
    (issued : operation.keyHandle < state.nextObjectHandle)
    (advance : ObjectsAdvance state next) : Recorded host next operation record := by
  refine { recorded with key := ?_ }
  intro object found
  rcases advance.entered operation.keyHandle object found with ⟨old, oldFound, same⟩ | above
  · have sameKey := congrArg Object.asymmetricKey same.core
    exact sameKey.trans (recorded.key old oldFound)
  · omega

theorem Recorded.append {operation : Operation} {record : Started} {data : Bytes}
    (recorded : Recorded host state operation record)
    (bound : operation.bufferedData.length + data.length ≤ maxMultipartBytes) :
    Recorded host state { operation with bufferedData := operation.bufferedData ++ data }
      (record.append data) where
  verify := recorded.verify
  mechanism := recorded.mechanism
  keyHandle := recorded.keyHandle
  parameters := recorded.parameters
  data := by rw [Started.append, recorded.data]
  bound := by
    rw [List.length_append]
    exact bound
  key := recorded.key

theorem signatureOperation_recorded {sessionHandle : Nat} {mechanism : Option Mechanism}
    {keyHandle : Nat} {verify : Bool} {session : Session} {operation : Operation}
    (passes : signatureOperation host state sessionHandle mechanism keyHandle verify =
      .ok (session, operation)) :
    state.findSession sessionHandle = some session ∧
      ∃ record, beginning state sessionHandle mechanism keyHandle verify = some record ∧
        Recorded host state operation record := by
  simp only [signatureOperation, bind_eq_ok_iff, fetch_eq_ok_iff, require_eq_ok_iff,
    pure_eq_ok, Except.ok.injEq, Prod.mk.injEq] at passes
  rcases passes with ⟨found, sessionFound, given, isGiven, _, _, object, objectFound, key, keyFound,
    _, _, _, _, _, _, _, _, _, _, parameters, accepted, rfl, rfl⟩
  refine ⟨sessionFound, ⟨verify, given, keyHandle, key, []⟩, ?_, ?_⟩
  · simp [beginning, isGiven, objectFound, keyFound]
  · refine ⟨rfl, rfl, rfl, accepted, rfl, Nat.zero_le _, ?_⟩
    intro stored storedFound
    rcases State.findObject_eq_some_iff.mp objectFound with ⟨_, _, objectStored, _⟩
    rw [objectStored, Option.some.injEq] at storedFound
    rw [← storedFound]
    exact keyFound

/-- The history of a session changes with its own successful calls only. -/
theorem started_of_other {call : Call} {handle : Nat}
    (other : call.progresses? ≠ some handle ∨ (step host state (call, oracle)).2.rv ≠ .ok) :
    started host history state (call, oracle) handle = history handle := by
  unfold started
  split
  · rename_i isOk
    have different := other.resolve_right (not_not.mpr isOk)
    cases call with
    | signInit sessionHandle mechanism keyHandle =>
        exact Function.update_of_ne (fun same => different (by rw [same]; rfl)) _ _
    | verifyInit sessionHandle mechanism keyHandle =>
        exact Function.update_of_ne (fun same => different (by rw [same]; rfl)) _ _
    | signUpdate sessionHandle data =>
        exact Function.update_of_ne (fun same => different (by rw [same]; rfl)) _ _
    | verifyUpdate sessionHandle data =>
        exact Function.update_of_ne (fun same => different (by rw [same]; rfl)) _ _
    | _ => rfl
  · rfl

/-- An operation after a step is the one before it with the same record, or that one
ended, or none was started yet, or it agrees with its new record. -/
def OperationStep (host : Host) (oracle : Oracle) (state : State)
    (history : Nat → Option Started) (call : Call) : Prop :=
  ∀ handle after, (step host state (call, oracle)).1.findSession handle = some after →
    (OperationLeft state handle after ∧
      started host history state (call, oracle) handle = history handle) ∨
    after.operation = .initial ∨
    ∃ record, started host history state (call, oracle) handle = some record ∧
      Recorded host (step host state (call, oracle)).1 after.operation record

theorem step_closed_sessions (closed : state.initialized = false) (call : Call) :
    (step host state (call, oracle)).1.sessions = state.sessions := by
  cases call with
  | cInitialize hasReserved => exact cInitialize_sessions hasReserved
  | _ => simp [step, closed, Call.needsInitialization]

theorem initializeSignature_step {sessionHandle : Nat} {mechanism : Option Mechanism}
    {keyHandle : Nat} {verify : Bool} {call : Call}
    (stepped : step host state (call, oracle) =
      initializeSignature host state sessionHandle mechanism keyHandle verify)
    (progresses : call.progresses? = some sessionHandle)
    (begins : (step host state (call, oracle)).2.rv = .ok →
      started host history state (call, oracle) sessionHandle =
        beginning state sessionHandle mechanism keyHandle verify) :
    OperationStep host oracle state history call := by
  intro handle after found
  cases passes : signatureOperation host state sessionHandle mechanism keyHandle verify with
  | error code =>
      have failed : code ≠ .ok := by
        rintro rfl
        exact signatureOperation_ne_ok _ _ _ _ _ _ passes
      have result : step host state (call, oracle) = (state, .plain code) := by
        rw [stepped, initializeSignature, passes]
      rw [result] at found
      refine Or.inl ⟨⟨after, found, Or.inl rfl⟩, started_of_other (Or.inr ?_)⟩
      rw [result]
      exact failed
  | ok outcome =>
      rcases outcome with ⟨session, operation⟩
      rcases signatureOperation_recorded passes with ⟨sessionFound, record, isBeginning, recorded⟩
      have result : step host state (call, oracle) =
          (state.putSession sessionHandle { session with operation := operation },
            .plain .ok) := by
        rw [stepped, initializeSignature, passes]
      rw [result] at found begins ⊢
      rw [State.findSession_putSession] at found
      split at found
      · rename_i isSession
        subst isSession
        cases found
        refine Or.inr (Or.inr ⟨record, ?_, { recorded with }⟩)
        rw [begins rfl, isBeginning]
      · rename_i isOther
        refine Or.inl ⟨⟨after, found, Or.inl rfl⟩, started_of_other (Or.inl ?_)⟩
        rw [progresses]
        simpa using Ne.symm isOther

theorem appendSignatureData_step (recorded : OperationsRecorded host state history)
    {sessionHandle : Nat} {data : Buffer} {verify : Bool} {call : Call}
    (stepped : step host state (call, oracle) =
      appendSignatureData state sessionHandle data verify)
    (progresses : call.progresses? = some sessionHandle)
    (appends : (step host state (call, oracle)).2.rv = .ok →
      started host history state (call, oracle) sessionHandle =
        (history sessionHandle).map fun record => record.append data.content) :
    OperationStep host oracle state history call := by
  intro handle after found
  have cases := @appendSignatureData_cases state sessionHandle data verify
  rw [← stepped] at cases
  generalize isResult : step host state (call, oracle) = result at cases found appends ⊢
  cases cases with
  | refused failed =>
      refine Or.inl ⟨⟨after, found, Or.inl rfl⟩, started_of_other (Or.inr ?_)⟩
      rw [isResult]
      exact failed
  | @ended session code sessionFound failed =>
      rw [State.findSession_putSession] at found
      split at found
      · rename_i isSession
        subst isSession
        cases found
        refine Or.inl ⟨⟨session, sessionFound, Or.inr rfl⟩, started_of_other (Or.inr ?_)⟩
        rw [isResult]
        exact failed
      · refine Or.inl ⟨⟨after, found, Or.inl rfl⟩, started_of_other (Or.inr ?_)⟩
        rw [isResult]
        exact failed
  | @appended session sessionFound isActive direction bound =>
      rw [State.findSession_putSession] at found
      split at found
      · rename_i isSession
        subst isSession
        cases found
        rcases recorded.active _ session sessionFound isActive with ⟨record, isRecord, recorded⟩
        refine Or.inr (Or.inr ⟨record.append data.content, ?_, ?_⟩)
        · rw [appends rfl, isRecord]
          rfl
        · exact { recorded.append bound with }
      · rename_i isOther
        refine Or.inl ⟨⟨after, found, Or.inl rfl⟩, started_of_other (Or.inl ?_)⟩
        rw [progresses]
        simpa using Ne.symm isOther

/-- A call that is no initialisation or update keeps the operations that stay active. -/
theorem OperationKept.step {sessionHandle : Nat} {call : Call}
    (stepped : step host state (call, oracle) = service host oracle state call)
    (kept : OperationKept state (service host oracle state call).1 sessionHandle)
    (other : call.progresses? = none) : OperationStep host oracle state history call := by
  intro handle after found
  rw [stepped] at found
  refine Or.inl ⟨kept.session found, started_of_other (Or.inl ?_)⟩
  rw [other]
  simp

theorem progresses_of_leaves {call : Call} (leaves : call.updatesSession = false) :
    call.progresses? = none := by
  cases call with
  | signInit | verifyInit | signUpdate | verifyUpdate => contradiction
  | _ => rfl

theorem operationStep (wellFormed : WellFormed state) (isOpen : state.initialized = true)
    (recorded : OperationsRecorded host state history) (call : Call) :
    OperationStep host oracle state history call := by
  cases leaves : call.updatesSession with
  | false =>
      intro handle after found
      rw [step_of_open isOpen] at found
      rcases service_sessionsKept wellFormed leaves handle after found with same | idle
      · refine Or.inl ⟨⟨after, same, Or.inl rfl⟩, started_of_other (Or.inl ?_)⟩
        rw [progresses_of_leaves leaves]
        simp
      · exact Or.inr (Or.inl idle.operation)
  | true =>
      have stepped := @step_of_open host oracle state isOpen call
      cases call with
      | findObjectsInit sessionHandle attributes =>
          exact OperationKept.step stepped (findObjectsInit_kept sessionHandle attributes) rfl
      | findObjects sessionHandle hasOutput capacity hasCount =>
          exact OperationKept.step stepped
            (findObjects_kept sessionHandle hasOutput capacity hasCount) rfl
      | findObjectsFinal sessionHandle =>
          exact OperationKept.step stepped (findObjectsFinal_kept sessionHandle) rfl
      | sign sessionHandle data signature hasLength =>
          exact OperationKept.step stepped
            (sign_closed sessionHandle data signature hasLength).kept rfl
      | signFinal sessionHandle signature hasLength =>
          exact OperationKept.step stepped
            (signFinal_closed sessionHandle signature hasLength).kept rfl
      | verify sessionHandle data signature =>
          exact OperationKept.step stepped (verify_closed sessionHandle data signature).kept rfl
      | verifyFinal sessionHandle signature =>
          exact OperationKept.step stepped (verifyFinal_closed sessionHandle signature).kept rfl
      | signInit sessionHandle mechanism keyHandle =>
          apply initializeSignature_step stepped rfl
          intro isOk
          simp [started, isOk]
      | verifyInit sessionHandle mechanism keyHandle =>
          apply initializeSignature_step stepped rfl
          intro isOk
          simp [started, isOk]
      | signUpdate sessionHandle data =>
          apply appendSignatureData_step recorded stepped rfl
          intro isOk
          simp [started, isOk]
      | verifyUpdate sessionHandle data =>
          apply appendSignatureData_step recorded stepped rfl
          intro isOk
          simp [started, isOk]
      | _ => contradiction

/-- The bound holds after a step. -/
theorem OperationsRecorded.step_bound (wellFormed : WellFormed state)
    (recorded : OperationsRecorded host state history) (isOpen : state.initialized = true)
    (call : Call) {handle : Nat} {after : Session}
    (found : (HsmSimulator.step host state (call, oracle)).1.findSession handle = some after) :
    after.operation.bufferedData.length ≤ maxMultipartBytes := by
  rcases operationStep wellFormed isOpen recorded call handle after found with
    ⟨⟨before, beforeFound, same | ended⟩, _⟩ | initial | ⟨record, _, agrees⟩
  · rw [← same]
    exact recorded.bound handle before beforeFound
  · rw [ended]
    exact recorded.bound handle before beforeFound
  · rw [initial]
    exact Nat.zero_le _
  · exact agrees.bound

/-- Every step keeps the operations in agreement with their records. -/
theorem OperationsRecorded.step (wellFormed : WellFormed state)
    (recorded : OperationsRecorded host state history) (input : Call × Oracle) :
    OperationsRecorded host (step host state input).1 (started host history state input) := by
  rcases input with ⟨call, oracle⟩
  cases isOpen : state.initialized with
  | false =>
      have none (handle : Nat) (session : Session)
          (found : (HsmSimulator.step host state (call, oracle)).1.findSession handle =
            some session) : False := by
        rw [State.findSession, step_closed_sessions isOpen, (wellFormed.closed isOpen).2.2]
          at found
        contradiction
      exact ⟨fun handle session found => (none handle session found).elim,
        fun handle session found => (none handle session found).elim⟩
  | true =>
      refine ⟨fun handle after found => recorded.step_bound wellFormed isOpen call found, ?_⟩
      intro handle after found active
      rcases operationStep wellFormed isOpen recorded call handle after found with
        ⟨⟨before, beforeFound, same | ended⟩, unchanged⟩ | initial | agrees
      · rcases recorded.active handle before beforeFound (by rw [same]; exact active) with
          ⟨record, isRecord, recorded⟩
        rw [same] at recorded
        refine ⟨record, by rw [unchanged, isRecord], recorded.advance ?_ ?_⟩
        · rw [← same]
          exact (wellFormed.pending handle before beforeFound).1
        · exact (step_effect wellFormed call).objectsAdvance wellFormed isOpen
      · rw [ended] at active
        contradiction
      · rw [initial] at active
        contradiction
      · exact agrees

theorem operationsRecorded_run (host : Host) (disk : FileSystem)
    (inputs : List (Call × Oracle)) :
    OperationsRecorded host (Runs.final (step host) (.loaded disk) inputs)
      (Runs.history (step host) (started host) (fun _ => none) (.loaded disk) inputs) := by
  have invariant := @Runs.history_invariant _ _ _ _ (step host) (started host)
    (fun _ _ => True)
    (fun state history => WellFormed state ∧ OperationsRecorded host state history)
    (fun state history input valid _ => ⟨valid.1.step input, valid.2.step valid.1 input⟩)
    (.loaded disk) (fun _ => none) inputs ⟨wellFormed_loaded disk, ?_⟩ (Runs.along_true _ _ _)
  · exact invariant.2
  · constructor
    · intro handle session found
      contradiction
    · intro handle session found
      contradiction

end

end HsmSimulator
