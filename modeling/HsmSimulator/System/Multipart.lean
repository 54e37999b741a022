import HsmSimulator.Pkcs11.Searches
import HsmSimulator.Pkcs11.SignatureCalls

/-!
# Parts and the whole

Data that is given in parts is signed, or verified, as it would be in one piece: the answer is
the same, whatever it is, and so is the state, except for the buffer of the session.
-/

namespace HsmSimulator

open Checks

/-- The end of an operation, for either direction. -/
inductive Finish
  | sign (signature : OutputBuffer) (hasLength : Bool)
  | verify (signature : Buffer)
  deriving DecidableEq

namespace Finish

/-- The operation is a verification. -/
def verifies : Finish → Bool
  | sign .. => false
  | verify _ => true

/-- The call that gives one more part. -/
def update (finish : Finish) (sessionHandle : Nat) (part : Buffer) : Call :=
  match finish with
  | sign .. => .signUpdate sessionHandle part
  | verify _ => .verifyUpdate sessionHandle part

/-- The call that ends the operation after its parts, or with all data. -/
def call (finish : Finish) (form : Completion) (sessionHandle : Nat) : Call :=
  match finish with
  | sign signature hasLength => form.sign sessionHandle signature hasLength
  | verify signature => form.verify sessionHandle signature

end Finish

/-- The calls that give the parts. -/
def updates (finish : Finish) (sessionHandle : Nat) (parts : List (Buffer × Oracle)) :
    List (Call × Oracle) :=
  parts.map fun part => (finish.update sessionHandle part.1, part.2)

/-- The data of the parts. -/
def joined (parts : List (Buffer × Oracle)) : Bytes :=
  parts.flatMap fun part => part.1.content

def Session.withData (session : Session) (data : Bytes) : Session :=
  { session with operation := { session.operation with bufferedData := data } }

/-- The state without what the session has buffered. -/
def State.withoutData (state : State) (sessionHandle : Nat) : State :=
  match state.findSession sessionHandle with
  | some session => state.putSession sessionHandle (session.withData [])
  | none => state

section

variable {host : Host} {oracle : Oracle} {state : State} {sessionHandle : Nat} {session : Session}

theorem withoutData_putSession (changed : Session) :
    (state.putSession sessionHandle changed).withoutData sessionHandle =
      state.putSession sessionHandle (changed.withData []) := by
  rw [State.withoutData, State.findSession_putSession, if_pos rfl]
  exact congrArg (fun sessions => { state with sessions := sessions })
    (OrderedMap.insert_insert _ _ _ _)

theorem withoutData_of_found (found : state.findSession sessionHandle = some session) :
    state.withoutData sessionHandle =
      state.putSession sessionHandle (session.withData []) := by
  rw [State.withoutData, found]

/-! ## The parts -/

theorem appendSignatureData_fits (found : state.findSession sessionHandle = some session)
    (active : session.operation.active = true)
    (multipart : isRawSignature session.operation.mechanism = false) {part : Buffer}
    (given : part.isMissing = false)
    (fits : session.operation.bufferedData.length + part.content.length ≤ maxMultipartBytes) :
    appendSignatureData state sessionHandle part session.operation.verify =
      (state.putSession sessionHandle
        (session.withData (session.operation.bufferedData ++ part.content)), .plain .ok) := by
  have length := length_content given
  have small : ¬(maxMultipartBytes < part.length ∨ sizeSubtract maxMultipartBytes part.length <
      session.operation.bufferedData.length) := by
    unfold sizeSubtract maxMultipartBytes at *
    omega
  have pending : signingSession state sessionHandle session.operation.verify = .ok session := by
    simp only [signingSession, bind_eq_ok_iff, fetch_eq_ok_iff, require_eq_ok_iff]
    exact ⟨session, found, (), ⟨active, rfl⟩, rfl⟩
  simp only [appendSignatureData, pending, ok_bind, given, require, if_true, pure_eq_ok]
  rw [if_neg (by simp [multipart]), if_neg small]
  rfl

/-- One part is buffered. -/
theorem update_step (isOpen : state.initialized = true)
    (found : state.findSession sessionHandle = some session)
    (active : session.operation.active = true)
    (multipart : isRawSignature session.operation.mechanism = false) {finish : Finish}
    (direction : session.operation.verify = finish.verifies) {part : Buffer}
    (given : part.isMissing = false)
    (fits : session.operation.bufferedData.length + part.content.length ≤ maxMultipartBytes) :
    step host state (finish.update sessionHandle part, oracle) =
      (state.putSession sessionHandle
        (session.withData (session.operation.bufferedData ++ part.content)), .plain .ok) := by
  have appended := appendSignatureData_fits found active multipart given fits
  rw [direction] at appended
  rw [step_of_open isOpen]
  cases finish with
  | sign signature hasLength => exact appended
  | verify signature => exact appended

/-- The parts are buffered one after the other. -/
theorem updates_run (finish : Finish) (parts : List (Buffer × Oracle))
    (isOpen : state.initialized = true)
    (found : state.findSession sessionHandle = some session)
    (active : session.operation.active = true)
    (multipart : isRawSignature session.operation.mechanism = false)
    (direction : session.operation.verify = finish.verifies)
    (given : ∀ part ∈ parts, part.1.isMissing = false)
    (fits : session.operation.bufferedData.length + (joined parts).length ≤ maxMultipartBytes) :
    Runs.outputs (step host) state (updates finish sessionHandle parts) =
        List.replicate parts.length (.plain .ok) ∧
      Runs.final (step host) state (updates finish sessionHandle parts) =
        state.putSession sessionHandle
          (session.withData (session.operation.bufferedData ++ joined parts)) := by
  induction parts generalizing state session with
  | nil =>
      refine ⟨rfl, ?_⟩
      rw [joined, List.flatMap_nil, List.append_nil]
      exact (State.putSession_self found).symm
  | cons part rest ih =>
      obtain ⟨buffer, oracle⟩ := part
      have whole : joined ((buffer, oracle) :: rest) = buffer.content ++ joined rest :=
        List.flatMap_cons
      rw [whole, List.length_append] at fits
      have first := @update_step host oracle state sessionHandle session isOpen found active
        multipart finish direction buffer (given _ List.mem_cons_self) (by omega)
      have next := @ih
        (state.putSession sessionHandle
          (session.withData (session.operation.bufferedData ++ buffer.content)))
        (session.withData (session.operation.bufferedData ++ buffer.content)) isOpen
        (by rw [State.findSession_putSession, if_pos rfl]) active multipart direction
        (fun other member => given other (List.mem_cons_of_mem _ member))
        (by simp only [Session.withData, List.length_append]; omega)
      obtain ⟨outputs, final⟩ := next
      simp only [updates, List.map_cons, Runs.outputs, Runs.final, first] at outputs final ⊢
      refine ⟨by rw [outputs]; rfl, ?_⟩
      rw [final, whole, ← List.append_assoc]
      exact congrArg (fun sessions => { state with sessions := sessions })
        (OrderedMap.insert_insert _ _ _ _)

/-! ## The end -/

section

variable (found : state.findSession sessionHandle = some session) (data : Bytes)

include found

/-- Two states that differ in the buffer agree but for it. -/
theorem withoutData_withData :
    (state.putSession sessionHandle (session.withData data)).withoutData sessionHandle =
      state.withoutData sessionHandle := by
  rw [withoutData_putSession, withoutData_of_found found]
  rfl

/-- The buffer does not matter to the key that is used. -/
theorem signatureKey_withData (verify : Bool) :
    signatureKey (state.putSession sessionHandle (session.withData data)) sessionHandle
        (session.withData data).operation verify =
      signatureKey state sessionHandle session.operation verify := by
  have sameSlot : (session.withData data).slotId = session.slotId := rfl
  simp only [signatureKey, State.objectAccessStatus_putSession found sameSlot,
    State.findObject_putSession found sameSlot]
  rfl

/-- Completing with the buffered data and completing with the same data as an argument. -/
theorem completeSign_withData (signature : OutputBuffer) :
    let buffered := completeSign host oracle
      (state.putSession sessionHandle (session.withData data)) sessionHandle
      (session.withData data) data signature
    let given := completeSign host oracle state sessionHandle session data signature
    buffered.2 = given.2 ∧
      buffered.1.withoutData sessionHandle = given.1.withoutData sessionHandle := by
  have same : executeSign host oracle (state.putSession sessionHandle (session.withData data))
      sessionHandle (session.withData data).operation data signature =
        executeSign host oracle state sessionHandle session.operation data signature := by
    rw [executeSign, executeSign, signatureKey_withData found]
    rfl
  simp only [completeSign, same]
  split
  · refine ⟨rfl, ?_⟩
    rw [withoutData_putSession, withoutData_putSession]
    exact congrArg (fun sessions => { state with sessions := sessions })
      (OrderedMap.insert_insert _ _ _ _)
  · refine ⟨rfl, ?_⟩
    rw [withoutData_putSession, withoutData_of_found found]
    rfl

theorem completeVerify_withData (signature : Buffer) :
    let buffered := completeVerify host oracle
      (state.putSession sessionHandle (session.withData data)) sessionHandle
      (session.withData data) data signature
    let given := completeVerify host oracle state sessionHandle session data signature
    buffered.2 = given.2 ∧
      buffered.1.withoutData sessionHandle = given.1.withoutData sessionHandle := by
  have same : executeVerify host oracle (state.putSession sessionHandle (session.withData data))
      sessionHandle (session.withData data).operation data signature =
        executeVerify host oracle state sessionHandle session.operation data signature := by
    rw [executeVerify, executeVerify, verification, verification, signatureKey_withData found]
    rfl
  refine ⟨same, ?_⟩
  simp only [completeVerify]
  rw [withoutData_putSession, withoutData_putSession]
  exact congrArg (fun sessions => { state with sessions := sessions })
    (OrderedMap.insert_insert _ _ _ _)

/-- The last call of the parts does what the one call with all data does. -/
theorem finish_withData (isOpen : state.initialized = true)
    (active : session.operation.active = true) (finish : Finish)
    (direction : session.operation.verify = finish.verifies) :
    let buffered := step host (state.putSession sessionHandle (session.withData data))
      (finish.call .final sessionHandle, oracle)
    let given := step host state (finish.call (.oneShot (.bytes data)) sessionHandle, oracle)
    buffered.2 = given.2 ∧
      buffered.1.withoutData sessionHandle = given.1.withoutData sessionHandle := by
  intro buffered given
  have open' : (state.putSession sessionHandle (session.withData data)).initialized = true := isOpen
  have pending : signingSession state sessionHandle finish.verifies = .ok session := by
    simp only [signingSession, bind_eq_ok_iff, fetch_eq_ok_iff, require_eq_ok_iff]
    exact ⟨session, found, (), ⟨active, direction⟩, rfl⟩
  have stillPending : signingSession
      (state.putSession sessionHandle (session.withData data)) sessionHandle finish.verifies =
        .ok (session.withData data) := by
    simp only [signingSession, bind_eq_ok_iff, fetch_eq_ok_iff, require_eq_ok_iff,
      State.findSession_putSession, if_pos]
    exact ⟨_, rfl, (), ⟨active, direction⟩, rfl⟩
  simp only [buffered, given]
  rw [step_of_open open', step_of_open isOpen]
  cases finish with
  | sign signature hasLength =>
      change (signFinal host oracle _ sessionHandle signature hasLength).2 =
          (sign host oracle state sessionHandle (.bytes data) signature hasLength).2 ∧
        (signFinal host oracle _ sessionHandle signature hasLength).1.withoutData sessionHandle =
          (sign host oracle state sessionHandle (.bytes data) signature hasLength).1.withoutData
            sessionHandle
      simp only [Finish.verifies] at pending stillPending
      simp only [signFinal, sign, pending, stillPending, ok_bind, Buffer.isMissing]
      cases hasLength with
      | false =>
          exact ⟨rfl, withoutData_withData found data⟩
      | true => exact completeSign_withData found data signature
  | verify signature =>
      change (verifyFinal host oracle _ sessionHandle signature).2 =
          (verify host oracle state sessionHandle (.bytes data) signature).2 ∧
        (verifyFinal host oracle _ sessionHandle signature).1.withoutData sessionHandle =
          (verify host oracle state sessionHandle (.bytes data) signature).1.withoutData
            sessionHandle
      simp only [Finish.verifies] at pending stillPending
      have dataGiven : (Buffer.bytes data).isMissing = false := rfl
      simp only [verifyFinal, verify, pending, stillPending, ok_bind, dataGiven]
      cases missing : signature.isMissing with
      | true =>
          exact ⟨rfl, withoutData_withData found data⟩
      | false => exact completeVerify_withData found data signature

end

end

/-- Data that is given in parts of any number and size, within the bound of the buffer, is
signed or verified as in one call with all data: the parts are accepted, the last call gives
the same answer, and the states agree but for the buffer of the session. -/
theorem parts_as_one (host : Host) (state : State) (isOpen : state.initialized = true)
    (sessionHandle : Nat) (session : Session)
    (found : state.findSession sessionHandle = some session)
    (active : session.operation.active = true)
    (multipart : isRawSignature session.operation.mechanism = false) (finish : Finish)
    (direction : session.operation.verify = finish.verifies) (parts : List (Buffer × Oracle))
    (given : ∀ part ∈ parts, part.1.isMissing = false)
    (fits : session.operation.bufferedData.length + (joined parts).length ≤ maxMultipartBytes)
    (oracle : Oracle) :
    let inputs := updates finish sessionHandle parts ++
      [(finish.call .final sessionHandle, oracle)]
    let whole := session.operation.bufferedData ++ joined parts
    let once := step host state (finish.call (.oneShot (.bytes whole)) sessionHandle, oracle)
    Runs.outputs (step host) state inputs =
        List.replicate parts.length (.plain .ok) ++ [once.2] ∧
      (Runs.final (step host) state inputs).withoutData sessionHandle =
        once.1.withoutData sessionHandle := by
  intro inputs whole once
  obtain ⟨outputs, final⟩ := @updates_run host state sessionHandle session finish parts isOpen
    found active multipart direction given fits
  obtain ⟨response, states⟩ := @finish_withData host oracle state sessionHandle session found whole
    isOpen active finish direction
  rw [Runs.outputs_append, Runs.final_append, outputs, final]
  exact ⟨congrArg (fun last => List.replicate parts.length (.plain .ok) ++ [last]) response, states⟩

/-- Three bytes signed in two parts and in one. -/
theorem parts_as_one_two :
    let state := Runs.final (step .plain) (.loaded ⟨∅, ∅⟩) (plainRun [.cInitialize false,
      .openSession 1 6 true, sessionPair 1, .signInit 1 (some ⟨ckmSha256RsaPkcs, .null 0⟩) 1])
    let finish : Finish := .sign ⟨true, 384⟩ true
    let parts : List (Buffer × Oracle) := [(.bytes [1], .plain), (.bytes [2, 3], .plain)]
    let once := step .plain state (finish.call (.oneShot (.bytes [1, 2, 3])) 1, .plain)
    once.2.rv = .ok ∧
      Runs.outputs (step .plain) state
        (updates finish 1 parts ++ [(finish.call .final 1, .plain)]) =
          [.plain .ok, .plain .ok, once.2] := by
  intro state finish parts once
  refine ⟨by decide, ?_⟩
  exact (parts_as_one .plain state (by rfl) 1 _ (by rfl) (by rfl) (by rfl) finish (by rfl) parts
    (by decide) (by decide) .plain).1

end HsmSimulator
