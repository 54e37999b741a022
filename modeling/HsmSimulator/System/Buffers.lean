import HsmSimulator.Objects.AttributeReads
import HsmSimulator.Pkcs11.CreationCalls
import HsmSimulator.Pkcs11.SignatureCalls

/-!
# What is written to the caller

Every call writes only through the pointers it was given, and never more than the lengths the
caller states: the sizes of buffers and lists, and the fixed widths of the fields of the
information structures.  A call that returns `CKR_OK` has filled every buffer and list it
was given, and the length it reports is the length of what it wrote.
-/

namespace HsmSimulator

open Checks

/-- The bytes fit a buffer with a length variable. -/
def OutputBuffer.Holds (buffer : OutputBuffer) (written : Option Bytes) : Prop :=
  ∀ value, written = some value → buffer.hasBuffer = true ∧ value.length ≤ buffer.length

/-- The numbers fit a list with a count variable. -/
def ListHolds (hasList : Bool) (count : Option Nat) (written : Option (List Nat)) : Prop :=
  ∃ room, count = some room ∧
    ∀ values, written = some values → hasList = true ∧ values.length ≤ room

/-- The bytes fit the buffers of the entries. -/
def QueriesHold (queries : List AttributeQuery) (results : List AttributeResult) : Prop :=
  results.length = queries.length ∧ ∀ pair ∈ queries.zip results, ∀ value,
    pair.2.written = some value → pair.1.hasBuffer = true ∧ value.length ≤ pair.1.length

/-- What a call may write. -/
def Call.Fits : Call → Output → Prop
  | _, .none => True
  | .getInfo hasInfo, .info (.library manufacturer description) =>
      hasInfo = true ∧ manufacturer.length = 32 ∧ description.length = 32
  | .getSlotList hasList count, .numbers _ written => ListHolds hasList count written
  | .getSlotInfo _ hasInfo, .info (.slot description manufacturer _) =>
      hasInfo = true ∧ description.length = 64 ∧ manufacturer.length = 32
  | .getTokenInfo _ hasInfo, .info (.token label manufacturer model serialNumber ..) =>
      hasInfo = true ∧ label.length = 32 ∧ manufacturer.length = 32 ∧ model.length = 16 ∧
        serialNumber.length = 16
  | .getMechanismList _ hasList count, .numbers _ written => ListHolds hasList count written
  | .getMechanismInfo _ _ hasInfo, .info (.mechanism ..) => hasInfo = true
  | .openSession _ _ hasHandle, .handle _ => hasHandle = true
  | .getSessionInfo _ hasInfo, .info (.session ..) => hasInfo = true
  | .getAttributeValue _ _ (.entries queries), .attributes results => QueriesHold queries results
  | .findObjects _ hasOutput capacity hasCount, .found handles =>
      hasCount = true ∧ handles.length ≤ capacity ∧ (handles ≠ [] → hasOutput = true)
  | .sign _ _ signature hasLength, .buffer _ written =>
      hasLength = true ∧ signature.Holds written
  | .signFinal _ signature hasLength, .buffer _ written =>
      hasLength = true ∧ signature.Holds written
  | .generateKey _ _ _ hasHandle, .handle _ => hasHandle = true
  | .generateKeyPair _ _ _ _ hasHandles, .keyPair _ _ => hasHandles = true
  | .wrapKey _ _ _ _ output hasLength, .buffer _ written => hasLength = true ∧ output.Holds written
  | .unwrapKey _ _ _ _ _ hasHandle, .handle _ => hasHandle = true
  | .deriveKey _ _ _ _ hasHandle, .handle _ => hasHandle = true
  | .generateRandom _ output, .bytes written =>
      output.isMissing = false ∧ written.length ≤ output.length
  | _, _ => False

/-- The calls that return something besides their code. -/
def Call.returns : Call → Bool
  | .getInfo .. => true
  | .getSlotList .. => true
  | .getSlotInfo .. => true
  | .getTokenInfo .. => true
  | .getMechanismList .. => true
  | .getMechanismInfo .. => true
  | .openSession .. => true
  | .getSessionInfo .. => true
  | .getAttributeValue _ _ (.entries _) => true
  | .findObjects .. => true
  | .sign .. => true
  | .signFinal .. => true
  | .generateKey .. => true
  | .generateKeyPair .. => true
  | .wrapKey .. => true
  | .unwrapKey .. => true
  | .deriveKey .. => true
  | .generateRandom .. => true
  | _ => false

/-- A buffer or list that is given has been filled, and the length reported is that of its
content. -/
def Filled {α : Type} (given : Bool) (length : Nat) (written : Option (List α)) : Prop :=
  given = true → ∃ values, written = some values ∧ length = values.length

/-- All that a call returns has been written.  `RAND_bytes` takes the length as an `int`. -/
def Call.Complete : Call → Output → Prop
  | _, .none => False
  | .getSlotList hasList _, .numbers count written => Filled hasList count written
  | .getMechanismList _ hasList _, .numbers count written => Filled hasList count written
  | .getAttributeValue _ _ (.entries queries), .attributes results =>
      List.Forall₂ (fun query result => Filled query.hasBuffer result.length result.written)
        queries results
  | .sign _ _ signature _, .buffer length written => Filled signature.hasBuffer length written
  | .signFinal _ signature _, .buffer length written => Filled signature.hasBuffer length written
  | .wrapKey _ _ _ _ output _, .buffer length written => Filled output.hasBuffer length written
  | .generateRandom _ output, .bytes written =>
      output.length < 2 ^ 31 → written.length = output.length
  | _, _ => True

/-- The response writes what fits, and everything if the call succeeds. -/
structure WritesWithin (call : Call) (response : Response) : Prop where
  fits : call.Fits response.output
  complete : response.rv = .ok → call.returns = true → call.Complete response.output

/-- The results of the AES key wraps are no longer than their specifications say. -/
def OpenSsl.WrapsBounded (openSsl : OpenSsl) : Prop :=
  ∀ padding key input result, openSsl.keyWrap padding key input = some result →
    result.length ≤ wrapLength false padding input.length

section

variable {host : Host} {oracle : Oracle} {state : State}

/-! ## Reading calls -/

/-- An error code and nothing else. -/
theorem WritesWithin.plain {call : Call} {code : Rv}
    (failed : code = .ok → call.returns = false) : WritesWithin call (.plain code) := by
  refine ⟨?_, fun isOk returns => ?_⟩
  · rw [Response.plain_output]
    cases call <;> trivial
  · rw [failed isOk] at returns
    contradiction

theorem writePaddedString_length (capacity : Nat) (value : Bytes) :
    (writePaddedString capacity value).length = capacity := by
  simp only [writePaddedString, List.length_append, List.length_take, List.length_replicate]
  omega

theorem listResponse_holds (values : List Nat) (hasList : Bool) (count : Nat) :
    ∃ reported written, (listResponse values hasList count).output = .numbers reported written ∧
      ListHolds hasList (some count) written ∧
      ((listResponse values hasList count).rv = .ok → Filled hasList reported written) := by
  unfold listResponse
  split
  · rename_i missing
    refine ⟨_, none, rfl, ⟨count, rfl, fun _ absent => by contradiction⟩, fun _ given => ?_⟩
    rw [missing] at given
    contradiction
  · split
    · exact ⟨_, none, rfl, ⟨count, rfl, fun _ absent => by contradiction⟩,
        fun isOk => by contradiction⟩
    · rename_i given large
      refine ⟨_, some values, rfl, ⟨count, rfl, ?_⟩, fun _ _ => ⟨values, rfl, rfl⟩⟩
      rintro written ⟨⟩
      exact ⟨by simpa using given, by omega⟩

theorem getSlotList_within (hasList : Bool) (count : Option Nat) :
    WritesWithin (.getSlotList hasList count) (getSlotList state hasList count) := by
  cases count with
  | none => exact .plain (by simp)
  | some room =>
      obtain ⟨reported, written, output, holds, filled⟩ :=
        listResponse_holds state.slots.keys hasList room
      have isList : (getSlotList state hasList (some room)).output = .numbers reported written :=
        output
      exact ⟨by rw [isList]; exact holds, fun isOk _ => by rw [isList]; exact filled isOk⟩

theorem getMechanismList_within (slotId : Nat) (hasList : Bool) (count : Option Nat) :
    WritesWithin (.getMechanismList slotId hasList count)
      (getMechanismList state slotId hasList count) := by
  unfold getMechanismList
  split
  · rename_i code fails
    refine .plain ?_
    rintro rfl
    simp [bind_eq_error_iff] at fails
  · rename_i room passes
    simp only [bind_eq_ok_iff, fetch_eq_ok_iff] at passes
    obtain ⟨_, _, rfl⟩ := passes
    obtain ⟨reported, written, output, holds, filled⟩ :=
      listResponse_holds supportedMechanisms hasList room
    exact ⟨by rw [output]; exact holds, fun isOk _ => by rw [output]; exact filled isOk⟩

theorem infoChecks_eq_ok {slotId : Nat} {hasInfo : Bool} {slot : Slot}
    (passes : infoChecks state slotId hasInfo = .ok slot) : hasInfo = true := by
  simp only [infoChecks, bind_eq_ok_iff, fetch_eq_ok_iff, require_eq_ok_iff] at passes
  obtain ⟨_, _, _, given, _⟩ := passes
  exact given

theorem infoChecks_ne_ok (slotId : Nat) (hasInfo : Bool) :
    infoChecks state slotId hasInfo ≠ .error .ok := by
  simp [infoChecks, bind_eq_error_iff]

theorem getInfo_within (hasInfo : Bool) : WritesWithin (.getInfo hasInfo) (getInfo hasInfo) := by
  unfold getInfo
  split
  · exact .plain (by simp)
  · rename_i given
    refine ⟨⟨by simpa using given, ?_, ?_⟩, fun _ _ => trivial⟩
    · exact writePaddedString_length _ _
    · exact writePaddedString_length _ _

theorem getSlotInfo_within (slotId : Nat) (hasInfo : Bool) :
    WritesWithin (.getSlotInfo slotId hasInfo) (getSlotInfo state slotId hasInfo) := by
  unfold getSlotInfo
  split
  · rename_i code fails
    refine .plain ?_
    rintro rfl
    exact (infoChecks_ne_ok _ _ fails).elim
  · rename_i slot passes
    refine ⟨⟨infoChecks_eq_ok passes, ?_, ?_⟩, fun _ _ => trivial⟩
    · exact writePaddedString_length _ _
    · exact writePaddedString_length _ _

theorem getTokenInfo_within (slotId : Nat) (hasInfo : Bool) :
    WritesWithin (.getTokenInfo slotId hasInfo) (getTokenInfo state slotId hasInfo) := by
  unfold getTokenInfo
  split
  · rename_i code fails
    refine .plain ?_
    rintro rfl
    exact (infoChecks_ne_ok _ _ fails).elim
  · rename_i slot passes
    refine ⟨⟨infoChecks_eq_ok passes, ?_, ?_, ?_, ?_⟩, fun _ _ => trivial⟩
    · exact writePaddedString_length _ _
    · exact writePaddedString_length _ _
    · exact writePaddedString_length _ _
    · exact writePaddedString_length _ _

theorem mechanismInfo_fits (slotId mechanism : Nat) {hasInfo : Bool} (given : hasInfo = true) :
    (Call.getMechanismInfo slotId mechanism hasInfo).Fits (.info (mechanismInfo mechanism)) := by
  unfold mechanismInfo
  split_ifs <;> exact given

theorem getMechanismInfo_within (slotId mechanism : Nat) (hasInfo : Bool) :
    WritesWithin (.getMechanismInfo slotId mechanism hasInfo)
      (getMechanismInfo state slotId mechanism hasInfo) := by
  unfold getMechanismInfo
  split
  · rename_i code fails
    refine .plain ?_
    rintro rfl
    simp [bind_eq_error_iff, infoChecks_ne_ok] at fails
  · rename_i passes
    simp only [bind_eq_ok_iff] at passes
    obtain ⟨slot, known, _⟩ := passes
    exact ⟨mechanismInfo_fits _ _ (infoChecks_eq_ok known), fun _ _ => trivial⟩

theorem getSessionInfo_within (sessionHandle : Nat) (hasInfo : Bool) :
    WritesWithin (.getSessionInfo sessionHandle hasInfo)
      (getSessionInfo state sessionHandle hasInfo) := by
  unfold getSessionInfo
  split
  · rename_i code fails
    refine .plain ?_
    rintro rfl
    simp [bind_eq_error_iff, Exception.code] at fails
  · rename_i session slot passes
    simp only [bind_eq_ok_iff, fetch_eq_ok_iff, require_eq_ok_iff] at passes
    obtain ⟨_, _, _, given, _⟩ := passes
    exact ⟨given, fun _ _ => trivial⟩

/-- What is written for an entry fits its buffer. -/
theorem readAttribute_holds (openSsl : OpenSsl) (object : Object) (query : AttributeQuery)
    {value : Bytes} (written : (readAttribute openSsl object query).1.written = some value) :
    query.hasBuffer = true ∧ value.length ≤ query.length := by
  unfold readAttribute at written
  split at written
  · unfold writeAttribute at written
    split at written
    · contradiction
    · split at written
      · contradiction
      · rename_i given large
        cases written
        exact ⟨by simpa using given, by omega⟩
  · contradiction
  · contradiction

/-- An entry whose pass reports no error has its value in the buffer. -/
theorem readAttribute_filled (openSsl : OpenSsl) (object : Object) (query : AttributeQuery)
    (isOk : (readAttribute openSsl object query).2 = .ok) :
    Filled query.hasBuffer (readAttribute openSsl object query).1.length
      (readAttribute openSsl object query).1.written := by
  obtain ⟨value, _, _, length, written⟩ := readAttribute_ok_iff.mp isOk
  intro given
  rw [if_pos given] at written
  exact ⟨value, written, length⟩

theorem readAttributes_within (openSsl : OpenSsl) (object : Object) (sessionHandle handle : Nat)
    (attributes : QueryTemplate) :
    WritesWithin (.getAttributeValue sessionHandle handle attributes)
      (readAttributes openSsl object attributes) := by
  cases attributes with
  | null count => exact .plain fun _ => rfl
  | entries queries =>
      refine ⟨⟨by simp, ?_⟩, fun isOk _ => ?_⟩
      · rintro ⟨query, result⟩ paired value written
        obtain ⟨index, below, isPair⟩ := List.mem_iff_getElem.mp paired
        simp only [List.getElem_zip, List.getElem_map, Prod.mk.injEq] at isPair
        obtain ⟨rfl, rfl⟩ := isPair
        exact readAttribute_holds openSsl object _ written
      · have allOk : ∀ query ∈ queries, (readAttribute openSsl object query).2 = .ok := by
          simpa [readAttributes, lastError_eq_ok_iff] using isOk
        rw [readAttributes_output]
        simp only [Call.Complete, List.forall₂_map_right_iff, List.forall₂_same]
        exact fun query among => readAttribute_filled openSsl object query (allOk query among)

theorem getAttributeValue_within (sessionHandle handle : Nat) (attributes : QueryTemplate) :
    WritesWithin (.getAttributeValue sessionHandle handle attributes)
      (getAttributeValue host state sessionHandle handle attributes) := by
  unfold getAttributeValue
  split
  · rename_i code fails
    refine .plain ?_
    rintro rfl
    simp [readableObject, bind_eq_error_iff, objectAccessStatus_ne_ok] at fails
  · exact readAttributes_within _ _ _ _ _

theorem generateRandom_within (sessionHandle : Nat) (output : Buffer) :
    WritesWithin (.generateRandom sessionHandle output)
      (generateRandom oracle state sessionHandle output) := by
  unfold generateRandom
  split
  · rename_i code fails
    refine .plain ?_
    rintro rfl
    simp [bind_eq_error_iff] at fails
  · rename_i bytes passes
    simp only [bind_eq_ok_iff, fetch_eq_ok_iff, require_eq_ok_iff] at passes
    obtain ⟨_, _, _, given, filled⟩ := passes
    obtain ⟨source, _, rfl⟩ := Option.map_eq_some_iff.mp filled
    refine ⟨⟨given, ?_⟩, fun _ _ small => ?_⟩
    · rw [List.length_map, List.length_range]
      unfold toInt
      have reduced := Nat.mod_le output.length (2 ^ 32)
      split <;> omega
    · rw [List.length_map, List.length_range]
      unfold toInt
      rw [Nat.mod_eq_of_lt (by omega), if_pos small, Int.toNat_natCast]

/-! ## Sessions and searches -/

theorem openSession_within (slotId flags : Nat) (hasHandle : Bool) :
    WritesWithin (.openSession slotId flags hasHandle)
      (openSession state slotId flags hasHandle).2 := by
  unfold openSession
  split
  · rename_i code fails
    refine .plain ?_
    rintro rfl
    simp [openSessionChecks, bind_eq_error_iff] at fails
  · rename_i passes
    simp only [openSessionChecks, bind_eq_ok_iff, fetch_eq_ok_iff, require_eq_ok_iff] at passes
    obtain ⟨_, _, _, given, _⟩ := passes
    exact ⟨given, fun _ _ => trivial⟩

theorem takeVisible_length (visible : Nat → Bool) (capacity : Nat) (found : List Nat) :
    (takeVisible visible capacity found).1.length ≤ capacity := by
  fun_induction takeVisible visible capacity found <;> grind

theorem findObjects_within (sessionHandle : Nat) (hasOutput : Bool) (capacity : Nat)
    (hasCount : Bool) :
    WritesWithin (.findObjects sessionHandle hasOutput capacity hasCount)
      (findObjects state sessionHandle hasOutput capacity hasCount).2 := by
  unfold findObjects
  split
  · rename_i code fails
    refine .plain ?_
    rintro rfl
    simp [bind_eq_error_iff] at fails
  · rename_i session passes
    simp only [bind_eq_ok_iff, fetch_eq_ok_iff, require_eq_ok_iff] at passes
    obtain ⟨_, _, _, _, _, ⟨counted, given⟩, _⟩ := passes
    have fits := takeVisible_length (stillVisible state sessionHandle) capacity
      (session.searchMatches.drop session.searchOffset)
    refine ⟨⟨counted, fits, fun nonempty => ?_⟩, fun _ _ => trivial⟩
    obtain given | rfl := given
    · exact given
    · have empty := List.length_eq_zero_iff.mp (Nat.le_zero.mp fits)
      exact (nonempty empty).elim

/-! ## Signatures and wrapped keys -/

/-- What `executeSign` writes fits the buffer: the fixed width of an ECDSA signature, or the
size OpenSSL states for the key. -/
theorem executeSign_holds (bounded : oracle.SizesBounded host) (sessionHandle : Nat)
    (operation : Operation) (data : Bytes) (signature : OutputBuffer) :
    signature.Holds (executeSign host oracle state sessionHandle operation data
      signature).written := by
  intro value written
  unfold executeSign at written
  split at written
  · contradiction
  · rename_i object key passes
    dsimp only at written
    split at written
    · contradiction
    · rename_i given
      split at written
      · contradiction
      · rename_i large
        split at written
        · contradiction
        · rename_i digest configured
          split at written
          · contradiction
          · rename_i result signed
            have fits : value.length ≤ requiredLength host.openSsl object key :=
              deliverSignature_written (bounded _ _ signed) written
            exact ⟨by simpa using given, by omega⟩

/-- The length of a signature that is delivered is reported. -/
theorem deliverSignature_filled {object : Object} {key : EvpKey} {length : Nat}
    {primitive : Primitive} {result : Bytes}
    (isOk : (deliverSignature host.openSsl object (coordinateWidth host.openSsl object key)
      (requiredLength host.openSsl object key) length primitive result).rv = .ok) :
    let outcome := deliverSignature host.openSsl object (coordinateWidth host.openSsl object key)
      (requiredLength host.openSsl object key) length primitive result
    ∃ value, outcome.written = some value ∧ outcome.length = value.length := by
  unfold deliverSignature at isOk ⊢
  by_cases isEc : object.keyType = ckkEc
  · simp only [if_pos isEc] at isOk ⊢
    have twice : requiredLength host.openSsl object key =
        2 * coordinateWidth host.openSsl object key := by simp [requiredLength, isEc]
    split at isOk
    · contradiction
    · split at isOk
      · contradiction
      · split at isOk
        · contradiction
        · rename_i firstFits secondFits
          rw [if_neg firstFits, if_neg secondFits]
          refine ⟨_, rfl, ?_⟩
          rw [List.length_append, length_bigEndianBytes, length_bigEndianBytes, ← Nat.two_mul]
          exact twice
  · simp only [if_neg isEc]
    exact ⟨result, rfl, rfl⟩

/-- A signature that was made is in the buffer, if there is one. -/
theorem executeSign_filled (sessionHandle : Nat) (operation : Operation) (data : Bytes)
    (signature : OutputBuffer)
    (isOk : (executeSign host oracle state sessionHandle operation data signature).rv = .ok) :
    Filled signature.hasBuffer
      (executeSign host oracle state sessionHandle operation data signature).length
      (executeSign host oracle state sessionHandle operation data signature).written := by
  intro given
  unfold executeSign at isOk ⊢
  cases keyFound : signatureKey state sessionHandle operation false with
  | error code =>
      rw [keyFound] at isOk
      exact (signatureKey_ne_ok (keyFound.trans (congrArg _ isOk))).elim
  | ok found =>
      simp only [keyFound, given, Bool.true_eq_false, if_false] at isOk ⊢
      split at isOk
      · contradiction
      · rename_i large
        rw [if_neg large]
        split at isOk
        · rename_i code fails
          exact (configureSignature_ne_ok (fails.trans (congrArg _ isOk))).elim
        · rename_i digest configured
          split at isOk
          · contradiction
          · rename_i result signed
            exact deliverSignature_filled isOk

theorem sign_within (bounded : oracle.SizesBounded host) (sessionHandle : Nat) (data : Buffer)
    (signature : OutputBuffer) (hasLength : Bool) :
    WritesWithin (.sign sessionHandle data signature hasLength)
      (sign host oracle state sessionHandle data signature hasLength).2 := by
  unfold sign
  split
  · rename_i code fails
    refine .plain ?_
    rintro rfl
    simp [bind_eq_error_iff, signingSession_ne_ok] at fails
  · rename_i session passes
    simp only [bind_eq_ok_iff, require_eq_ok_iff] at passes
    obtain ⟨_, _, _, ⟨given, _⟩, _⟩ := passes
    have holds := @executeSign_holds host oracle state bounded sessionHandle session.operation
      data.content signature
    unfold completeSign
    dsimp only
    split
    · exact ⟨⟨given, holds⟩, fun isOk _ => executeSign_filled _ _ _ _ isOk⟩
    · exact ⟨⟨given, holds⟩, fun isOk _ => executeSign_filled _ _ _ _ isOk⟩

theorem signFinal_within (bounded : oracle.SizesBounded host) (sessionHandle : Nat)
    (signature : OutputBuffer) (hasLength : Bool) :
    WritesWithin (.signFinal sessionHandle signature hasLength)
      (signFinal host oracle state sessionHandle signature hasLength).2 := by
  unfold signFinal
  split
  · rename_i code fails
    refine .plain ?_
    rintro rfl
    simp [bind_eq_error_iff, signingSession_ne_ok] at fails
  · rename_i session passes
    simp only [bind_eq_ok_iff, require_eq_ok_iff] at passes
    obtain ⟨_, _, _, given, _⟩ := passes
    have holds := @executeSign_holds host oracle state bounded sessionHandle session.operation
      session.operation.bufferedData signature
    unfold completeSign
    dsimp only
    split
    · exact ⟨⟨given, holds⟩, fun isOk _ => executeSign_filled _ _ _ _ isOk⟩
    · exact ⟨⟨given, holds⟩, fun isOk _ => executeSign_filled _ _ _ _ isOk⟩

/-- A wrapped key is in the buffer, if there is one. -/
theorem aesKeyWrap_filled (mechanism : Option Mechanism) (wrappingKey : Object) (input : Bytes)
    (output : OutputBuffer)
    (isOk : (aesKeyWrap host oracle false mechanism wrappingKey input output).rv = .ok) :
    Filled output.hasBuffer
      (aesKeyWrap host oracle false mechanism wrappingKey input output).length
      (aesKeyWrap host oracle false mechanism wrappingKey input output).written := by
  intro given
  unfold aesKeyWrap at isOk ⊢
  cases checked : wrapPadding oracle false mechanism wrappingKey input.length with
  | error code =>
      rw [checked] at isOk
      exact (wrapPadding_ne_ok _ _ _ _ _ (checked.trans (congrArg _ isOk))).elim
  | ok padding =>
      simp only [checked, given, Bool.true_eq_false, if_false] at isOk ⊢
      split at isOk
      · contradiction
      · rename_i large
        rw [if_neg large]
        split at isOk
        · contradiction
        · rename_i result runs
          exact ⟨result, rfl, rfl⟩

theorem wrapKey_within (bounded : host.openSsl.WrapsBounded) (sessionHandle : Nat)
    (mechanism : Option Mechanism) (wrappingHandle keyHandle : Nat) (output : OutputBuffer)
    (hasLength : Bool) :
    WritesWithin (.wrapKey sessionHandle mechanism wrappingHandle keyHandle output hasLength)
      (wrapKey host oracle state sessionHandle mechanism wrappingHandle keyHandle output
        hasLength) := by
  unfold wrapKey
  split
  · rename_i code fails
    refine .plain ?_
    rintro rfl
    simp [wrapInput, bind_eq_error_iff, requireUserLogin_ne_ok] at fails
  · rename_i wrappingKey raw passes
    simp only [wrapInput, bind_eq_ok_iff, fetch_eq_ok_iff, require_eq_ok_iff] at passes
    obtain ⟨_, _, _, given, _⟩ := passes
    refine ⟨⟨given, ?_⟩, fun isOk _ => aesKeyWrap_filled _ _ _ _ isOk⟩
    intro value written
    unfold aesKeyWrap at written
    split at written
    · contradiction
    · rename_i padding checked
      dsimp only at written
      split at written
      · contradiction
      · rename_i hasBuffer
        split at written
        · contradiction
        · rename_i large
          refine ⟨by simpa using hasBuffer, ?_⟩
          split at written
          · contradiction
          · rename_i result runs
            cases written
            split at runs
            · have fits := bounded _ _ _ _ runs
              have unpadded : wrapLength false padding raw.length ≤ output.length := by omega
              exact fits.trans unpadded
            · contradiction

/-! ## Creations -/

/-- A response is the output with `CKR_OK`, or an error code alone. -/
def Response.AllOrNothing (response : Response) (output : Output) : Prop :=
  response = .success output ∨ ∃ code, code ≠ .ok ∧ response = .plain code

theorem Response.AllOrNothing.within {call : Call} {response : Response} {output : Output}
    (whole : response.AllOrNothing output) (fits : call.Fits output)
    (complete : call.Complete output) : WritesWithin call response := by
  obtain rfl | ⟨code, failed, rfl⟩ := whole
  · exact ⟨fits, fun _ _ => complete⟩
  · exact .plain fun isOk => (failed isOk).elim

theorem publishKey_allOrNothing (path : Path) (output : Output) :
    (publishKey state oracle path output).2.AllOrNothing output := by
  unfold publishKey
  split
  · exact Or.inl rfl
  · rename_i code failed _
    exact Or.inr ⟨code, failed, rfl⟩

theorem storeSecretKey_allOrNothing (object : Object) (token : Bool) :
    (storeSecretKey oracle state object token).2.AllOrNothing (.handle object.handle) := by
  unfold storeSecretKey
  dsimp only
  split
  · split
    · exact publishKey_allOrNothing _ _
    · rename_i code failed _
      exact Or.inr ⟨code, failed, rfl⟩
  · exact Or.inl rfl

theorem finishKeyPair_allOrNothing (handle : Nat) (request : PairRequest) (output : Output) :
    (finishKeyPair oracle state handle request output).2.AllOrNothing output := by
  unfold finishKeyPair
  split
  · exact Or.inr ⟨_, by decide, rfl⟩
  · dsimp only
    split
    · exact Or.inr ⟨_, by decide, rfl⟩
    · split
      · exact publishKey_allOrNothing _ _
      · exact Or.inl rfl

theorem storeKeyPair_allOrNothing (request : PairRequest) (output : Nat → Output) :
    (storeKeyPair host oracle state request output).2.AllOrNothing
      (output state.nextObjectHandle) := by
  unfold storeKeyPair
  split
  · split
    · exact Or.inr ⟨_, by decide, rfl⟩
    · exact finishKeyPair_allOrNothing _ _ _
  · rename_i code failed _
    exact Or.inr ⟨code, failed, rfl⟩

theorem generateKey_within (sessionHandle : Nat) (mechanism : Option Mechanism)
    (attributes : Template) (hasHandle : Bool) :
    WritesWithin (.generateKey sessionHandle mechanism attributes hasHandle)
      (generateKey oracle state sessionHandle mechanism attributes hasHandle).2 := by
  unfold generateKey
  split
  · rename_i code fails
    refine .plain ?_
    rintro rfl
    exact (generatedKeyLength_ne_ok _ _ _ _ _ fails).elim
  · rename_i keyLength passes
    split
    · rename_i code fails
      refine .plain ?_
      rintro rfl
      exact (generatedKey_ne_ok _ _ _ _ _ fails).elim
    · simp only [generatedKeyLength, bind_eq_ok_iff, fetch_eq_ok_iff, require_eq_ok_iff] at passes
      obtain ⟨_, _, _, _, _, given, _⟩ := passes
      exact (storeSecretKey_allOrNothing _ _).within given trivial

theorem generateKeyPair_within (sessionHandle : Nat) (mechanism : Option Mechanism)
    (publicTemplate privateTemplate : Template) (hasHandles : Bool) :
    WritesWithin
      (.generateKeyPair sessionHandle mechanism publicTemplate privateTemplate hasHandles)
      (generateKeyPair host oracle state sessionHandle mechanism publicTemplate privateTemplate
        hasHandles).2 := by
  unfold generateKeyPair
  split
  · rename_i code fails
    refine .plain ?_
    rintro rfl
    exact (generatedPair_ne_ok _ _ _ _ _ _ _ fails).elim
  · rename_i request passes
    simp only [generatedPair, pairTemplates, bind_eq_ok_iff, fetch_eq_ok_iff, require_eq_ok_iff]
      at passes
    obtain ⟨_, ⟨_, _, _, _, _, ⟨given, _⟩, _⟩, _⟩ := passes
    exact (storeKeyPair_allOrNothing _ _).within given trivial

theorem unwrapKey_within (sessionHandle : Nat) (mechanism : Option Mechanism)
    (wrappingHandle : Nat) (input : Buffer) (attributes : Template) (hasHandle : Bool) :
    WritesWithin (.unwrapKey sessionHandle mechanism wrappingHandle input attributes hasHandle)
      (unwrapKey host oracle state sessionHandle mechanism wrappingHandle input attributes
        hasHandle).2 := by
  unfold unwrapKey
  split
  · rename_i code fails
    refine .plain ?_
    rintro rfl
    exact (unwrappedBytes_ne_ok _ _ _ _ _ _ _ _ _ fails).elim
  · rename_i raw passes
    simp only [unwrappedBytes, bind_eq_ok_iff, fetch_eq_ok_iff, require_eq_ok_iff] at passes
    obtain ⟨_, _, _, ⟨_, given, _⟩, _⟩ := passes
    dsimp only
    split
    · split
      · exact .plain (by simp)
      · split
        · rename_i code fails
          refine .plain ?_
          rintro rfl
          exact (unwrappedSecret_ne_ok _ _ _ _ _ fails).elim
        · exact (storeSecretKey_allOrNothing _ _).within given trivial
    · split
      · exact .plain (by simp)
      · split
        · rename_i code fails
          refine .plain ?_
          rintro rfl
          exact (unwrappedPair_ne_ok _ _ _ _ _ _ fails).elim
        · exact (storeKeyPair_allOrNothing _ _).within given trivial

theorem deriveKey_within (sessionHandle : Nat) (mechanism : Option Mechanism) (baseKey : Nat)
    (attributes : Template) (hasHandle : Bool) :
    WritesWithin (.deriveKey sessionHandle mechanism baseKey attributes hasHandle)
      (deriveKey host oracle state sessionHandle mechanism baseKey attributes hasHandle).2 := by
  unfold deriveKey
  split
  · rename_i code fails
    refine .plain ?_
    rintro rfl
    exact (derivation_ne_ok _ _ _ _ _ _ _ _ fails).elim
  · rename_i session slot value passes
    simp only [derivation, bind_eq_ok_iff, fetch_eq_ok_iff, require_eq_ok_iff] at passes
    obtain ⟨_, _, _, _, _, ⟨given, _⟩, _⟩ := passes
    exact (storeSecretKey_allOrNothing _ _).within given trivial

/-! ## All calls -/

/-- The other calls write nothing. -/
theorem service_silent {call : Call} (silent : call.returns = false)
    (notRead : ∀ sessionHandle handle count,
      call ≠ .getAttributeValue sessionHandle handle (.null count)) :
    (service host oracle state call).2.output = .none := by
  cases call with
  | cInitialize hasReserved =>
      simp only [service, cInitialize]
      split_ifs
      · rfl
      · rfl
      · split
        · rfl
        · split <;> rfl
  | cFinalize hasReserved =>
      simp only [service, cFinalize]
      split_ifs <;> rfl
  | closeSession sessionHandle =>
      simp only [service, closeSession]
      split
      · rfl
      · split_ifs
        · rfl
        · split <;> rfl
  | closeAllSessions slotId =>
      simp only [service, closeAllSessions]
      split <;> rfl
  | initPin sessionHandle pin =>
      simp only [service, initPin, changePin]
      split
      · rfl
      · split <;> rfl
  | setPin sessionHandle oldPin newPin =>
      simp only [service, setPin, changePin]
      split
      · rfl
      · split <;> rfl
  | login sessionHandle userType pin =>
      simp only [service, login]
      split <;> rfl
  | logout sessionHandle =>
      simp only [service, logout]
      split <;> rfl
  | destroyObject sessionHandle handle =>
      simp only [service, destroyObject, destroyKeyFile]
      split
      · rfl
      · split_ifs <;> rfl
  | setAttributeValue sessionHandle handle attributes =>
      simp only [service, setAttributeValue]
      split
      · rfl
      · split_ifs <;> rfl
  | findObjectsInit sessionHandle attributes =>
      simp only [service, findObjectsInit]
      split <;> rfl
  | findObjectsFinal sessionHandle =>
      simp only [service, findObjectsFinal]
      split <;> rfl
  | signInit sessionHandle mechanism handle =>
      simp only [service, signInit, initializeSignature]
      split <;> rfl
  | verifyInit sessionHandle mechanism handle =>
      simp only [service, verifyInit, initializeSignature]
      split <;> rfl
  | signUpdate sessionHandle data =>
      simp only [service, signUpdate, appendSignatureData]
      split
      · rfl
      · split_ifs <;> rfl
  | verifyUpdate sessionHandle data =>
      simp only [service, verifyUpdate, appendSignatureData]
      split
      · rfl
      · split_ifs <;> rfl
  | verify sessionHandle data signature =>
      simp only [service, verify, completeVerify, executeVerify]
      split
      · rfl
      · dsimp only
        split <;> rfl
  | verifyFinal sessionHandle signature =>
      simp only [service, verifyFinal, completeVerify, executeVerify]
      split
      · rfl
      · dsimp only
        split <;> rfl
  | getAttributeValue sessionHandle handle attributes =>
      cases attributes with
      | null count => exact (notRead sessionHandle handle count rfl).elim
      | entries queries => contradiction
  | unsupported => rfl
  | _ => contradiction

theorem WritesWithin.silent {call : Call} {response : Response} (output : response.output = .none)
    (quiet : call.returns = false) : WritesWithin call response := by
  refine ⟨?_, fun _ returns => ?_⟩
  · rw [output]
    cases call <;> trivial
  · rw [quiet] at returns
    contradiction

theorem service_within (wraps : host.openSsl.WrapsBounded) (signatures : oracle.SizesBounded host)
    (call : Call) : WritesWithin call (service host oracle state call).2 := by
  cases call with
  | getInfo hasInfo => exact getInfo_within hasInfo
  | getSlotList hasList count => exact getSlotList_within hasList count
  | getSlotInfo slotId hasInfo => exact getSlotInfo_within slotId hasInfo
  | getTokenInfo slotId hasInfo => exact getTokenInfo_within slotId hasInfo
  | getMechanismList slotId hasList count => exact getMechanismList_within slotId hasList count
  | getMechanismInfo slotId mechanism hasInfo =>
      exact getMechanismInfo_within slotId mechanism hasInfo
  | openSession slotId flags hasHandle => exact openSession_within slotId flags hasHandle
  | getSessionInfo sessionHandle hasInfo => exact getSessionInfo_within sessionHandle hasInfo
  | getAttributeValue sessionHandle handle attributes =>
      exact getAttributeValue_within sessionHandle handle attributes
  | findObjects sessionHandle hasOutput capacity hasCount =>
      exact findObjects_within sessionHandle hasOutput capacity hasCount
  | sign sessionHandle data signature hasLength =>
      exact sign_within signatures sessionHandle data signature hasLength
  | signFinal sessionHandle signature hasLength =>
      exact signFinal_within signatures sessionHandle signature hasLength
  | generateKey sessionHandle mechanism attributes hasHandle =>
      exact generateKey_within sessionHandle mechanism attributes hasHandle
  | generateKeyPair sessionHandle mechanism publicTemplate privateTemplate hasHandles =>
      exact generateKeyPair_within sessionHandle mechanism publicTemplate privateTemplate hasHandles
  | wrapKey sessionHandle mechanism wrappingHandle keyHandle output hasLength =>
      exact wrapKey_within wraps sessionHandle mechanism wrappingHandle keyHandle output hasLength
  | unwrapKey sessionHandle mechanism wrappingHandle input attributes hasHandle =>
      exact unwrapKey_within sessionHandle mechanism wrappingHandle input attributes hasHandle
  | deriveKey sessionHandle mechanism baseKey attributes hasHandle =>
      exact deriveKey_within sessionHandle mechanism baseKey attributes hasHandle
  | generateRandom sessionHandle output => exact generateRandom_within sessionHandle output
  | _ => exact .silent (service_silent rfl (by simp)) rfl

end

/-- In every state and for all arguments, a call writes only through the pointers it is given
and within the lengths it is told, if OpenSSL keeps to the sizes it states for signatures and
wrapped keys; and a call that succeeds has filled what it was given. -/
theorem outputs_fit (host : Host) (oracle : Oracle) (wraps : host.openSsl.WrapsBounded)
    (signatures : oracle.SizesBounded host) (state : State) (call : Call) :
    WritesWithin call (step host state (call, oracle)).2 := by
  unfold step
  split
  · exact .plain (by simp)
  · exact service_within wraps signatures call

/-- The plain environment with signatures of one byte. -/
def Oracle.brief : Oracle := { Oracle.plain with signPrimitive := fun _ => some [1] }

/-- A signature that is written to a buffer of the stated size. -/
theorem outputs_fit_signature :
    let state := Runs.final (step .plain) (.loaded ⟨∅, ∅⟩) (plainRun [.cInitialize false,
      .openSession 1 6 true, sessionPair 1, .signInit 1 (some ⟨ckmSha256RsaPkcs, .null 0⟩) 1])
    let call : Call := .sign 1 (.bytes [1, 2, 3]) ⟨true, 384⟩ true
    (step .plain state (call, .brief)).2.rv = .ok ∧
      WritesWithin call (step .plain state (call, .brief)).2 := by
  intro state call
  refine ⟨by decide, outputs_fit .plain .brief ?_ ?_ state call⟩
  · rintro padding key input result ⟨⟩
    unfold wrapLength
    split_ifs <;> omega
  · rintro primitive result ⟨⟩
    simp [Host.plain, OpenSsl.plain]

end HsmSimulator
