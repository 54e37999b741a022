import HsmSimulator.Library.Blocks
import HsmSimulator.Pkcs11.Registry
import HsmSimulator.Pkcs11.Templates

/-!
# Derived keys

A derived key is the leading part of the blockwise encryption of the whole data, although
no more than the leading blocks are encrypted.  What follows for two derivations under one
master key needs of AES only that it permutes the blocks.
-/

namespace HsmSimulator

open Checks FileSystem

/-! ## What is derived -/

/-- The blockwise encryption of the whole data under a master key. -/
def wholeEcb (host : Host) (master data : Bytes) : Bytes :=
  ecbEncrypt (host.openSsl.aesBlock master) (data.length / 16) data

/-- AES permutes the blocks under every key of a length it takes. -/
def AesPermutes (openSsl : OpenSsl) : Prop :=
  ∀ key first second : Bytes, isAesKeyLength key.length = true → first.length = 16 →
    second.length = 16 → openSsl.aesBlock key first = openSsl.aesBlock key second → first = second

theorem ecbEncrypt_eq_mapBlocks (block : Bytes → Vector UInt8 16) (count : Nat) (data : Bytes) :
    ecbEncrypt block count data = Blocks.mapBlocks block count data := by
  induction count generalizing data with
  | zero => rfl
  | succ count ih => rw [ecbEncrypt, Blocks.mapBlocks, ih]

section

variable (host : Host) (master : Bytes) {data other : Bytes} {length longer : Nat}
  (isLength : isAesKeyLength length = true)

include isLength

/-- The shortened computation agrees with the whole one. -/
theorem derivedValue_eq (enough : usedLength length ≤ data.length) :
    derivedValue host master data length = (wholeEcb host master data).take length := by
  rw [derivedValue, wholeEcb, derivationCall_output isLength]
  unfold usedLength at enough ⊢
  rw [ecbEncrypt_eq_mapBlocks, ecbEncrypt_eq_mapBlocks, Blocks.mapBlocks_take _ (by omega)]
  exact Blocks.take_mapBlocks_of_le _ (by omega) (by omega) data

/-- Only the blocks that are used matter. -/
theorem derivedValue_congr
    (same : data.take (usedLength length) = other.take (usedLength length)) :
    derivedValue host master data length = derivedValue host master other length := by
  rw [derivedValue, derivedValue, derivationCall_output isLength, derivationCall_output isLength,
    same]

/-- A shorter key is a prefix of a longer one. -/
theorem derivedValue_prefix (isLonger : isAesKeyLength longer = true) (shorter : length ≤ longer)
    (enough : usedLength longer ≤ data.length) :
    derivedValue host master data length <+: derivedValue host master data longer := by
  have less : usedLength length ≤ usedLength longer := by
    unfold usedLength
    omega
  rw [derivedValue_eq host master isLonger enough,
    derivedValue_eq host master isLength (less.trans enough)]
  exact List.take_prefix_take_left shorter

/-- A block that is kept whole is determined by the key. -/
theorem derivedValue_ne (permutes : AesPermutes host.openSsl)
    (masterLength : isAesKeyLength master.length = true)
    (enough : usedLength length ≤ data.length)
    (otherEnough : usedLength length ≤ other.length) {index : Nat}
    (whole : 16 * (index + 1) ≤ length)
    (different : Blocks.block 16 index data ≠ Blocks.block 16 index other) :
    derivedValue host master data length ≠ derivedValue host master other length := by
  rw [derivedValue, derivedValue, derivationCall_output isLength, derivationCall_output isLength]
  unfold usedLength at enough otherEnough ⊢
  rw [ecbEncrypt_eq_mapBlocks, ecbEncrypt_eq_mapBlocks, Blocks.mapBlocks_take _ (by omega),
    Blocks.mapBlocks_take _ (by omega)]
  refine Blocks.take_mapBlocks_ne ?_ (by omega) whole (by omega) (by omega) different
  exact fun first second => permutes master first second masterLength

end

/-! ## The token flag -/

/-- In a template without duplicates the last entry for the token is the only one. -/
theorem derivationToken_eq_find? {entries : List Attribute}
    (distinct : (entries.map Attribute.type).Nodup) (token : Bool) :
    entries.foldl
        (fun token entry => if entry.type = ckaToken then entry.boolean else token) token =
      ((entries.find? fun entry => entry.type = ckaToken).map Attribute.boolean).getD token := by
  induction entries generalizing token with
  | nil => rfl
  | cons entry rest ih =>
      rw [List.map_cons, List.nodup_cons] at distinct
      rw [List.foldl_cons, ih distinct.2]
      by_cases isToken : entry.type = ckaToken
      · have others : rest.find? (fun entry => entry.type = ckaToken) = none := by
          rw [List.find?_eq_none]
          intro other member same
          refine distinct.1 (List.mem_map.mpr ⟨other, member, ?_⟩)
          rw [isToken]
          simpa using same
        simp [isToken, others]
      · simp [isToken]

/-- The flag the loop leaves is the one of the other creation paths. -/
theorem derivationToken_eq {attributes : Template}
    (valid : validateDerivationTemplate attributes = .ok ()) :
    derivationToken attributes = isTokenTemplate attributes false := by
  have readable := readable_of_validates (validateCreationTemplate_of_derivation valid)
  rw [derivationToken,
    derivationToken_eq_find? (validateDerivationTemplate_eq_ok_iff.mp valid).2.distinct,
    isTokenTemplate, templateBytes]
  cases found : attributes.toList.find? fun entry => entry.type = ckaToken with
  | none => rfl
  | some entry =>
      have isToken : entry.type = ckaToken := by simpa using List.find?_some found
      rcases readable.boolean entry (List.mem_of_find?_eq_some found) (Or.inr isToken) with
        ⟨flag, value⟩
      simp [Attribute.boolean, value, Buffer.length, Buffer.isNull, Buffer.content]

/-! ## Successful derivations -/

/-- What a derivation has read when it gets a value. -/
structure DerivationReads (host : Host) (state : State) (sessionHandle : Nat)
    (mechanism : Option Mechanism) (baseKey : Nat) (attributes : Template)
    (master data : Bytes) (length : Nat) : Prop where
  isMechanism : mechanism = some ⟨ckmAesEcbEncryptData, .stringData (.bytes data)⟩
  masterFound : ∃ object, state.findObject sessionHandle baseKey = some object ∧
    object.secretValue = master
  masterLength : isAesKeyLength master.length = true
  asked : templateUnsigned attributes ckaValueLen = some length
  keyLength : isAesKeyLength length = true
  enough : usedLength length ≤ data.length

theorem derivationData_eq_ok {given : Mechanism} {data : Bytes}
    (passes : derivationData given = .ok data) :
    given = ⟨ckmAesEcbEncryptData, .stringData (.bytes data)⟩ ∧ data.length % 16 = 0 := by
  simp only [derivationData, bind_eq_ok_iff, require_eq_ok_iff] at passes
  rcases passes with ⟨_, isMechanism, passes⟩
  split at passes
  · rename_i buffer parameter
    simp only [bind_eq_ok_iff, require_eq_ok_iff, pure_eq_ok, Except.ok.injEq] at passes
    rcases passes with ⟨_, present, _, lengths, rfl⟩
    cases buffer with
    | null length => contradiction
    | bytes content =>
        refine ⟨?_, lengths.2.1⟩
        rw [← isMechanism]
        cases given
        cases parameter
        rfl
  · contradiction

theorem derivation_reads {host : Host} {oracle : Oracle} {state : State} {sessionHandle : Nat}
    {mechanism : Option Mechanism} {baseKey : Nat} {attributes : Template} {hasHandle : Bool}
    {session : Session} {slot : Slot} {value : Bytes}
    (passes : derivation host oracle state sessionHandle mechanism baseKey attributes hasHandle =
      .ok (session, slot, value)) :
    ∃ master data length, DerivationReads host state sessionHandle mechanism baseKey attributes
        master data length ∧ value = derivedValue host master data length := by
  simp only [derivation, derivationMaster, derivedLength, bind_eq_ok_iff, fetch_eq_ok_iff,
    require_eq_ok_iff, pure_eq_ok, Except.ok.injEq, Prod.mk.injEq] at passes
  rcases passes with ⟨_, _, given, isGiven, _, _, data, isData, master,
    ⟨_, masterFound, _, _, _, _, _, _, _, masterLength, rfl⟩, length,
    ⟨_, _, _, _, _, _, _, lengthFound, _, _, _, keyLength, _, within, rfl⟩, _, _, _, _, _, _, _, _,
    _, _, _, _, rfl⟩
  rcases derivationData_eq_ok isData with ⟨rfl, blocks⟩
  refine ⟨_, data, _, ⟨isGiven, ⟨_, masterFound, rfl⟩, masterLength, lengthFound, keyLength, ?_⟩,
    rfl⟩
  unfold usedLength
  omega

/-- How a token key is stored: in a key file of its slot, with its metadata.  A stream
that fails when it is closed may have kept a part of the file only. -/
structure DerivedKeyStored (oracle : Oracle) (state next : State) (sessionHandle : Nat)
    (object : Object) : Prop where
  place : ∃ slot, state.sessionSlot sessionHandle = some slot ∧
    object.path = symmetricKeyPath slot object.label
  new : state.disk.content object.path = none
  keyFile : ∃ stored, next.disk.content object.path = some stored ∧
    (oracle.writeResult object.path = .complete ∧ stored = encodeHex object.secretValue ++ [10] ∨
      ∃ kept, oracle.writeResult object.path = .failsAtClose kept ∧
        stored = (encodeHex object.secretValue ++ [10]).take kept)
  metadata : next.disk.content (Metadata.path object.path) = some (Metadata.encode
    (collectMetadata oracle next.objects object.path none)).bytes

/-- The key that a derivation makes. -/
structure DerivedKey (host : Host) (oracle : Oracle) (state next : State) (sessionHandle : Nat)
    (attributes : Template) (master data : Bytes) (length : Nat) (object : Object) : Prop where
  /-- No byte beyond the data is read. -/
  read : (derivationCall data length).length ≤ data.length
  /-- The blocks that cover the key are processed and no others. -/
  blocks : (derivationCall data length).input.length = 16 * ((length + 15) / 16)
  /-- The output buffer is not overrun. -/
  written : ((derivationCall data length).output (host.openSsl.aesBlock master)).length ≤
    (derivationCall data length).capacity
  valueLength : object.secretValue.length = length
  value : object.secretValue = (wholeEcb host master data).take length
  fresh : state.objects.get? object.handle = none
  kind : object.objectClass = ckoSecretKey ∧ object.keyType = ckkAes
  label : object.label = templateString attributes ckaLabel
    (ascii "derived-" ++ decimal object.handle)
  id : object.id = templateString attributes ckaId (decimal object.handle)
  policy : object.policy = applyPolicyTemplate ∅ attributes
  tokenKey : isTokenTemplate attributes false = true → object.ownerSession = 0 ∧
    DerivedKeyStored oracle state next sessionHandle object
  sessionKey : isTokenTemplate attributes false = false → sessionHandle ≠ 0 ∧
    object.ownerSession = sessionHandle ∧ object.path = [] ∧ next.disk = state.disk

/-- A call of `DeriveKey` on a state between two calls that succeeded, with what it read and
the object it made. -/
structure DerivesKey (host : Host) (state : State) (oracle : Oracle) (sessionHandle : Nat)
    (mechanism : Option Mechanism) (baseKey : Nat) (attributes : Template) (hasHandle : Bool)
    (master data : Bytes) (length : Nat) (object : Object) : Prop where
  reachable : Reachable host state
  reads : DerivationReads host state sessionHandle mechanism baseKey attributes master data length
  returned : (step host state
    (.deriveKey sessionHandle mechanism baseKey attributes hasHandle, oracle)).2 =
      .success (.handle object.handle)
  made : (step host state
    (.deriveKey sessionHandle mechanism baseKey attributes hasHandle, oracle)).1.objects.get?
      object.handle = some object

section

variable {host : Host} {oracle : Oracle} {state : State} {sessionHandle : Nat}
  {mechanism : Option Mechanism} {baseKey : Nat} {attributes : Template} {hasHandle : Bool}

/-- A secret key that was stored is registered, and a token key is in its files. -/
theorem storeSecretKey_success {object : Object} {token : Bool} {next : State}
    {response : Response} (fresh : state.FreshHandles)
    (handle : object.handle = state.nextObjectHandle)
    (stores : storeSecretKey oracle state.takeHandle object token = (next, response))
    (succeeded : response.rv = .ok) :
    response = .success (.handle object.handle) ∧ next.objects.get? object.handle = some object ∧
      (token = false → next.disk = state.disk) ∧
      (token = true → state.disk.content object.path = none ∧
        (∃ stored, next.disk.content object.path = some stored ∧
          (oracle.writeResult object.path = .complete ∧
              stored = encodeHex object.secretValue ++ [10] ∨
            ∃ kept, oracle.writeResult object.path = .failsAtClose kept ∧
              stored = (encodeHex object.secretValue ++ [10]).take kept)) ∧
        next.disk.content (Metadata.path object.path) = some (Metadata.encode
          (collectMetadata oracle next.objects object.path none)).bytes) := by
  have creation := @storeSecretKey_creation Host.plain oracle state (.ofDirectory 0 [] [] false)
    object token fresh handle
  rw [stores] at creation
  have registered : (registerAll state.objects [object]).get? object.handle = some object :=
    (get?_registerAll (by simp) _ _).mpr (Or.inl ⟨List.mem_singleton_self _, rfl⟩)
  cases creation with
  | refused _ failed => exact (failed succeeded).elim
  | broken _ _ failed _ _ => exact (failed succeeded).elim
  | withdrawn _ _ _ _ _ => contradiction
  | half _ _ _ _ _ _ _ _ _ _ => contradiction
  | kept notToken _ _ _ =>
      refine ⟨rfl, registered, fun _ => rfl, ?_⟩
      intro isToken
      rw [show token = false from notToken] at isToken
      contradiction
  | created isToken _ _ _ opened _ content saved isRecords _ =>
      refine ⟨rfl, registered, ?_, fun _ => ⟨content_of_absent opened.absent, ?_, ?_⟩⟩
      · intro notToken
        rw [show token = true from isToken] at notToken
        contradiction
      · cases content
        refine ⟨_, ?_, saved⟩
        rw [content_writeFile, content_writeFile]
        exact (if_neg (Metadata.path_ne _).symm).trans (if_pos rfl)
      · rw [content_writeFile, isRecords]
        exact if_pos rfl

/-- What a call that derives a key has read, and the key it made. -/
theorem step_deriveKey (reachable : Reachable host state)
    (succeeded : (step host state
      (.deriveKey sessionHandle mechanism baseKey attributes hasHandle, oracle)).2.rv = .ok) :
    ∃ master data length object, DerivesKey host state oracle sessionHandle mechanism baseKey
        attributes hasHandle master data length object ∧
      DerivedKey host oracle state (step host state
        (.deriveKey sessionHandle mechanism baseKey attributes hasHandle, oracle)).1 sessionHandle
        attributes master data length object := by
  have wellFormed := reachable.wellFormed
  have serves : step host state
      (.deriveKey sessionHandle mechanism baseKey attributes hasHandle, oracle) =
        deriveKey host oracle state sessionHandle mechanism baseKey attributes hasHandle := by
    unfold step at succeeded ⊢
    split at succeeded
    · contradiction
    · rename_i entered
      rw [if_neg entered]
      rfl
  rw [serves] at succeeded
  cases derived : derivation host oracle state sessionHandle mechanism baseKey attributes
      hasHandle with
  | error code =>
      simp only [deriveKey, derived] at succeeded
      exact (derivation_ne_ok _ _ _ _ _ _ _ _ (derived.trans (congrArg _ succeeded))).elim
  | ok result =>
      rcases result with ⟨session, slot, value⟩
      rcases derivation_reads derived with ⟨master, data, length, reads, rfl⟩
      have guard := (derivation_eq_ok derived).1
      have token := derivationToken_eq (derivation_validates derived)
      have stores : deriveKey host oracle state sessionHandle mechanism baseKey attributes
          hasHandle = storeSecretKey oracle state.takeHandle
            (derivedObject state sessionHandle session slot attributes
              (derivedValue host master data length)) (derivationToken attributes) := by
        simp only [deriveKey, derived]
      generalize made : derivedObject state sessionHandle session slot attributes
        (derivedValue host master data length) = object at stores
      have handle : object.handle = state.nextObjectHandle := by rw [← made]; rfl
      rcases outcome : storeSecretKey oracle state.takeHandle object
        (derivationToken attributes) with ⟨next, response⟩
      rw [outcome] at stores
      rw [stores] at succeeded
      rcases storeSecretKey_success (freshHandles wellFormed) handle outcome succeeded with
        ⟨returned, registered, volatile, stored⟩
      refine ⟨master, data, length, object, ⟨reachable, reads, ?_, ?_⟩, ?_⟩
      · rw [serves, stores, returned]
      · rw [serves, stores, registered]
      · rw [serves, stores]
        have value : object.secretValue = derivedValue host master data length := by
          rw [← made]
          rfl
        refine ⟨?_, ?_, ?_, ?_, ?_, freshHandles wellFormed _ handle.ge, ?_, ?_, ?_, ?_, ?_,
          ?_⟩
        · rw [derivationCall_length reads.keyLength]
          exact_mod_cast reads.enough
        · rw [derivationCall_input_length reads.keyLength reads.enough, usedLength, Nat.mul_comm]
        · rw [derivationCall_output reads.keyLength, ecbEncrypt_length]
          change 16 * ((length + 15) / 16) ≤ usedLength length + 16
          unfold usedLength
          omega
        · rw [value, derivedValue_length _ _ _ reads.keyLength]
        · rw [value, derivedValue_eq host master reads.keyLength reads.enough]
        · rw [← made]
          exact ⟨rfl, rfl⟩
        · rw [handle, ← made]
          rfl
        · rw [handle, ← made]
          rfl
        · rw [← made]
          rfl
        · intro isToken
          rw [← token] at isToken
          rcases stored isToken with ⟨isNew, keyFile, metadata⟩
          refine ⟨?_, ⟨slot, guard.sessionSlot, ?_⟩, isNew, keyFile, metadata⟩
          · rw [← made]
            simp [derivedObject, isToken]
          · rw [← made]
            simp [derivedObject, secretObject, isToken]
        · intro notToken
          rw [← token] at notToken
          refine ⟨wellFormed.sessionHandle_ne_zero guard.sessionFound, ?_, ?_, volatile notToken⟩
          · rw [← made]
            simp [derivedObject, notToken]
          · rw [← made]
            simp [derivedObject, secretObject, notToken]

/-- The key of a successful derivation is the derived value. -/
theorem DerivesKey.value {master data : Bytes} {length : Nat} {object : Object}
    (derives : DerivesKey host state oracle sessionHandle mechanism baseKey attributes hasHandle
      master data length object) :
    object.secretValue = derivedValue host master data length := by
  have succeeded : (step host state
      (.deriveKey sessionHandle mechanism baseKey attributes hasHandle, oracle)).2.rv = .ok := by
    rw [derives.returned]
    rfl
  rcases step_deriveKey derives.reachable succeeded with
    ⟨otherMaster, otherData, otherLength, other, again, key⟩
  have sameObject : other = object := by
    have returned := again.returned
    rw [derives.returned] at returned
    have sameHandle : object.handle = other.handle := by
      simpa [Response.success] using returned
    have made := again.made
    rw [← sameHandle, derives.made] at made
    exact (Option.some.inj made).symm
  have sameMaster : otherMaster = master := by
    rcases again.reads.masterFound with ⟨stored, found, rfl⟩
    rcases derives.reads.masterFound with ⟨other, otherFound, rfl⟩
    rw [found] at otherFound
    cases otherFound
    rfl
  have sameData : otherData = data := by
    have same := again.reads.isMechanism.symm.trans derives.reads.isMechanism
    simpa using same
  have sameLength : otherLength = length :=
    Option.some.inj (again.reads.asked.symm.trans derives.reads.asked)
  rw [← sameObject, key.value, sameMaster, sameData, sameLength,
    derivedValue_eq host master derives.reads.keyLength derives.reads.enough]

/-- A value that some successful call derives from a master key and data. -/
def DerivableKey (host : Host) (master data : Bytes) (length : Nat) (value : Bytes) : Prop :=
  ∃ state oracle sessionHandle mechanism baseKey attributes hasHandle object,
    DerivesKey host state oracle sessionHandle mechanism baseKey attributes hasHandle master data
      length object ∧ object.secretValue = value

theorem DerivableKey.eq {master data value : Bytes} {length : Nat}
    (derivable : DerivableKey host master data length value) :
    value = derivedValue host master data length ∧ isAesKeyLength master.length = true ∧
      isAesKeyLength length = true ∧ usedLength length ≤ data.length := by
  rcases derivable with ⟨_, _, _, _, _, _, _, object, derives, rfl⟩
  exact ⟨derives.value, derives.reads.masterLength, derives.reads.keyLength,
    derives.reads.enough⟩

end

/-- A derivation that succeeds makes the key its template asks for, of the leading bytes of
the encryption of the whole data.  Under one master key a shorter key is a prefix of a
longer one, data beyond the blocks that are used does not matter, and a block that is kept
whole does. -/
theorem derivation_exact (host : Host) (permutes : AesPermutes host.openSsl) :
    (∀ state oracle sessionHandle mechanism baseKey attributes hasHandle, Reachable host state →
      (step host state
        (.deriveKey sessionHandle mechanism baseKey attributes hasHandle, oracle)).2.rv = .ok →
      ∃ master data length object, DerivesKey host state oracle sessionHandle mechanism baseKey
          attributes hasHandle master data length object ∧
        DerivedKey host oracle state (step host state
          (.deriveKey sessionHandle mechanism baseKey attributes hasHandle, oracle)).1
          sessionHandle attributes master data length object) ∧
    ∀ master data otherData length otherLength value other,
      DerivableKey host master data length value →
      DerivableKey host master otherData otherLength other →
      (data = otherData → length ≤ otherLength → value <+: other) ∧
      (length = otherLength →
        data.take (usedLength length) = otherData.take (usedLength length) →
        value = other) ∧
      ∀ index, length = otherLength → 16 * (index + 1) ≤ length →
        Blocks.block 16 index data ≠ Blocks.block 16 index otherData → value ≠ other := by
  constructor
  · intro state oracle sessionHandle mechanism baseKey attributes hasHandle reachable succeeded
    exact step_deriveKey reachable succeeded
  · intro master data otherData length otherLength value other derivable otherDerivable
    rcases derivable.eq with ⟨rfl, masterLength, isLength, enough⟩
    rcases otherDerivable.eq with ⟨rfl, _, isOther, otherEnough⟩
    refine ⟨?_, ?_, ?_⟩
    · rintro rfl shorter
      exact derivedValue_prefix host master isLength isOther shorter otherEnough
    · rintro rfl same
      exact derivedValue_congr host master isLength same
    · rintro index rfl whole different
      exact derivedValue_ne host master isLength permutes masterLength enough otherEnough whole
        different

/-- The plain environment with a block permutation that leaves every block as it is. -/
def Host.echo : Host :=
  { Host.plain with openSsl := { OpenSsl.plain with
      aesBlock := fun _ block => Vector.ofFn fun index => block.getD index 0 } }

theorem aesBlock_echo (key : Bytes) {block : Bytes} (length : block.length = 16) :
    (Host.echo.openSsl.aesBlock key block).toList = block := by
  apply List.ext_getElem (Vector.length_toList.trans length.symm)
  intro index inside otherInside
  simp [Host.echo, otherInside]

theorem aesPermutes_echo : AesPermutes Host.echo.openSsl := by
  intro key first second _ firstLength secondLength same
  rw [← aesBlock_echo key firstLength, same, aesBlock_echo key secondLength]

theorem ecbEncrypt_echo (key : Bytes) {count : Nat} {data : Bytes}
    (blocks : data.length = 16 * count) :
    ecbEncrypt (Host.echo.openSsl.aesBlock key) count data = data := by
  induction count generalizing data with
  | zero => exact (List.length_eq_zero_iff.mp blocks).symm
  | succ count ih =>
      have first : (data.take 16).length = 16 := by rw [List.length_take]; omega
      have rest : (data.drop 16).length = 16 * count := by rw [List.length_drop]; omega
      rw [ecbEncrypt, aesBlock_echo key first, ih rest, List.take_append_drop]

/-- The state after a master key was generated. -/
def masterState : State :=
  Runs.final (step .echo) (.loaded ⟨∅, ∅⟩)
    (plainRun [.cInitialize false, .openSession 1 6 true, aesKey 1])

/-- Two blocks. -/
def twoBlocks : Bytes := (List.range 32).map UInt8.ofNat

/-- The template of a derived token key of 24 bytes. -/
def derivedTemplate : Template :=
  .entries [⟨ckaKeyType, .bytes (ulongBytes ckkAes)⟩, ⟨ckaValueLen, .bytes (ulongBytes 24)⟩,
    ⟨ckaToken, .bytes [1]⟩]

/-- A derivation of 24 bytes from two blocks. -/
def halfBlockDerivation : Call :=
  .deriveKey 1 (some ⟨ckmAesEcbEncryptData, .stringData (.bytes twoBlocks)⟩) 1 derivedTemplate true

theorem derivation_exact_halfBlock :
    ∃ object, (step .echo masterState (halfBlockDerivation, .plain)).1.objects.get? 2 =
        some object ∧ object.secretValue = twoBlocks.take 24 := by
  have reachable : Reachable .echo masterState := ⟨⟨∅, ∅⟩, _, rfl⟩
  have expected : (step .echo masterState (halfBlockDerivation, .plain)).2 =
      .success (.handle 2) := by decide
  have succeeded : (step .echo masterState (halfBlockDerivation, .plain)).2.rv = .ok := by
    rw [expected]
    rfl
  rcases (derivation_exact .echo aesPermutes_echo).1 masterState .plain 1 _ 1 derivedTemplate true
    reachable succeeded with ⟨master, data, length, object, derives, key⟩
  have handle : object.handle = 2 := by
    have returned := derives.returned
    change (step .echo masterState (halfBlockDerivation, .plain)).2 = _ at returned
    rw [expected] at returned
    simpa [Response.success, eq_comm] using returned
  have isData : data = twoBlocks := by
    have same := derives.reads.isMechanism
    simpa [eq_comm] using same
  have isLength : length = 24 := by
    have expected : templateUnsigned derivedTemplate ckaValueLen = some 24 := by decide
    exact Option.some.inj (derives.reads.asked.symm.trans expected)
  refine ⟨object, handle ▸ derives.made, ?_⟩
  rw [key.value, isData, isLength, wholeEcb, ecbEncrypt_echo master (by decide)]

end HsmSimulator
