import HsmSimulator.Crypto.Creation
import HsmSimulator.Pkcs11.EntryPoints
import HsmSimulator.Pkcs11.WellFormed

/-!
# The creating calls

`GenerateKey`, `GenerateKeyPair`, `UnwrapKey` and `DeriveKey` check their arguments
in different orders, but what they establish about the session, the slot and the new
objects is the same: the slot grants access, a token key is created through a
read-write session, and the objects are those the template asks for.
-/

namespace HsmSimulator

open Checks

/-- The session a call is made on. -/
def Call.session? : Call → Option Nat
  | .closeSession sessionHandle => some sessionHandle
  | .getSessionInfo sessionHandle _ => some sessionHandle
  | .initPin sessionHandle _ => some sessionHandle
  | .setPin sessionHandle _ _ => some sessionHandle
  | .login sessionHandle _ _ => some sessionHandle
  | .logout sessionHandle => some sessionHandle
  | .destroyObject sessionHandle _ => some sessionHandle
  | .getAttributeValue sessionHandle _ _ => some sessionHandle
  | .setAttributeValue sessionHandle _ _ => some sessionHandle
  | .findObjectsInit sessionHandle _ => some sessionHandle
  | .findObjects sessionHandle _ _ _ => some sessionHandle
  | .findObjectsFinal sessionHandle => some sessionHandle
  | .signInit sessionHandle _ _ => some sessionHandle
  | .sign sessionHandle _ _ _ => some sessionHandle
  | .signUpdate sessionHandle _ => some sessionHandle
  | .signFinal sessionHandle _ _ => some sessionHandle
  | .verifyInit sessionHandle _ _ => some sessionHandle
  | .verify sessionHandle _ _ => some sessionHandle
  | .verifyUpdate sessionHandle _ => some sessionHandle
  | .verifyFinal sessionHandle _ => some sessionHandle
  | .generateKey sessionHandle _ _ _ => some sessionHandle
  | .generateKeyPair sessionHandle _ _ _ _ => some sessionHandle
  | .wrapKey sessionHandle _ _ _ _ _ => some sessionHandle
  | .unwrapKey sessionHandle _ _ _ _ _ => some sessionHandle
  | .deriveKey sessionHandle _ _ _ _ => some sessionHandle
  | .generateRandom sessionHandle _ => some sessionHandle
  | _ => none

/-- The calls that create keys. -/
def Call.creates : Call → Bool
  | .generateKey .. => true
  | .generateKeyPair .. => true
  | .unwrapKey .. => true
  | .deriveKey .. => true
  | _ => false

/-- The template a creating call is given for an object of a class. -/
def Call.templateFor (call : Call) (objectClass : Nat) : Template :=
  match call with
  | .generateKey _ _ attributes _ => attributes
  | .generateKeyPair _ _ publicTemplate privateTemplate _ =>
      if objectClass = ckoPublicKey then publicTemplate else privateTemplate
  | .unwrapKey _ _ _ _ attributes _ => attributes
  | .deriveKey _ _ _ attributes _ => attributes
  | _ => .entries []

/-- The template a creating call takes the policies of an object of a class from; the
public half of an unwrapped key has none. -/
def Call.policyTemplate (call : Call) (objectClass : Nat) : Template :=
  match call with
  | .generateKey _ _ attributes _ => attributes
  | .generateKeyPair _ _ publicTemplate privateTemplate _ =>
      if objectClass = ckoPublicKey then publicTemplate else privateTemplate
  | .unwrapKey _ _ _ _ attributes _ =>
      if objectClass = ckoPublicKey then .entries [] else attributes
  | .deriveKey _ _ _ attributes _ => attributes
  | _ => .entries []

/-- The handles a creating call returns. -/
def Output.handles : Output → List Nat
  | .handle created => [created]
  | .keyPair publicHandle privateHandle => [publicHandle, privateHandle]
  | _ => []

/-- What a key file determines of its objects: all but handle, label, id and policies. -/
def Object.core (object : Object) : Object :=
  { object with handle := 0, label := [], id := [], policy := ∅ }

section

variable {object other : Object}

theorem slotId_eq_of_core (same : object.core = other.core) : object.slotId = other.slotId := by
  have fields := congrArg Object.slotId same
  exact fields

theorem ownerSession_eq_of_core (same : object.core = other.core) :
    object.ownerSession = other.ownerSession := by
  have fields := congrArg Object.ownerSession same
  exact fields

theorem path_eq_of_core (same : object.core = other.core) : object.path = other.path := by
  have fields := congrArg Object.path same
  exact fields

theorem objectClass_eq_of_core (same : object.core = other.core) :
    object.objectClass = other.objectClass := by
  have fields := congrArg Object.objectClass same
  exact fields

end

/-- The secret object a call gets to store, and whether it goes to the token. -/
def Call.secretRequest (host : Host) (oracle : Oracle) (state : State) :
    Call → Option (Object × Bool)
  | .generateKey sessionHandle mechanism attributes hasHandle => do
      let keyLength ←
        (generatedKeyLength state sessionHandle mechanism attributes hasHandle).toOption
      let object ← (generatedKey oracle state sessionHandle attributes keyLength).toOption
      return (object, object.ownerSession = 0)
  | .unwrapKey sessionHandle mechanism wrappingHandle input attributes hasHandle => do
      let raw ← (unwrappedBytes host oracle state sessionHandle mechanism wrappingHandle input
        attributes hasHandle).toOption
      if (templateUnsigned attributes ckaClass).getD ckoSecretKey = ckoSecretKey ∧
          isAesKeyLength raw.length = true then
        let object ← (unwrappedSecret state sessionHandle attributes
          (templateString attributes ckaLabel (ascii "unwrapped-key")) raw).toOption
        return (object, object.ownerSession = 0)
      else none
  | .deriveKey sessionHandle mechanism baseKey attributes hasHandle => do
      let (session, slot, value) ← (derivation host oracle state sessionHandle mechanism baseKey
        attributes hasHandle).toOption
      return (derivedObject state sessionHandle session slot attributes value,
        derivationToken attributes)
  | _ => none

/-- The pair a call gets to store, and what it returns for it. -/
def Call.pairRequest (host : Host) (oracle : Oracle) (state : State) :
    Call → Option (PairRequest × Output)
  | .generateKeyPair sessionHandle mechanism publicTemplate privateTemplate hasHandles => do
      let request ← (generatedPair oracle state sessionHandle mechanism publicTemplate
        privateTemplate hasHandles).toOption
      return (request, .keyPair (state.nextObjectHandle + 1) state.nextObjectHandle)
  | .unwrapKey sessionHandle mechanism wrappingHandle input attributes hasHandle => do
      let raw ← (unwrappedBytes host oracle state sessionHandle mechanism wrappingHandle input
        attributes hasHandle).toOption
      if (templateUnsigned attributes ckaClass).getD ckoSecretKey = ckoPrivateKey then
        let request ← (unwrappedPair host state sessionHandle attributes
          (templateString attributes ckaLabel (ascii "unwrapped-key")) raw).toOption
        return (request, .handle state.nextObjectHandle)
      else none
  | _ => none

/-- The key a call gets to create. -/
def Call.newKey (host : Host) (oracle : Oracle) (state : State) (call : Call) : Option NewKey :=
  match call.secretRequest host oracle state with
  | some (object, token) =>
      (call.session?.bind state.sessionSlot).map fun slot => secretKey slot object token
  | none =>
      (call.pairRequest host oracle state).map fun request =>
        request.1.newKey host oracle state.nextObjectHandle request.2

/-- What a creating call has established before it creates anything. -/
structure CreationGuard (state : State) (sessionHandle : Nat) (session : Session) (slot : Slot)
    (token : Bool) : Prop where
  sessionFound : state.findSession sessionHandle = some session
  slotFound : state.findSlot session.slotId = some slot
  access : slot.grantsAccess = true
  writable : token = true → session.isReadWrite = true

/-- The content of the key file is the encoding of the objects. -/
inductive NewKey.Encodes (host : Host) (oracle : Oracle) (new : NewKey) : Prop
  | secret (object : Object) : new.key = none → new.objects = [object] →
      object.core = (secretObject new.slot.id [] [] new.path object.secretValue).core →
      object.secretValue ≠ [] → new.content = some (encodeHex object.secretValue ++ [10]) →
      Encodes host oracle new
  | pair (key : EvpKey) (label : Bytes) : new.key = some key →
      new.content = pairContent oracle new.slot label key →
      (new.objects ≠ [] → ∃ publicKey, publicKeyOnly oracle key = some publicKey ∧
        new.objects.map Object.core =
          [(pairPrivateObject host new.slot.id [] [] new.path key).core,
            (pairPublicObject host new.slot.id [] [] new.path key publicKey).core]) →
      Encodes host oracle new

/-- The new key is what the call asks for. -/
structure NewKey.MadeBy (host : Host) (oracle : Oracle) (call : Call) (sessionHandle : Nat)
    (session : Session) (slot : Slot) (new : NewKey) : Prop where
  sameSlot : new.slot = slot
  slotIds : ∀ object ∈ new.objects, object.slotId = session.slotId
  keyPath : (new.token = true ∨ new.key ≠ none) → IsKeyPath slot.directory new.path
  distinct : (new.objects.map Object.handle).Nodup
  classes : ∀ object ∈ new.objects, 1 ≤ object.objectClass ∧ object.objectClass ≤ 4
  distinctClasses : (new.objects.map Object.objectClass).Nodup
  tokenObjects : new.token = true → ∀ object ∈ new.objects,
    object.ownerSession = 0 ∧ object.path = new.path
  sessionObjects : new.token = false → ∀ object ∈ new.objects,
    object.ownerSession = sessionHandle ∧ object.path = []
  policies : ∀ object ∈ new.objects,
    object.policy = applyPolicyTemplate ∅ (call.policyTemplate object.objectClass)
  outputs : new.objects ≠ [] → ∀ handle ∈ new.output.handles,
    ∃ object ∈ new.objects, object.handle = handle
  encodes : new.token = true → new.Encodes host oracle

/-- How a creating call ends: it is rejected, with at most a handle taken, or it
performs a creation. -/
inductive CreationCall (host : Host) (oracle : Oracle) (state : State) (call : Call)
    (sessionHandle : Nat) : State × Response → Prop
  | rejected {next : Nat} {code : Rv} : state.nextObjectHandle ≤ next → code ≠ .ok →
      CreationCall host oracle state call sessionHandle
        ({ state with nextObjectHandle := next }, .plain code)
  | performed {session : Session} {slot : Slot} {new : NewKey} {result : State × Response} :
      call.newKey host oracle state = some new →
      CreationGuard state sessionHandle session slot new.token →
      new.MadeBy host oracle call sessionHandle session slot →
      Creation host oracle state new result →
      CreationCall host oracle state call sessionHandle result

/-! ## Names of key files -/

theorem safeFilename_ne_nil (label : Bytes) : safeFilename label ≠ [] := by
  unfold safeFilename
  split
  · decide
  · simpa using ‹label ≠ []›

theorem extension_symmetricKeyPath (slot : Slot) (label : Bytes) :
    Path.extension (symmetricKeyPath slot label).filename = ascii ".key" := by
  have extension : Path.extension (safeFilename label ++ 46 :: ascii "key") = 46 :: ascii "key" :=
    Path.extension_append (safeFilename_ne_nil label) (by simp [ascii])
  rw [symmetricKeyPath, Path.filename_child]
  exact extension

theorem extension_asymmetricKeyPath (slot : Slot) (label : Bytes) :
    Path.extension (asymmetricKeyPath slot label).filename = ascii ".p12" := by
  have extension : Path.extension (safeFilename label ++ 46 :: ascii "p12") = 46 :: ascii "p12" :=
    Path.extension_append (safeFilename_ne_nil label) (by simp [ascii])
  rw [asymmetricKeyPath, Path.filename_child]
  exact extension

theorem isKeyPath_symmetric (slot : Slot) (label : Bytes) :
    IsKeyPath slot.directory (symmetricKeyPath slot label) := by
  refine ⟨symmetricDirectory, safeFilename label ++ ascii ".key", Or.inr rfl, ?_, rfl⟩
  have extension := extension_symmetricKeyPath slot label
  rw [symmetricKeyPath, Path.filename_child] at extension
  rw [extension]
  simp [keyExtensions]

theorem isKeyPath_asymmetric (slot : Slot) (label : Bytes) :
    IsKeyPath slot.directory (asymmetricKeyPath slot label) := by
  refine ⟨asymmetricDirectory, safeFilename label ++ ascii ".p12", Or.inl rfl, ?_, rfl⟩
  have extension := extension_asymmetricKeyPath slot label
  rw [asymmetricKeyPath, Path.filename_child] at extension
  rw [extension]
  simp [keyExtensions]

/-! ## Failing checks do not return `CKR_OK` -/

theorem validateCreationAttribute_ne_ok (entry : Attribute) :
    validateCreationAttribute entry ≠ .error .ok := by
  simp only [validateCreationAttribute, ne_eq, bind_eq_error_iff]
  split <;> [skip; split <;> [skip; split <;> [skip; split <;> [skip; split]]]] <;> simp

theorem validateDerivationAttribute_ne_ok (entry : Attribute) :
    validateDerivationAttribute entry ≠ .error .ok := by
  simp only [validateDerivationAttribute, ne_eq, bind_eq_error_iff]
  split <;> [skip; split <;> [skip; split <;> [skip; split]]] <;> simp

theorem validateEntries_ne_ok {validate : Attribute → Except Rv Unit}
    (validates : ∀ entry, validate entry ≠ .error .ok) (seen : List Nat)
    (entries : List Attribute) : validateEntries validate seen entries ≠ .error .ok := by
  induction entries generalizing seen with
  | nil => simp [validateEntries]
  | cons entry rest ih =>
      have here := validates entry
      have later := ih (entry.type :: seen)
      simp [validateEntries, bind_eq_error_iff, here, later]

theorem validateCreationTemplate_ne_ok (attributes : Template) :
    validateCreationTemplate attributes ≠ .error .ok := by
  have entries := validateEntries_ne_ok validateCreationAttribute_ne_ok [] attributes.toList
  simp [validateCreationTemplate, bind_eq_error_iff, entries]

theorem requireUserLogin_ne_ok (state : State) (sessionHandle : Nat) :
    state.requireUserLogin sessionHandle ≠ .error .ok := by
  simp [State.requireUserLogin, bind_eq_error_iff, Exception.code]

theorem applyCreationTemplate_ne_ok (state : State) (object : Object) (sessionHandle : Nat)
    (attributes : Template) (fallback : Bool) :
    applyCreationTemplate state object sessionHandle attributes fallback ≠ .error .ok := by
  have validation := validateCreationTemplate_ne_ok attributes
  have access := requireUserLogin_ne_ok state sessionHandle
  simp [applyCreationTemplate, bind_eq_error_iff, validation, access, Exception.code]

/-! ## The template of a new object -/

/-- The owner an object gets. -/
def ownerOf (token : Bool) (sessionHandle : Nat) : Nat := if token then 0 else sessionHandle

theorem ownerOf_eq_zero_iff {token : Bool} {sessionHandle : Nat} (valid : sessionHandle ≠ 0) :
    ownerOf token sessionHandle = 0 ↔ token = true := by
  cases token <;> simp [ownerOf, valid]

theorem decide_ownerOf {sessionHandle : Nat} (valid : sessionHandle ≠ 0) (token : Bool) :
    decide (ownerOf token sessionHandle = 0) = token := by
  rw [Bool.eq_iff_iff, decide_eq_true_eq, ownerOf_eq_zero_iff valid]

theorem applyCreationTemplate_eq_ok {state : State} {object result : Object}
    {sessionHandle : Nat} {attributes : Template} {fallback : Bool}
    (passes : applyCreationTemplate state object sessionHandle attributes fallback = .ok result) :
    ∃ session slot, CreationGuard state sessionHandle session slot
        (isTokenTemplate attributes fallback) ∧
      result = { object with
        slotId := session.slotId
        ownerSession := ownerOf (isTokenTemplate attributes fallback) sessionHandle
        policy := applyPolicyTemplate object.policy attributes
        path := if ownerOf (isTokenTemplate attributes fallback) sessionHandle ≠ 0 then []
          else object.path } := by
  simp only [applyCreationTemplate, bind_eq_ok_iff, fetch_eq_ok_iff, require_eq_ok_iff,
    pure_eq_ok, Except.ok.injEq] at passes
  rcases passes with ⟨_, _, _, _, session, sessionFound, _, writable, _, access, rfl⟩
  rcases State.requireUserLogin_eq_ok_iff.mp access with ⟨slot, slotOfSession, grants⟩
  rcases State.sessionSlot_eq_some_iff.mp slotOfSession with ⟨stored, storedFound, slotFound⟩
  rw [sessionFound] at storedFound
  cases storedFound
  refine ⟨session, slot, ⟨sessionFound, slotFound, grants, ?_⟩, rfl⟩
  intro token
  rcases writable with notToken | readWrite
  · rw [notToken] at token
    contradiction
  · exact readWrite

theorem CreationGuard.sessionSlot {state : State} {sessionHandle : Nat} {session : Session}
    {slot : Slot} {token : Bool} (guard : CreationGuard state sessionHandle session slot token) :
    state.sessionSlot sessionHandle = some slot :=
  State.sessionSlot_eq_some_iff.mpr ⟨session, guard.sessionFound, guard.slotFound⟩

theorem CreationGuard.slot_eq {state : State} {sessionHandle : Nat} {session : Session}
    {slot other : Slot} {token : Bool}
    (guard : CreationGuard state sessionHandle session slot token)
    (slotOfSession : state.sessionSlot sessionHandle = some other) : slot = other := by
  rw [guard.sessionSlot] at slotOfSession
  cases slotOfSession
  rfl

/-! ## Secret keys -/

/-- A secret object that was given its slot, owner and policies is the key its call makes,
provided the path of a token object is a key file of the slot. -/
theorem secretKey_madeBy (host : Host) (oracle : Oracle) (call : Call) (sessionHandle : Nat)
    {session : Session} {slot : Slot} {token : Bool} (handle : Nat) (label id : Bytes)
    {value : Bytes} {path : Path} {policy : OrderedMap Nat Bool}
    (sameSlot : slot.id = session.slotId)
    (keyPath : token = true → IsKeyPath slot.directory path) (noPath : token = false → path = [])
    (nonempty : value ≠ [])
    (fromTemplate : policy = applyPolicyTemplate ∅ (call.policyTemplate ckoSecretKey)) :
    (secretKey slot { secretObject session.slotId label id path value with
        handle := handle
        ownerSession := ownerOf token sessionHandle
        policy := policy } token).MadeBy host oracle call sessionHandle session slot where
  sameSlot := rfl
  slotIds := by simp [secretKey, secretObject]
  keyPath := by
    rintro (isToken | isPair)
    · exact keyPath isToken
    · simp [secretKey] at isPair
  distinct := by simp [secretKey]
  classes := by simp [secretKey, secretObject]
  distinctClasses := by simp [secretKey]
  tokenObjects := by
    intro isToken object member
    change token = true at isToken
    simp only [secretKey, List.mem_singleton] at member
    subst member isToken
    simp [secretKey, ownerOf]
  sessionObjects := by
    intro notToken object member
    change token = false at notToken
    simp only [secretKey, List.mem_singleton] at member
    subst member notToken
    simp [ownerOf, secretObject, noPath rfl]
  policies := by simpa [secretKey, secretObject] using fromTemplate
  outputs := by simp [secretKey, Output.handles]
  encodes := by
    intro isToken
    change token = true at isToken
    subst isToken
    refine .secret _ rfl rfl ?_ nonempty rfl
    simp [secretKey, secretObject, Object.core, sameSlot, ownerOf, Object.initial]

theorem isAesKeyLength_ne_nil {value : Bytes} (length : isAesKeyLength value.length = true) :
    value ≠ [] := by
  rintro rfl
  simp [isAesKeyLength] at length

theorem generatedKeyLength_ne_ok (state : State) (sessionHandle : Nat)
    (mechanism : Option Mechanism) (attributes : Template) (hasHandle : Bool) :
    generatedKeyLength state sessionHandle mechanism attributes hasHandle ≠ .error .ok := by
  have validation := validateCreationTemplate_ne_ok attributes
  simp [generatedKeyLength, bind_eq_error_iff, validation]

theorem generatedKeyLength_eq_ok {state : State} {sessionHandle : Nat}
    {mechanism : Option Mechanism} {attributes : Template} {hasHandle : Bool} {keyLength : Nat}
    (passes : generatedKeyLength state sessionHandle mechanism attributes hasHandle =
      .ok keyLength) : isAesKeyLength keyLength = true := by
  simp only [generatedKeyLength, bind_eq_ok_iff, fetch_eq_ok_iff, require_eq_ok_iff, pure_eq_ok,
    Except.ok.injEq] at passes
  rcases passes with ⟨_, _, _, _, _, _, _, _, _, _, _, isLength, rfl⟩
  exact isLength

theorem generatedKey_ne_ok (oracle : Oracle) (state : State) (sessionHandle : Nat)
    (attributes : Template) (keyLength : Nat) :
    generatedKey oracle state sessionHandle attributes keyLength ≠ .error .ok := by
  simp [generatedKey, bind_eq_error_iff, applyCreationTemplate_ne_ok, Exception.code]

/-- Random bytes of an AES key have the length asked for. -/
theorem randomFill_length {oracle : Oracle} {length : Nat} {bytes : Bytes}
    (isLength : isAesKeyLength length = true) (filled : randomFill oracle length = some bytes) :
    bytes.length = length := by
  have exact' : (toInt length).toNat = length := by
    simp only [isAesKeyLength, Bool.or_eq_true, decide_eq_true_eq] at isLength
    rcases isLength with (rfl | rfl) | rfl <;> decide
  simp only [randomFill, Option.map_eq_some_iff] at filled
  rcases filled with ⟨source, _, rfl⟩
  rw [List.length_map, List.length_range, exact']

theorem generatedKey_eq_ok {oracle : Oracle} {state : State} {sessionHandle : Nat}
    {attributes : Template} {keyLength : Nat} {object : Object}
    (isLength : isAesKeyLength keyLength = true)
    (passes : generatedKey oracle state sessionHandle attributes keyLength = .ok object) :
    ∃ session slot label id path value, CreationGuard state sessionHandle session slot
        (isTokenTemplate attributes true) ∧
      value ≠ [] ∧
      path = (if ownerOf (isTokenTemplate attributes true) sessionHandle ≠ 0 then []
        else symmetricKeyPath slot label) ∧
      object = { secretObject session.slotId label id path value with
        handle := state.nextObjectHandle
        ownerSession := ownerOf (isTokenTemplate attributes true) sessionHandle
        policy := applyPolicyTemplate ∅ attributes } := by
  simp only [generatedKey, bind_eq_ok_iff, fetch_eq_ok_iff, pure_eq_ok, Except.ok.injEq] at passes
  rcases passes with ⟨slot, slotOfSession, result, applies, value, filled, rfl⟩
  rcases applyCreationTemplate_eq_ok applies with ⟨session, stored, guard, rfl⟩
  have sameSlot : stored = slot := guard.slot_eq slotOfSession
  subst sameSlot
  refine ⟨session, stored, _, _, _, value, guard, ?_, rfl, rfl⟩
  apply isAesKeyLength_ne_nil
  rw [randomFill_length isLength filled]
  exact isLength

theorem freshHandles {state : State} (wellFormed : WellFormed state) : state.FreshHandles :=
  fun _ fresh => wellFormed.freshObject fresh

theorem CreationGuard.valid {state : State} {sessionHandle : Nat} {session : Session}
    {slot : Slot} {token : Bool} (guard : CreationGuard state sessionHandle session slot token)
    (wellFormed : WellFormed state) : sessionHandle ≠ 0 ∧ slot.id = session.slotId :=
  ⟨wellFormed.sessionHandle_ne_zero guard.sessionFound, wellFormed.slotKey _ _ guard.slotFound⟩

/-- Storing a secret object that a guarded call made from its template. -/
theorem storeSecretKey_creationCall (host : Host) (oracle : Oracle) {state : State} (call : Call)
    {sessionHandle : Nat} {session : Session} {slot : Slot} {token : Bool} {label : Bytes}
    (id : Bytes) {value : Bytes} {path : Path} {policy : OrderedMap Nat Bool}
    (wellFormed : WellFormed state)
    (guard : CreationGuard state sessionHandle session slot token) (nonempty : value ≠ [])
    (samePath : path = if ownerOf token sessionHandle ≠ 0 then []
      else symmetricKeyPath slot label)
    (fromTemplate : policy = applyPolicyTemplate ∅ (call.policyTemplate ckoSecretKey))
    (onSession : call.session? = some sessionHandle)
    (request : call.secretRequest host oracle state =
      some ({ secretObject session.slotId label id path value with
          handle := state.nextObjectHandle
          ownerSession := ownerOf token sessionHandle
          policy := policy }, token)) :
    CreationCall host oracle state call sessionHandle
      (storeSecretKey oracle state.takeHandle
        { secretObject session.slotId label id path value with
          handle := state.nextObjectHandle
          ownerSession := ownerOf token sessionHandle
          policy := policy } token) := by
  rcases guard.valid wellFormed with ⟨valid, sameSlot⟩
  have keyPath (isToken : token = true) : IsKeyPath slot.directory path := by
    rw [samePath, if_neg (not_not.mpr ((ownerOf_eq_zero_iff valid).mpr isToken))]
    exact isKeyPath_symmetric slot label
  have noPath (notToken : token = false) : path = [] := by
    rw [samePath, if_pos]
    intro owner
    rw [ownerOf_eq_zero_iff valid, notToken] at owner
    contradiction
  have made := secretKey_madeBy host oracle call sessionHandle state.nextObjectHandle label id
    sameSlot keyPath noPath nonempty fromTemplate
  refine .performed ?_ guard made (storeSecretKey_creation (freshHandles wellFormed) rfl)
  simp [Call.newKey, request, onSession, guard.sessionSlot]

theorem generateKey_creationCall {host : Host} {oracle : Oracle} {state : State}
    (wellFormed : WellFormed state) (sessionHandle : Nat) (mechanism : Option Mechanism)
    (attributes : Template) (hasHandle : Bool) :
    CreationCall host oracle state (.generateKey sessionHandle mechanism attributes hasHandle)
      sessionHandle (generateKey oracle state sessionHandle mechanism attributes hasHandle) := by
  unfold generateKey
  cases length : generatedKeyLength state sessionHandle mechanism attributes hasHandle with
  | error code =>
      apply CreationCall.rejected (Nat.le_refl _)
      rintro rfl
      exact generatedKeyLength_ne_ok _ _ _ _ _ length
  | ok keyLength =>
      dsimp only
      cases made : generatedKey oracle state sessionHandle attributes keyLength with
      | error code =>
          apply CreationCall.rejected (Nat.le_succ state.nextObjectHandle)
          rintro rfl
          exact generatedKey_ne_ok _ _ _ _ _ made
      | ok object =>
          rcases generatedKey_eq_ok (generatedKeyLength_eq_ok length) made with
            ⟨session, slot, label, id, path, value, guard, nonempty, samePath, rfl⟩
          have token := decide_ownerOf (guard.valid wellFormed).1 (isTokenTemplate attributes true)
          have stored := storeSecretKey_creationCall host oracle
            (.generateKey sessionHandle mechanism attributes hasHandle) id
            wellFormed guard nonempty samePath rfl rfl
            (by simp [Call.secretRequest, Except.toOption, Call.policyTemplate, length, made,
              token])
          dsimp only
          rw [token]
          exact stored

/-! ## Key pairs -/

theorem PairRequest.objects_cases (host : Host) (oracle : Oracle) (handle : Nat)
    (request : PairRequest) :
    request.objects host oracle handle = [] ∨
      ∃ id publicKey, publicKeyOnly oracle request.key = some publicKey ∧
        request.objects host oracle handle =
          [request.patchPrivate id
            { pairPrivateObject host request.slot.id request.label id request.path request.key with
              handle := handle },
           request.patchPublic id
            { pairPublicObject host request.slot.id request.label id request.path request.key
                publicKey with
              handle := handle + 1 }] := by
  unfold PairRequest.objects
  split
  · rename_i id publicKey digest half
    exact Or.inr ⟨id, publicKey, half, rfl⟩
  · exact Or.inl rfl

/-- What a guarded call puts into its pair request. -/
structure PairRequest.MadeBy (call : Call) (sessionHandle : Nat) (slot : Slot) (token : Bool)
    (request : PairRequest) : Prop where
  sameSlot : request.slot = slot
  path : request.path = asymmetricKeyPath slot request.label
  privateOwner : request.privateOwner = ownerOf token sessionHandle
  publicOwner : request.publicOwner = ownerOf token sessionHandle
  privatePolicy : request.privatePolicy = applyPolicyTemplate ∅ (call.policyTemplate ckoPrivateKey)
  publicPolicy : request.publicPolicy = applyPolicyTemplate ∅ (call.policyTemplate ckoPublicKey)

theorem PairRequest.MadeBy.token_eq {call : Call} {sessionHandle : Nat} {slot : Slot}
    {token : Bool} {request : PairRequest}
    (made : request.MadeBy call sessionHandle slot token) (valid : sessionHandle ≠ 0) :
    request.token = token := by
  rw [PairRequest.token, made.privateOwner, decide_ownerOf valid]

theorem PairRequest.newKey_madeBy (host : Host) (oracle : Oracle) {call : Call}
    {sessionHandle handle : Nat} {session : Session} {slot : Slot} {token : Bool}
    {request : PairRequest} {output : Output}
    (made : request.MadeBy call sessionHandle slot token) (valid : sessionHandle ≠ 0)
    (slotId : slot.id = session.slotId)
    (outputs : ∀ returned ∈ output.handles, returned = handle ∨ returned = handle + 1) :
    (request.newKey host oracle handle output).MadeBy host oracle call sessionHandle session
      slot := by
  have isToken : (request.newKey host oracle handle output).token = token := made.token_eq valid
  have objects : (request.newKey host oracle handle output).objects =
      request.objects host oracle handle := rfl
  have keyPath : IsKeyPath slot.directory request.path := by
    rw [made.path]
    exact isKeyPath_asymmetric slot request.label
  have sameSlot := made.sameSlot
  have privateOwner := made.privateOwner
  have publicOwner := made.publicOwner
  rcases request.objects_cases host oracle handle with none' | ⟨id, publicKey, half, both⟩
  · constructor
    case sameSlot => exact sameSlot
    case keyPath => exact fun _ => keyPath
    case encodes =>
      intro _
      refine .pair request.key request.label rfl ?_ ?_
      · rfl
      · rw [objects, none']
        simp
    all_goals simp [objects, none']
  · constructor
    case sameSlot => exact sameSlot
    case slotIds =>
      rw [objects, both]
      simp [patchPrivate, patchPublic, pairPrivateObject, pairPublicObject, sameSlot, slotId]
    case keyPath => exact fun _ => keyPath
    case distinct =>
      rw [objects, both]
      simp [patchPrivate, patchPublic]
    case classes =>
      rw [objects, both]
      simp [patchPrivate, patchPublic, pairPrivateObject, pairPublicObject, ckoPrivateKey,
        ckoPublicKey]
    case distinctClasses =>
      rw [objects, both]
      simp [patchPrivate, patchPublic, pairPrivateObject, pairPublicObject]
    case tokenObjects =>
      rw [isToken, objects, both]
      rintro rfl
      simp [patchPrivate, patchPublic, privateOwner, publicOwner, ownerOf, objectPath, newKey,
        pairPrivateObject, pairPublicObject]
    case sessionObjects =>
      rw [isToken, objects, both]
      rintro rfl
      simp [patchPrivate, patchPublic, privateOwner, publicOwner, ownerOf, objectPath, valid]
    case policies =>
      rw [objects, both]
      simp [patchPrivate, patchPublic, pairPrivateObject, pairPublicObject, made.privatePolicy,
        made.publicPolicy]
    case outputs =>
      intro _ returned member
      rw [objects, both]
      rcases outputs returned member with rfl | rfl
      · simp [patchPrivate]
      · simp [patchPublic]
    case encodes =>
      intro token'
      rw [isToken] at token'
      subst token'
      refine .pair request.key request.label rfl ?_ ?_
      · rfl
      · intro _
        refine ⟨publicKey, half, ?_⟩
        rw [objects, both]
        simp [patchPrivate, patchPublic, privateOwner, publicOwner, ownerOf, objectPath, newKey,
          pairPrivateObject, pairPublicObject, Object.core, Object.initial, sameSlot]

/-- Storing a pair that a guarded call made from its templates. -/
theorem storeKeyPair_creationCall (host : Host) (oracle : Oracle) {state : State} {call : Call}
    {sessionHandle : Nat} {session : Session} {slot : Slot} {token : Bool}
    {request : PairRequest} {output : Nat → Output} (wellFormed : WellFormed state)
    (guard : CreationGuard state sessionHandle session slot token)
    (made : request.MadeBy call sessionHandle slot token)
    (outputs : ∀ handle, ∀ returned ∈ (output handle).handles,
      returned = handle ∨ returned = handle + 1)
    (noSecret : call.secretRequest host oracle state = none)
    (asked : call.pairRequest host oracle state =
      some (request, output state.nextObjectHandle)) :
    CreationCall host oracle state call sessionHandle
      (storeKeyPair host oracle state request output) := by
  rcases guard.valid wellFormed with ⟨valid, slotId⟩
  have newKey := request.newKey_madeBy host oracle made valid slotId
    (outputs state.nextObjectHandle)
  have isToken := made.token_eq valid
  refine .performed (by simp [Call.newKey, noSecret, asked]) ?_ newKey
    (storeKeyPair_creation (freshHandles wellFormed))
  rw [show (request.newKey host oracle state.nextObjectHandle
    (output state.nextObjectHandle)).token = token from isToken]
  exact guard

theorem pairTemplates_ne_ok (state : State) (sessionHandle : Nat) (mechanism : Option Mechanism)
    (publicTemplate privateTemplate : Template) (hasHandles : Bool) :
    pairTemplates state sessionHandle mechanism publicTemplate privateTemplate hasHandles ≠
      .error .ok := by
  simp [pairTemplates, bind_eq_error_iff, validateCreationTemplate_ne_ok,
    applyCreationTemplate_ne_ok]

theorem generatedEvpKey_ne_ok (oracle : Oracle) (algorithm : Bytes) (publicTemplate : Template) :
    generatedEvpKey oracle algorithm publicTemplate ≠ .error .ok := by
  simp [generatedEvpKey, bind_eq_error_iff]

theorem generatedPair_ne_ok (oracle : Oracle) (state : State) (sessionHandle : Nat)
    (mechanism : Option Mechanism) (publicTemplate privateTemplate : Template)
    (hasHandles : Bool) :
    generatedPair oracle state sessionHandle mechanism publicTemplate privateTemplate hasHandles ≠
      .error .ok := by
  simp [generatedPair, bind_eq_error_iff, pairTemplates_ne_ok, generatedEvpKey_ne_ok,
    Exception.code]

theorem pairTemplates_eq_ok {state : State} {sessionHandle : Nat} {mechanism : Option Mechanism}
    {publicTemplate privateTemplate : Template} {hasHandles : Bool} {algorithm : Bytes}
    {publicPolicy privatePolicy : Object}
    (passes : pairTemplates state sessionHandle mechanism publicTemplate privateTemplate
      hasHandles = .ok (algorithm, publicPolicy, privatePolicy)) :
    ∃ session slot token, CreationGuard state sessionHandle session slot token ∧
      publicPolicy.ownerSession = ownerOf token sessionHandle ∧
      privatePolicy.ownerSession = ownerOf token sessionHandle ∧
      publicPolicy.policy = applyPolicyTemplate ∅ publicTemplate ∧
      privatePolicy.policy = applyPolicyTemplate ∅ privateTemplate := by
  simp only [pairTemplates, bind_eq_ok_iff, fetch_eq_ok_iff, require_eq_ok_iff, pure_eq_ok,
    Except.ok.injEq, Prod.mk.injEq] at passes
  rcases passes with ⟨_, _, _, _, _, _, _, _, _, _, _, sameToken, _, _, appliedPublic,
    publicApplies, appliedPrivate, privateApplies, _, rfl, rfl⟩
  rcases applyCreationTemplate_eq_ok publicApplies with ⟨_, _, _, rfl⟩
  rcases applyCreationTemplate_eq_ok privateApplies with ⟨session, slot, guard, rfl⟩
  refine ⟨session, slot, _, guard, ?_, rfl, rfl, rfl⟩
  rw [sameToken]

theorem generatedPair_eq_ok {oracle : Oracle} {state : State} {sessionHandle : Nat}
    {mechanism : Option Mechanism} {publicTemplate privateTemplate : Template}
    {hasHandles : Bool} {request : PairRequest}
    (passes : generatedPair oracle state sessionHandle mechanism publicTemplate privateTemplate
      hasHandles = .ok request) :
    ∃ session slot token, CreationGuard state sessionHandle session slot token ∧
      request.MadeBy
        (.generateKeyPair sessionHandle mechanism publicTemplate privateTemplate hasHandles)
        sessionHandle slot token := by
  simp only [generatedPair, bind_eq_ok_iff, fetch_eq_ok_iff, pure_eq_ok, Except.ok.injEq] at passes
  rcases passes with ⟨⟨algorithm, publicPolicy, privatePolicy⟩, templates, key, _, slot,
    slotOfSession, rfl⟩
  rcases pairTemplates_eq_ok templates with
    ⟨session, stored, token, guard, publicOwner, privateOwner, publicTable, privateTable⟩
  have sameSlot : stored = slot := guard.slot_eq slotOfSession
  subst sameSlot
  exact ⟨session, stored, token, guard,
    ⟨rfl, rfl, privateOwner, publicOwner, privateTable, publicTable⟩⟩

theorem generateKeyPair_creationCall {host : Host} {oracle : Oracle} {state : State}
    (wellFormed : WellFormed state) (sessionHandle : Nat) (mechanism : Option Mechanism)
    (publicTemplate privateTemplate : Template) (hasHandles : Bool) :
    CreationCall host oracle state
      (.generateKeyPair sessionHandle mechanism publicTemplate privateTemplate hasHandles)
      sessionHandle
      (generateKeyPair host oracle state sessionHandle mechanism publicTemplate privateTemplate
        hasHandles) := by
  unfold generateKeyPair
  cases made : generatedPair oracle state sessionHandle mechanism publicTemplate privateTemplate
      hasHandles with
  | error code =>
      apply CreationCall.rejected (Nat.le_refl _)
      rintro rfl
      exact generatedPair_ne_ok _ _ _ _ _ _ _ made
  | ok request =>
      rcases generatedPair_eq_ok made with ⟨session, slot, token, guard, asked⟩
      refine storeKeyPair_creationCall host oracle wellFormed guard asked ?_ rfl ?_
      · simp [Output.handles]
      · simp [Call.pairRequest, Except.toOption, made]

/-! ## Unwrapping -/

theorem wrapPadding_ne_ok (oracle : Oracle) (unwrap : Bool) (mechanism : Option Mechanism)
    (wrappingKey : Object) (inputLength : Nat) :
    wrapPadding oracle unwrap mechanism wrappingKey inputLength ≠ .error .ok := by
  simp [wrapPadding, bind_eq_error_iff]

theorem unwrappedBytes_ne_ok (host : Host) (oracle : Oracle) (state : State)
    (sessionHandle : Nat) (mechanism : Option Mechanism) (wrappingHandle : Nat) (input : Buffer)
    (attributes : Template) (hasHandle : Bool) :
    unwrappedBytes host oracle state sessionHandle mechanism wrappingHandle input attributes
      hasHandle ≠ .error .ok := by
  simp only [unwrappedBytes, ne_eq, bind_eq_error_iff, validateCreationTemplate_ne_ok,
    requireUserLogin_ne_ok]
  simp

theorem unwrappedSecret_ne_ok (state : State) (sessionHandle : Nat) (attributes : Template)
    (label raw : Bytes) :
    unwrappedSecret state sessionHandle attributes label raw ≠ .error .ok := by
  simp [unwrappedSecret, bind_eq_error_iff, applyCreationTemplate_ne_ok, Exception.code]

theorem unwrappedPair_ne_ok (host : Host) (state : State) (sessionHandle : Nat)
    (attributes : Template) (label raw : Bytes) :
    unwrappedPair host state sessionHandle attributes label raw ≠ .error .ok := by
  simp [unwrappedPair, bind_eq_error_iff, applyCreationTemplate_ne_ok, Exception.code]

theorem unwrappedSecret_eq_ok {state : State} {sessionHandle : Nat} {attributes : Template}
    {label raw : Bytes} {object : Object}
    (passes : unwrappedSecret state sessionHandle attributes label raw = .ok object) :
    ∃ session slot id path, CreationGuard state sessionHandle session slot
        (isTokenTemplate attributes true) ∧
      path = (if ownerOf (isTokenTemplate attributes true) sessionHandle ≠ 0 then []
        else symmetricKeyPath slot label) ∧
      object = { secretObject session.slotId label id path raw with
        handle := state.nextObjectHandle
        ownerSession := ownerOf (isTokenTemplate attributes true) sessionHandle
        policy := applyPolicyTemplate ∅ attributes } := by
  simp only [unwrappedSecret, bind_eq_ok_iff, fetch_eq_ok_iff, require_eq_ok_iff, pure_eq_ok,
    Except.ok.injEq] at passes
  rcases passes with ⟨slot, slotOfSession, result, applies, _, _, rfl⟩
  rcases applyCreationTemplate_eq_ok applies with ⟨session, stored, guard, rfl⟩
  have sameSlot : stored = slot := guard.slot_eq slotOfSession
  subst sameSlot
  exact ⟨session, stored, _, _, guard, rfl, rfl⟩

theorem unwrappedPair_eq_ok {host : Host} {state : State} {sessionHandle : Nat}
    {attributes : Template} {label raw : Bytes} {request : PairRequest}
    (passes : unwrappedPair host state sessionHandle attributes label raw = .ok request)
    (mechanism : Option Mechanism) (wrappingHandle : Nat) (input : Buffer) (hasHandle : Bool) :
    ∃ session slot token, CreationGuard state sessionHandle session slot token ∧
      request.MadeBy (.unwrapKey sessionHandle mechanism wrappingHandle input attributes hasHandle)
        sessionHandle slot token := by
  simp only [unwrappedPair, bind_eq_ok_iff, fetch_eq_ok_iff, pure_eq_ok, Except.ok.injEq] at passes
  rcases passes with ⟨key, _, result, applies, slot, slotOfSession, rfl⟩
  rcases applyCreationTemplate_eq_ok applies with ⟨session, stored, guard, rfl⟩
  have sameSlot : stored = slot := guard.slot_eq slotOfSession
  subst sameSlot
  exact ⟨session, stored, _, guard, ⟨rfl, rfl, rfl, rfl, rfl, rfl⟩⟩

theorem unwrapKey_creationCall {host : Host} {oracle : Oracle} {state : State}
    (wellFormed : WellFormed state) (sessionHandle : Nat) (mechanism : Option Mechanism)
    (wrappingHandle : Nat) (input : Buffer) (attributes : Template) (hasHandle : Bool) :
    CreationCall host oracle state
      (.unwrapKey sessionHandle mechanism wrappingHandle input attributes hasHandle)
      sessionHandle
      (unwrapKey host oracle state sessionHandle mechanism wrappingHandle input attributes
        hasHandle) := by
  unfold unwrapKey
  cases unwrapped : unwrappedBytes host oracle state sessionHandle mechanism wrappingHandle input
      attributes hasHandle with
  | error code =>
      apply CreationCall.rejected (Nat.le_refl _)
      rintro rfl
      exact unwrappedBytes_ne_ok _ _ _ _ _ _ _ _ _ unwrapped
  | ok raw =>
      dsimp only
      split
      · rename_i isSecret
        split
        · exact .rejected (Nat.le_refl _) (by decide)
        · rename_i isLength
          rw [Bool.not_eq_false] at isLength
          cases made : unwrappedSecret state sessionHandle attributes
              (templateString attributes ckaLabel (ascii "unwrapped-key")) raw with
          | error code =>
              apply CreationCall.rejected (Nat.le_succ state.nextObjectHandle)
              rintro rfl
              exact unwrappedSecret_ne_ok _ _ _ _ _ made
          | ok object =>
              rcases unwrappedSecret_eq_ok made with
                ⟨session, slot, id, path, guard, samePath, rfl⟩
              have token := decide_ownerOf (guard.valid wellFormed).1
                (isTokenTemplate attributes true)
              dsimp only
              rw [token]
              refine storeSecretKey_creationCall host oracle _ id wellFormed guard
                (isAesKeyLength_ne_nil isLength) samePath rfl rfl ?_
              simp only [Call.secretRequest, Except.toOption, unwrapped, isSecret, isLength, made,
                Option.bind_eq_bind, Option.bind_some, and_self, if_true, token]
              rfl
      · rename_i notSecret
        split
        · exact .rejected (Nat.le_refl _) (by decide)
        · rename_i isPrivate
          rw [not_not] at isPrivate
          cases made : unwrappedPair host state sessionHandle attributes
              (templateString attributes ckaLabel (ascii "unwrapped-key")) raw with
          | error code =>
              apply CreationCall.rejected (Nat.le_refl _)
              rintro rfl
              exact unwrappedPair_ne_ok _ _ _ _ _ _ made
          | ok request =>
              rcases unwrappedPair_eq_ok made mechanism wrappingHandle input hasHandle with
                ⟨session, slot, token, guard, asked⟩
              refine storeKeyPair_creationCall host oracle wellFormed guard asked ?_ ?_ ?_
              · simp [Output.handles]
              · simp [Call.secretRequest, Except.toOption, unwrapped, notSecret]
              · simp [Call.pairRequest, Except.toOption, unwrapped, isPrivate, made]

/-! ## Derivation -/

theorem derivationData_ne_ok (mechanism : Mechanism) : derivationData mechanism ≠ .error .ok := by
  simp only [derivationData, ne_eq, bind_eq_error_iff]
  split <;> simp [bind_eq_error_iff]

theorem derivationMaster_ne_ok (state : State) (sessionHandle baseKey : Nat) :
    derivationMaster state sessionHandle baseKey ≠ .error .ok := by
  simp [derivationMaster, bind_eq_error_iff, requireUserLogin_ne_ok]

theorem derivedLength_ne_ok (attributes : Template) (dataLength : Nat) :
    derivedLength attributes dataLength ≠ .error .ok := by
  have entries := validateEntries_ne_ok validateDerivationAttribute_ne_ok [] attributes.toList
  simp [derivedLength, bind_eq_error_iff, entries]

theorem derivation_ne_ok (host : Host) (oracle : Oracle) (state : State) (sessionHandle : Nat)
    (mechanism : Option Mechanism) (baseKey : Nat) (attributes : Template) (hasHandle : Bool) :
    derivation host oracle state sessionHandle mechanism baseKey attributes hasHandle ≠
      .error .ok := by
  simp [derivation, bind_eq_error_iff, derivationData_ne_ok, derivationMaster_ne_ok,
    derivedLength_ne_ok, Exception.code]

theorem ecbEncrypt_length (block : Bytes → Vector UInt8 16) (count : Nat) (data : Bytes) :
    (ecbEncrypt block count data).length = 16 * count := by
  induction count generalizing data with
  | zero => rfl
  | succ count ih =>
      rw [ecbEncrypt, List.length_append, ih, Vector.length_toList]
      omega

theorem isAesKeyLength_le {length : Nat} (isLength : isAesKeyLength length = true) :
    length ≤ 32 := by
  simp only [isAesKeyLength, Bool.or_eq_true, decide_eq_true_eq] at isLength
  omega

/-- The number of bytes to encrypt is the same as an `int`. -/
theorem derivationCall_length {requestedLength : Nat}
    (isLength : isAesKeyLength requestedLength = true) (data : Bytes) :
    (derivationCall data requestedLength).length = usedLength requestedLength := by
  have small := isAesKeyLength_le isLength
  apply toInt_of_lt
  unfold usedLength
  omega

theorem derivationCall_input_length {data : Bytes} {requestedLength : Nat}
    (isLength : isAesKeyLength requestedLength = true)
    (enough : usedLength requestedLength ≤ data.length) :
    (derivationCall data requestedLength).input.length = usedLength requestedLength := by
  rw [CipherCall.input, derivationCall_length isLength, Int.toNat_natCast, List.length_take]
  exact min_eq_left enough

/-- The blocks that are encrypted for a requested length. -/
theorem derivationCall_output {requestedLength : Nat}
    (isLength : isAesKeyLength requestedLength = true) (data : Bytes)
    (block : Bytes → Vector UInt8 16) :
    (derivationCall data requestedLength).output block =
      ecbEncrypt block ((requestedLength + 15) / 16) (data.take (usedLength requestedLength)) := by
  rw [CipherCall.output, CipherCall.input, derivationCall_length isLength, Int.toNat_natCast]
  rw [usedLength, Nat.mul_div_cancel _ (by decide)]
  rfl

/-- The derived key has the length asked for. -/
theorem derivedValue_length (host : Host) (master data : Bytes) {requestedLength : Nat}
    (isLength : isAesKeyLength requestedLength = true) :
    (derivedValue host master data requestedLength).length = requestedLength := by
  rw [derivedValue, derivationCall_output isLength, List.length_take, ecbEncrypt_length]
  omega

theorem derivedLength_eq_ok {attributes : Template} {dataLength length : Nat}
    (passes : derivedLength attributes dataLength = .ok length) :
    isAesKeyLength length = true := by
  simp only [derivedLength, bind_eq_ok_iff, fetch_eq_ok_iff, require_eq_ok_iff, pure_eq_ok,
    Except.ok.injEq] at passes
  rcases passes with ⟨_, _, _, _, _, _, _, _, _, _, _, isLength, _, _, rfl⟩
  exact isLength

theorem derivation_eq_ok {host : Host} {oracle : Oracle} {state : State} {sessionHandle : Nat}
    {mechanism : Option Mechanism} {baseKey : Nat} {attributes : Template} {hasHandle : Bool}
    {session : Session} {slot : Slot} {value : Bytes}
    (passes : derivation host oracle state sessionHandle mechanism baseKey attributes hasHandle =
      .ok (session, slot, value)) :
    CreationGuard state sessionHandle session slot (derivationToken attributes) ∧ value ≠ [] := by
  simp only [derivation, derivationMaster, bind_eq_ok_iff, fetch_eq_ok_iff, require_eq_ok_iff,
    pure_eq_ok, Except.ok.injEq, Prod.mk.injEq] at passes
  rcases passes with ⟨stored, sessionFound, _, _, _, _, data, _, master,
    ⟨_, _, _, access, _, _, _, _, _, _, _⟩, length, lengths, _, writable, _, _, _, _, _, _,
    found, slotOfSession, rfl, rfl, rfl⟩
  rcases State.requireUserLogin_eq_ok_iff.mp access with ⟨granting, granted, grants⟩
  rw [slotOfSession] at granted
  cases granted
  rcases State.sessionSlot_eq_some_iff.mp slotOfSession with ⟨other, otherFound, slotFound⟩
  rw [sessionFound] at otherFound
  cases otherFound
  refine ⟨⟨sessionFound, slotFound, grants, ?_⟩, ?_⟩
  · intro token
    rcases writable with notToken | readWrite
    · rw [notToken] at token
      contradiction
    · exact readWrite
  · apply isAesKeyLength_ne_nil
    have isLength := derivedLength_eq_ok lengths
    rw [derivedValue_length _ _ _ isLength]
    exact isLength

theorem deriveKey_creationCall {host : Host} {oracle : Oracle} {state : State}
    (wellFormed : WellFormed state) (sessionHandle : Nat) (mechanism : Option Mechanism)
    (baseKey : Nat) (attributes : Template) (hasHandle : Bool) :
    CreationCall host oracle state
      (.deriveKey sessionHandle mechanism baseKey attributes hasHandle) sessionHandle
      (deriveKey host oracle state sessionHandle mechanism baseKey attributes hasHandle) := by
  unfold deriveKey
  cases derived : derivation host oracle state sessionHandle mechanism baseKey attributes
      hasHandle with
  | error code =>
      apply CreationCall.rejected (Nat.le_refl _)
      rintro rfl
      exact derivation_ne_ok _ _ _ _ _ _ _ _ derived
  | ok result =>
      rcases result with ⟨session, slot, value⟩
      rcases derivation_eq_ok derived with ⟨guard, nonempty⟩
      refine storeSecretKey_creationCall host oracle _ _ wellFormed guard nonempty ?_ rfl rfl ?_
      · cases token : derivationToken attributes with
        | false => simp [ownerOf, (guard.valid wellFormed).1]
        | true => simp [ownerOf]
      · simp [Call.secretRequest, Except.toOption, derived]
        rfl

/-- Every creating call is rejected or performs a creation. -/
theorem service_creationCall {host : Host} {oracle : Oracle} {state : State} {call : Call}
    {sessionHandle : Nat} (wellFormed : WellFormed state) (creates : call.creates = true)
    (onSession : call.session? = some sessionHandle) :
    CreationCall host oracle state call sessionHandle (service host oracle state call) := by
  cases call with
  | generateKey =>
      cases onSession
      exact generateKey_creationCall wellFormed _ _ _ _
  | generateKeyPair =>
      cases onSession
      exact generateKeyPair_creationCall wellFormed _ _ _ _ _
  | unwrapKey =>
      cases onSession
      exact unwrapKey_creationCall wellFormed _ _ _ _ _ _
  | deriveKey =>
      cases onSession
      exact deriveKey_creationCall wellFormed _ _ _ _ _
  | _ => contradiction

/-- A closed module rejects a creating call, too. -/
theorem step_creationCall {host : Host} {state : State} {call : Call} {sessionHandle : Nat}
    (wellFormed : WellFormed state) (creates : call.creates = true)
    (onSession : call.session? = some sessionHandle) (oracle : Oracle) :
    CreationCall host oracle state call sessionHandle (step host state (call, oracle)) := by
  unfold step
  split
  · exact .rejected (Nat.le_refl _) (by decide)
  · exact service_creationCall wellFormed creates onSession

/-- A key that is created has a handle to return. -/
theorem Call.newKey_handles {host : Host} {oracle : Oracle} {state : State} {call : Call}
    {new : NewKey} (isNew : call.newKey host oracle state = some new) :
    new.output.handles ≠ [] := by
  unfold Call.newKey at isNew
  split at isNew
  · rw [Option.map_eq_some_iff] at isNew
    rcases isNew with ⟨slot, _, rfl⟩
    simp [secretKey, Output.handles]
  · rw [Option.map_eq_some_iff] at isNew
    rcases isNew with ⟨⟨request, output⟩, pair, rfl⟩
    change output.handles ≠ []
    cases call with
    | generateKeyPair =>
        simp only [Call.pairRequest, Option.bind_eq_bind, Option.bind_eq_some_iff, Option.pure_def,
          Option.some.injEq, Prod.mk.injEq] at pair
        rcases pair with ⟨_, _, _, rfl⟩
        simp [Output.handles]
    | unwrapKey =>
        simp only [Call.pairRequest, Option.bind_eq_bind, Option.bind_eq_some_iff] at pair
        rcases pair with ⟨raw, _, isPrivate⟩
        split at isPrivate
        · simp only [Option.bind_eq_some_iff, Option.pure_def, Option.some.injEq,
            Prod.mk.injEq] at isPrivate
          rcases isPrivate with ⟨_, _, _, rfl⟩
          simp [Output.handles]
        · contradiction
    | _ => simp [Call.pairRequest] at pair

end HsmSimulator
