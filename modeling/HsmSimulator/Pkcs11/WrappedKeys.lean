import HsmSimulator.Crypto.Storing
import HsmSimulator.Objects.Validation
import HsmSimulator.Pkcs11.Registry

/-!
# Wrapped keys

Wrapping a key and unwrapping the bytes gives the key back, with the sizes that were
announced.  AES key wrap and the encoding of private keys are taken as what their
specifications say; the lengths, the checks and the objects are those of the code.
-/

namespace HsmSimulator

open Checks

/-! ## What OpenSSL is taken to do -/

/-- Semiblocks of eight bytes that hold a key. -/
def semiblocks (length : Nat) : Nat := (length + 7) / 8

/-- The lengths that key wrap takes: at least two whole semiblocks, or with padding at
least one byte. -/
def WrapsLength (padding : Bool) (length : Nat) : Prop :=
  if padding then 1 ≤ length else length % 8 = 0 ∧ 16 ≤ length

instance (padding : Bool) (length : Nat) : Decidable (WrapsLength padding length) := by
  unfold WrapsLength
  infer_instance

/-- AES key wrap adds one semiblock, and unwrapping gives back what was wrapped. -/
def KeyWrapSpecified (openSsl : OpenSsl) : Prop :=
  ∀ padding wrappingValue input, isAesKeyLength wrappingValue.length = true →
    WrapsLength padding input.length → input.length < 2 ^ 31 →
    ∃ wrapped, openSsl.keyWrap padding wrappingValue input = some wrapped ∧
      wrapped.length = 8 * (semiblocks input.length + 1) ∧
      openSsl.keyUnwrap padding wrappingValue wrapped = some input

/-- What was encoded decodes to a key with the same encoding. -/
def Pkcs8Specified (openSsl : OpenSsl) : Prop :=
  ∀ key encoding, openSsl.encodePkcs8 key = some encoding →
    ∃ decoded, openSsl.decodePkcs8 encoding = some decoded ∧
      openSsl.encodePkcs8 decoded = some encoding

/-! ## What is wrapped -/

/-- The two mechanisms, without a parameter. -/
def wrapMechanism (padding : Bool) : Option Mechanism :=
  some ⟨if padding then ckmAesKeyWrapPad else ckmAesKeyWrap, .null 0⟩

/-- The bytes of a secret key, or the encoding of a private key. -/
inductive WrapTarget (openSsl : OpenSsl) (key : Object) (raw : Bytes) : Prop
  | secret : key.objectClass = ckoSecretKey → key.secretValue = raw →
      isAesKeyLength raw.length = true → WrapTarget openSsl key raw
  | pair {privateKey : EvpKey} : key.objectClass = ckoPrivateKey →
      key.asymmetricKey = some privateKey → openSsl.encodePkcs8 privateKey = some raw →
      1 ≤ raw.length → raw.length ≤ intMax - 16 → WrapTarget openSsl key raw

/-- A wrapping key and an extractable key that the session has access to. -/
structure Wrappable (host : Host) (state : State) (sessionHandle wrappingHandle keyHandle : Nat)
    (wrappingKey key : Object) (raw : Bytes) : Prop where
  wrappingFound : state.findObject sessionHandle wrappingHandle = some wrappingKey
  found : state.findObject sessionHandle keyHandle = some key
  access : state.requireUserLogin sessionHandle = .ok ()
  isAes : wrappingKey.keyType = ckkAes
  length : isAesKeyLength wrappingKey.secretValue.length = true
  wraps : policyValue wrappingKey ckaWrap = true
  unwraps : policyValue wrappingKey ckaUnwrap = true
  extractable : policyValue key ckaExtractable = true
  target : WrapTarget host.openSsl key raw

/-- The cipher is there and runs. -/
structure Oracle.CipherWorks (oracle : Oracle) : Prop where
  context : oracle.cipherContext = true
  init : oracle.cipherInit = true
  runs : oracle.cipherRuns = true

/-! ## What is unwrapped -/

/-- The label of an unwrapped key. -/
def unwrappedLabel (attributes : Template) : Bytes :=
  templateString attributes ckaLabel (ascii "unwrapped-key")

/-- The template is valid, asks for the class of the key, and may be used on the session;
its label fits into a record. -/
structure AcceptedTemplate (state : State) (sessionHandle : Nat) (key : Object)
    (attributes : Template) : Prop where
  valid : validateCreationTemplate attributes = .ok ()
  objectClass : (templateUnsigned attributes ckaClass).getD ckoSecretKey = key.objectClass
  writable : isTokenTemplate attributes true = true →
    ∃ session, state.findSession sessionHandle = some session ∧ session.isReadWrite = true
  label : isTokenTemplate attributes true = true →
    (unwrappedLabel attributes).length ≤ 65536

/-- What else the template says fits a secret key, and the names of its file are free. -/
structure AcceptedSecret (state : State) (sessionHandle : Nat) (raw : Bytes)
    (attributes : Template) : Prop where
  keyType : (templateUnsigned attributes ckaKeyType).getD ckkAes = ckkAes
  valueLen : (templateUnsigned attributes ckaValueLen).getD raw.length = raw.length
  id : isTokenTemplate attributes true = true →
    (templateString attributes ckaId (decimal (state.nextObjectHandle + 1))).length ≤ 65536
  free : isTokenTemplate attributes true = true → ∀ slot,
    state.sessionSlot sessionHandle = some slot →
      FreePath state (symmetricKeyPath slot (unwrappedLabel attributes))

/-- What else the template says fits the decoded key, OpenSSL can store it, and the names of
its file are free. -/
structure AcceptedPair (host : Host) (oracle : Oracle) (state : State) (sessionHandle : Nat)
    (raw : Bytes) (attributes : Template) : Prop where
  keyType : ∀ decoded, host.openSsl.decodePkcs8 raw = some decoded →
    (templateUnsigned attributes ckaKeyType).getD (HsmSimulator.keyType host.openSsl decoded) =
      HsmSimulator.keyType host.openSsl decoded
  half : ∀ decoded, host.openSsl.decodePkcs8 raw = some decoded →
    publicKeyOnly oracle decoded ≠ none
  digest : ∀ slot, state.sessionSlot sessionHandle = some slot →
    ∃ id, objectIdForFilename host
        (asymmetricKeyPath slot (unwrappedLabel attributes)).filename = some id ∧
      (isTokenTemplate attributes true = true →
        (templateString attributes ckaId id).length ≤ 65536)
  free : isTokenTemplate attributes true = true → ∀ slot,
    state.sessionSlot sessionHandle = some slot →
      FreePath state (asymmetricKeyPath slot (unwrappedLabel attributes)) ∧
        ∀ decoded, host.openSsl.decodePkcs8 raw = some decoded →
          pairContent oracle slot (unwrappedLabel attributes) decoded ≠ none

/-- A template for the key, a free label and no fault. -/
structure Unwrappable (host : Host) (oracle : Oracle) (state : State) (sessionHandle : Nat)
    (key : Object) (raw : Bytes) (attributes : Template) : Prop where
  storage : oracle.StorageWorks
  cipher : oracle.CipherWorks
  template : AcceptedTemplate state sessionHandle key attributes
  secret : key.objectClass = ckoSecretKey → AcceptedSecret state sessionHandle raw attributes
  pair : key.objectClass = ckoPrivateKey →
    AcceptedPair host oracle state sessionHandle raw attributes

/-- The unwrapping call creates an object of the class and with the key of the target. -/
def ComesBack (host : Host) (oracle : Oracle) (state : State)
    (sessionHandle wrappingHandle : Nat) (padding : Bool) (key : Object) (wrapped : Bytes)
    (attributes : Template) : Prop :=
  ∃ next handle object,
    step host state (.unwrapKey sessionHandle (wrapMechanism padding) wrappingHandle
      (.bytes wrapped) attributes true, oracle) = (next, .success (.handle handle)) ∧
    next.objects.get? handle = some object ∧ state.objects.get? handle = none ∧
    object.objectClass = key.objectClass ∧
    serializeKeyForWrapping host.openSsl object = serializeKeyForWrapping host.openSsl key

/-! ## Lengths -/

/-- The lengths of what was wrapped. -/
def UnwrapsLength (padding : Bool) (length : Nat) : Prop :=
  length % 8 = 0 ∧ (if padding then 16 else 24) ≤ length

variable {host : Host} {oracle : Oracle} {wrappingKey key : Object} {padding : Bool}

/-- The code announces the length of the wrapped bytes. -/
theorem wrapLength_eq {length : Nat} (wraps : WrapsLength padding length) :
    wrapLength false padding length = 8 * (semiblocks length + 1) := by
  unfold WrapsLength at wraps
  unfold wrapLength semiblocks
  cases padding with
  | false =>
      simp only [Bool.false_eq_true, if_false] at wraps ⊢
      omega
  | true =>
      simp only [Bool.false_eq_true, if_false, if_true] at wraps ⊢
      omega

/-- Wrapped bytes have a length that unwrapping takes. -/
theorem unwrapsLength_of_wraps {length : Nat} (wraps : WrapsLength padding length) :
    UnwrapsLength padding (8 * (semiblocks length + 1)) := by
  unfold WrapsLength at wraps
  unfold UnwrapsLength semiblocks
  cases padding with
  | false =>
      simp only [Bool.false_eq_true, if_false] at wraps ⊢
      omega
  | true =>
      simp only [if_true] at wraps ⊢
      omega

theorem wrapPadding_ok {unwrap : Bool} {length : Nat} (cipher : oracle.CipherWorks)
    (isAes : wrappingKey.keyType = ckkAes)
    (isLength : isAesKeyLength wrappingKey.secretValue.length = true) (bound : length ≤ intMax - 16)
    (takes : if unwrap then UnwrapsLength padding length else WrapsLength padding length) :
    wrapPadding oracle unwrap (wrapMechanism padding) wrappingKey length = .ok padding := by
  simp only [wrapPadding, wrapMechanism, bind_eq_ok_iff, fetch_eq_ok_iff, require_eq_ok_iff,
    pure_eq_ok, Except.ok.injEq]
  refine ⟨_, rfl, (), isAes, (), ?_, (), rfl, (), bound, (), isLength, (), ?_, (), ?_, (),
    cipher.context, (), cipher.init, ?_⟩
  · cases padding <;> simp
  · intro isPlain
    have plain : padding = false := by
      cases padding
      · rfl
      · contradiction
    subst plain
    cases unwrap with
    | false => exact takes
    | true => exact takes
  · intro isPadded
    have padded : padding = true := by
      cases padding
      · contradiction
      · rfl
    subst padded
    cases unwrap with
    | false =>
        have positive : 1 ≤ length := takes
        exact ⟨by omega, by simp⟩
    | true =>
        rcases takes with ⟨whole, long⟩
        simp only [if_true] at long
        exact ⟨by omega, fun _ => ⟨long, whole⟩⟩
  · cases padding <;> decide

theorem wrapPadding_tooLong {unwrap : Bool} {length : Nat}
    (isAes : wrappingKey.keyType = ckkAes) (long : intMax - 16 < length) :
    wrapPadding oracle unwrap (wrapMechanism padding) wrappingKey length =
      .error .dataLenRange := by
  have notBound : ¬length ≤ intMax - 16 := by omega
  cases padding <;>
    simp [wrapPadding, wrapMechanism, Parameter.isGiven, require, isAes, notBound]

theorem wrapPadding_unfit {length : Nat} (isAes : wrappingKey.keyType = ckkAes)
    (isLength : isAesKeyLength wrappingKey.secretValue.length = true) (positive : 1 ≤ length)
    (unfit : ¬WrapsLength padding length) :
    wrapPadding oracle false (wrapMechanism padding) wrappingKey length =
      .error .dataLenRange := by
  by_cases bound : length ≤ intMax - 16
  · cases padding with
    | false =>
        have outside : ¬(length % 8 = 0 ∧ 16 ≤ length) := unfit
        simp [wrapPadding, wrapMechanism, Parameter.isGiven, require, isAes, bound, isLength,
          outside]
    | true => exact (unfit positive).elim
  · exact wrapPadding_tooLong isAes (by omega)

/-! ## Wrapping -/

variable {state : State} {sessionHandle wrappingHandle keyHandle : Nat} {raw : Bytes}

theorem WrapTarget.serialized {openSsl : OpenSsl} (target : WrapTarget openSsl key raw) :
    serializeKeyForWrapping openSsl key = raw := by
  cases target with
  | secret isSecret value _ => rw [serializeKeyForWrapping, if_pos isSecret, value]
  | pair isPrivate isKey encoding _ _ =>
      have notSecret : key.objectClass ≠ ckoSecretKey := by
        rw [isPrivate]
        decide
      rw [serializeKeyForWrapping, if_neg notSecret, if_neg (not_not.mpr isPrivate), isKey,
        Option.bind_some, encoding, Option.getD_some]

/-- There is something to wrap, and its length is an `int`. -/
theorem WrapTarget.length {openSsl : OpenSsl} (target : WrapTarget openSsl key raw) :
    1 ≤ raw.length ∧ raw.length ≤ intMax - 16 := by
  cases target with
  | secret _ _ isLength =>
      simp only [isAesKeyLength, Bool.or_eq_true, decide_eq_true_eq] at isLength
      unfold intMax
      omega
  | pair _ _ _ positive bound => exact ⟨positive, bound⟩

namespace Wrappable

variable (wrappable : Wrappable host state sessionHandle wrappingHandle keyHandle wrappingKey key
  raw)

include wrappable

theorem wrapInput_eq :
    wrapInput host state sessionHandle wrappingHandle keyHandle true = .ok (wrappingKey, raw) := by
  rcases State.findObject_eq_some_iff.mp wrappable.found with ⟨session, sessionFound, _⟩
  have serialized := wrappable.target.serialized
  have nonempty : serializeKeyForWrapping host.openSsl key ≠ [] := by
    rw [serialized]
    exact List.ne_nil_of_length_pos wrappable.target.length.1
  simp only [wrapInput, bind_eq_ok_iff, fetch_eq_ok_iff, require_eq_ok_iff, pure_eq_ok,
    Except.ok.injEq]
  exact ⟨session, sessionFound, (), trivial, wrappingKey, wrappable.wrappingFound, key,
    wrappable.found, (), wrappable.access, (), wrappable.wraps, (), wrappable.extractable, (),
    nonempty, by rw [serialized]⟩

theorem step_wrapKey (wellFormed : WellFormed state) (output : OutputBuffer) :
    step host state
        (.wrapKey sessionHandle (wrapMechanism padding) wrappingHandle keyHandle output true,
          oracle) =
      (state,
        let outcome := aesKeyWrap host oracle false (wrapMechanism padding) wrappingKey raw output
        ⟨outcome.rv, .buffer outcome.length outcome.written, none⟩) := by
  rcases State.findObject_eq_some_iff.mp wrappable.found with ⟨session, sessionFound, _⟩
  have isOpen := wellFormed.initialized_of_session sessionFound
  simp [step, isOpen, service, wrapKey, wrappable.wrapInput_eq]

/-- Lengths that key wrap does not take are refused. -/
theorem step_wrapKey_unfit (wellFormed : WellFormed state)
    (unfit : ¬WrapsLength padding raw.length) (output : OutputBuffer) :
    step host state
        (.wrapKey sessionHandle (wrapMechanism padding) wrappingHandle keyHandle output true,
          oracle) =
      (state, ⟨.dataLenRange, .buffer output.length none, none⟩) := by
  rw [wrappable.step_wrapKey wellFormed]
  simp [aesKeyWrap, wrapPadding_unfit wrappable.isAes wrappable.length wrappable.target.length.1
    unfit]

/-- Without a buffer, with one that is too short, and with one that is long enough. -/
theorem step_wrapKey_fits (wellFormed : WellFormed state) (cipher : oracle.CipherWorks)
    (fits : WrapsLength padding raw.length) {wrapped : Bytes}
    (isWrapped : host.openSsl.keyWrap padding wrappingKey.secretValue raw = some wrapped)
    (length : wrapped.length = 8 * (semiblocks raw.length + 1)) (output : OutputBuffer) :
    step host state
        (.wrapKey sessionHandle (wrapMechanism padding) wrappingHandle keyHandle output true,
          oracle) =
      (state,
        if output.hasBuffer = false then ⟨.ok, .buffer wrapped.length none, none⟩
        else if output.length < wrapped.length then
          ⟨.bufferTooSmall, .buffer wrapped.length none, none⟩
        else ⟨.ok, .buffer wrapped.length (some wrapped), none⟩) := by
  have announced : wrapLength false padding raw.length = wrapped.length := by
    rw [wrapLength_eq fits, length]
  have passes := @wrapPadding_ok oracle wrappingKey padding false raw.length cipher
    wrappable.isAes wrappable.length wrappable.target.length.2 fits
  rw [wrappable.step_wrapKey wellFormed]
  dsimp only [aesKeyWrap]
  rw [passes]
  dsimp only
  rw [announced]
  split
  · rfl
  · split
    · rfl
    · simp [cipher.runs, isWrapped]

/-! ## Unwrapping -/

theorem unwrappedBytes_eq {attributes : Template} (cipher : oracle.CipherWorks)
    (valid : validateCreationTemplate attributes = .ok ())
    (fits : WrapsLength padding raw.length) {wrapped : Bytes}
    (length : wrapped.length = 8 * (semiblocks raw.length + 1))
    (isRaw : host.openSsl.keyUnwrap padding wrappingKey.secretValue wrapped = some raw)
    (bound : wrapped.length ≤ intMax - 16) :
    unwrappedBytes host oracle state sessionHandle (wrapMechanism padding) wrappingHandle
      (.bytes wrapped) attributes true = .ok raw := by
  rcases State.findObject_eq_some_iff.mp wrappable.found with ⟨session, sessionFound, _⟩
  have given := (validateCreationTemplate_eq_ok_iff.mp valid).1
  have takes := unwrapsLength_of_wraps fits
  rw [← length] at takes
  have passes := @wrapPadding_ok oracle wrappingKey padding true wrapped.length cipher
    wrappable.isAes wrappable.length bound takes
  have outcome : aesKeyWrap host oracle true (wrapMechanism padding) wrappingKey wrapped
      ⟨true, wrapped.length⟩ = ⟨.ok, raw.length, some raw⟩ := by
    simp [aesKeyWrap, passes, wrapLength, cipher.runs, isRaw]
  simp only [unwrappedBytes, bind_eq_ok_iff, fetch_eq_ok_iff, require_eq_ok_iff, pure_eq_ok,
    Except.ok.injEq]
  exact ⟨session, sessionFound, (), ⟨rfl, trivial, given⟩, wrappingKey, wrappable.wrappingFound, (),
    wrappable.access, (), wrappable.unwraps, (), valid, (),
    congrArg WrapOutcome.rv outcome,
    congrArg (fun outcome => outcome.written.getD []) outcome⟩

/-- Wrapped bytes beyond the bound on the input are refused. -/
theorem unwrappedBytes_tooLong {attributes : Template} {wrapped : Bytes}
    (valid : validateCreationTemplate attributes = .ok ())
    (long : intMax - 16 < wrapped.length) :
    unwrappedBytes host oracle state sessionHandle (wrapMechanism padding) wrappingHandle
      (.bytes wrapped) attributes true = .error .dataLenRange := by
  rcases State.findObject_eq_some_iff.mp wrappable.found with ⟨session, sessionFound, _⟩
  have given := (validateCreationTemplate_eq_ok_iff.mp valid).1
  have outcome : aesKeyWrap host oracle true (wrapMechanism padding) wrappingKey wrapped
      ⟨true, wrapped.length⟩ = ⟨.dataLenRange, wrapped.length, none⟩ := by
    simp [aesKeyWrap, wrapPadding_tooLong wrappable.isAes long]
  simp [unwrappedBytes, sessionFound, Buffer.isNull, Buffer.content, given, require, valid,
    wrappable.wrappingFound, wrappable.access, wrappable.unwraps, outcome]

/-- Without a session that may, a template may not ask for a token object. -/
theorem applyCreationTemplate_ok {attributes : Template} {session : Session} (object : Object)
    (sessionFound : state.findSession sessionHandle = some session)
    (template : AcceptedTemplate state sessionHandle key attributes)
    (objectClass : (templateUnsigned attributes ckaClass).getD object.objectClass =
      object.objectClass)
    (keyType : (templateUnsigned attributes ckaKeyType).getD object.keyType = object.keyType) :
    applyCreationTemplate state object sessionHandle attributes true =
      .ok { object with
        slotId := session.slotId
        ownerSession := if isTokenTemplate attributes true then 0 else sessionHandle
        policy := applyPolicyTemplate object.policy attributes
        path := if (if isTokenTemplate attributes true then 0 else sessionHandle) ≠ 0 then []
          else object.path } := by
  have writable : isTokenTemplate attributes true = false ∨ session.isReadWrite = true := by
    cases isToken : isTokenTemplate attributes true with
    | false => exact Or.inl rfl
    | true =>
        rcases template.writable isToken with ⟨found, isFound, readWrite⟩
        rw [sessionFound] at isFound
        cases isFound
        exact Or.inr readWrite
  simp only [applyCreationTemplate, bind_eq_ok_iff, fetch_eq_ok_iff, require_eq_ok_iff,
    pure_eq_ok, Except.ok.injEq]
  exact ⟨(), template.valid, (), ⟨objectClass, keyType⟩, session, sessionFound, (), writable, (),
    wrappable.access, rfl⟩

theorem unwrappedSecret_ok {attributes : Template} (wellFormed : WellFormed state)
    (template : AcceptedTemplate state sessionHandle key attributes)
    (isSecret : key.objectClass = ckoSecretKey)
    (accepted : AcceptedSecret state sessionHandle raw attributes) :
    ∃ object, unwrappedSecret state sessionHandle attributes (unwrappedLabel attributes) raw =
        .ok object ∧
      object.handle = state.nextObjectHandle ∧ object.objectClass = ckoSecretKey ∧
      object.secretValue = raw ∧
      (object.ownerSession = 0 → object.FitsRecord ∧ FreePath state object.path) := by
  rcases State.findObject_eq_some_iff.mp wrappable.found with ⟨session, sessionFound, _⟩
  rcases State.requireUserLogin_eq_ok_iff.mp wrappable.access with ⟨slot, slotFound, _⟩
  have objectClass : (templateUnsigned attributes ckaClass).getD ckoSecretKey = ckoSecretKey := by
    rw [template.objectClass, isSecret]
  have applied := wrappable.applyCreationTemplate_ok
    { secretObject 0 (unwrappedLabel attributes)
      (templateString attributes ckaId (decimal (state.nextObjectHandle + 1)))
      (symmetricKeyPath slot (unwrappedLabel attributes)) raw with
        handle := state.nextObjectHandle } sessionFound template objectClass accepted.keyType
  have made : ∃ object, unwrappedSecret state sessionHandle attributes (unwrappedLabel attributes)
      raw = .ok object ∧ applyCreationTemplate state
        { secretObject 0 (unwrappedLabel attributes)
          (templateString attributes ckaId (decimal (state.nextObjectHandle + 1)))
          (symmetricKeyPath slot (unwrappedLabel attributes)) raw with
            handle := state.nextObjectHandle } sessionHandle attributes true = .ok object := by
    refine ⟨_, ?_, applied⟩
    simp only [unwrappedSecret, bind_eq_ok_iff, fetch_eq_ok_iff, require_eq_ok_iff, pure_eq_ok,
      Except.ok.injEq]
    exact ⟨slot, slotFound, _, applied, (), accepted.valueLen, rfl⟩
  rcases made with ⟨object, made, isObject⟩
  rw [applied] at isObject
  cases isObject
  refine ⟨_, made, rfl, rfl, rfl, ?_⟩
  intro owner
  dsimp only at owner ⊢
  cases isToken : isTokenTemplate attributes true with
  | false =>
      rw [isToken] at owner
      exact (wellFormed.sessionHandle_ne_zero sessionFound owner).elim
  | true =>
      exact ⟨⟨template.label isToken, accepted.id isToken⟩,
        accepted.free isToken slot slotFound⟩

theorem unwrappedPair_ok {attributes : Template} (wellFormed : WellFormed state)
    (template : AcceptedTemplate state sessionHandle key attributes)
    (isPrivate : key.objectClass = ckoPrivateKey) {decoded : EvpKey}
    (isDecoded : host.openSsl.decodePkcs8 raw = some decoded)
    (accepted : AcceptedPair host oracle state sessionHandle raw attributes) :
    ∃ request, unwrappedPair host state sessionHandle attributes (unwrappedLabel attributes) raw =
        .ok request ∧ request.key = decoded ∧
      (∃ id, objectIdForFilename host request.path.filename = some id ∧
        (request.token = true → request.FitsRecords id)) ∧
      (request.token = true → FreePath state request.path ∧
        pairContent oracle request.slot request.label request.key ≠ none) := by
  rcases State.findObject_eq_some_iff.mp wrappable.found with ⟨session, sessionFound, _⟩
  rcases State.requireUserLogin_eq_ok_iff.mp wrappable.access with ⟨slot, slotFound, _⟩
  rcases accepted.digest slot slotFound with ⟨id, isId, idFits⟩
  have objectClass : (templateUnsigned attributes ckaClass).getD ckoPrivateKey =
      ckoPrivateKey := by
    have asked := template.objectClass
    rw [isPrivate] at asked
    cases given : templateUnsigned attributes ckaClass with
    | none => rfl
    | some value =>
        rw [given] at asked
        exact asked
  have applied := wrappable.applyCreationTemplate_ok
    (policyObject ckoPrivateKey (keyType host.openSsl decoded)) sessionFound template objectClass
    (accepted.keyType decoded isDecoded)
  have made : ∃ request, unwrappedPair host state sessionHandle attributes
      (unwrappedLabel attributes) raw = .ok request ∧ request =
        { slot := slot
          key := decoded
          label := unwrappedLabel attributes
          path := asymmetricKeyPath slot (unwrappedLabel attributes)
          privateId := templateString attributes ckaId
          privatePolicy := applyPolicyTemplate ∅ attributes
          privateOwner := if isTokenTemplate attributes true then 0 else sessionHandle
          publicId := templateString attributes ckaId
          publicLabel := unwrappedLabel attributes
          publicPolicy := ∅
          publicOwner := if isTokenTemplate attributes true then 0 else sessionHandle } := by
    refine ⟨_, ?_, rfl⟩
    simp only [unwrappedPair, bind_eq_ok_iff, fetch_eq_ok_iff, pure_eq_ok, Except.ok.injEq]
    exact ⟨decoded, isDecoded, _, applied, slot, slotFound, rfl⟩
  rcases made with ⟨request, made, rfl⟩
  have token (owner : (if isTokenTemplate attributes true then 0 else sessionHandle) = 0) :
      isTokenTemplate attributes true = true := by
    cases given : isTokenTemplate attributes true with
    | false =>
        rw [given] at owner
        exact (wellFormed.sessionHandle_ne_zero sessionFound owner).elim
    | true => rfl
  refine ⟨_, made, rfl, ⟨id, isId, ?_⟩, ?_⟩
  · intro isToken
    have asked := token (of_decide_eq_true isToken)
    exact ⟨template.label asked, idFits asked, template.label asked, idFits asked⟩
  · intro isToken
    rcases accepted.free (token (of_decide_eq_true isToken)) slot slotFound with
      ⟨names, container⟩
    exact ⟨names, container decoded isDecoded⟩

theorem step_unwrapKey (wellFormed : WellFormed state) (attributes : Template) (wrapped : Bytes) :
    step host state (.unwrapKey sessionHandle (wrapMechanism padding) wrappingHandle
        (.bytes wrapped) attributes true, oracle) =
      unwrapKey host oracle state sessionHandle (wrapMechanism padding) wrappingHandle
        (.bytes wrapped) attributes true := by
  rcases State.findObject_eq_some_iff.mp wrappable.found with ⟨session, sessionFound, _⟩
  have isOpen := wellFormed.initialized_of_session sessionFound
  simp [step, isOpen, service]

/-- What was wrapped comes back. -/
theorem comesBack {attributes : Template} {wrapped : Bytes} (pkcs8 : Pkcs8Specified host.openSsl)
    (wellFormed : WellFormed state)
    (unwrappable : Unwrappable host oracle state sessionHandle key raw attributes)
    (isRaw : unwrappedBytes host oracle state sessionHandle (wrapMechanism padding) wrappingHandle
      (.bytes wrapped) attributes true = .ok raw) :
    ComesBack host oracle state sessionHandle wrappingHandle padding key wrapped attributes := by
  have fresh := freshHandles wellFormed
  have absent := fresh state.nextObjectHandle (Nat.le_refl _)
  have template := unwrappable.template
  unfold ComesBack
  rw [wrappable.step_unwrapKey wellFormed, unwrapKey, isRaw, wrappable.target.serialized]
  dsimp only
  rw [template.objectClass]
  cases wrappable.target with
  | secret isSecret value isLength =>
      have made := wrappable.unwrappedSecret_ok wellFormed template isSecret
        (unwrappable.secret isSecret)
      rcases made with ⟨object, made, handle, objectClass, secretValue, free⟩
      rw [unwrappedLabel] at made
      rw [if_pos isSecret, if_neg (by simp [isLength]), made]
      rcases storeSecretKey_ok (decide (object.ownerSession = 0)) unwrappable.storage fresh handle
        (fun isToken => free (of_decide_eq_true isToken)) with ⟨next, stored, found⟩
      refine ⟨next, object.handle, object, stored, found, by rw [handle, absent], ?_, ?_⟩
      · rw [objectClass, isSecret]
      · rw [serializeKeyForWrapping, if_pos objectClass, secretValue]
  | pair isPrivate isKey encoding _ _ =>
      have notSecret : key.objectClass ≠ ckoSecretKey := by
        rw [isPrivate]
        decide
      rcases pkcs8 _ _ encoding with ⟨decoded, isDecoded, sameEncoding⟩
      have accepted := unwrappable.pair isPrivate
      rcases wrappable.unwrappedPair_ok wellFormed template isPrivate isDecoded accepted with
        ⟨request, made, isDecodedKey, ⟨id, digest, fits⟩, free⟩
      rw [unwrappedLabel] at made
      rw [if_neg notSecret, if_neg (not_not.mpr isPrivate), made]
      rcases Option.ne_none_iff_exists'.mp (accepted.half decoded isDecoded) with ⟨half, isHalf⟩
      rw [← isDecodedKey] at isHalf
      rcases storeKeyPair_ok Output.handle unwrappable.storage fresh digest isHalf fits free with
        ⟨next, object, stored, found, objectClass, isObjectKey⟩
      refine ⟨next, state.nextObjectHandle, object, stored, found, absent, ?_, ?_⟩
      · rw [objectClass, isPrivate]
      · have notSecretObject : object.objectClass ≠ ckoSecretKey := by
          rw [objectClass]
          decide
        rw [serializeKeyForWrapping, if_neg notSecretObject, if_neg (not_not.mpr objectClass),
          isObjectKey, Option.bind_some, isDecodedKey, sameEncoding, Option.getD_some]

end Wrappable

/-! ## There and back -/

/-- The sizes of a wrapped key, and the way back. -/
structure WrapRoundTrip (host : Host) (state : State) (sessionHandle wrappingHandle keyHandle : Nat)
    (padding : Bool) (key : Object) (raw wrapped : Bytes) : Prop where
  length : wrapped.length = 8 * (semiblocks raw.length + 1) ∧ wrapped.length < 2 ^ 31 ∧
    raw.length + 7 < 2 ^ 31
  query : ∀ oracle : Oracle, oracle.CipherWorks → ∀ length,
    step host state (.wrapKey sessionHandle (wrapMechanism padding) wrappingHandle keyHandle
      ⟨false, length⟩ true, oracle) = (state, ⟨.ok, .buffer wrapped.length none, none⟩)
  short : ∀ oracle : Oracle, oracle.CipherWorks → ∀ length, length < wrapped.length →
    step host state (.wrapKey sessionHandle (wrapMechanism padding) wrappingHandle keyHandle
      ⟨true, length⟩ true, oracle) = (state, ⟨.bufferTooSmall, .buffer wrapped.length none, none⟩)
  room : ∀ oracle : Oracle, oracle.CipherWorks → ∀ length, wrapped.length ≤ length →
    step host state (.wrapKey sessionHandle (wrapMechanism padding) wrappingHandle keyHandle
      ⟨true, length⟩ true, oracle) = (state, ⟨.ok, .buffer wrapped.length (some wrapped), none⟩)
  back : wrapped.length ≤ intMax - 16 → ∀ oracle attributes,
    Unwrappable host oracle state sessionHandle key raw attributes →
      ComesBack host oracle state sessionHandle wrappingHandle padding key wrapped attributes
  tooLong : intMax - 16 < wrapped.length → ∀ oracle attributes,
    validateCreationTemplate attributes = .ok () →
      step host state (.unwrapKey sessionHandle (wrapMechanism padding) wrappingHandle
        (.bytes wrapped) attributes true, oracle) = (state, .plain .dataLenRange)

/-- Wrapping gives the announced number of bytes and unwrapping them the key, except that
key wrap without padding refuses what is not two or more whole semiblocks, and that wrapped
bytes beyond the bound on the input are refused on the way back. -/
theorem wrap_round_trip (host : Host) (keyWrap : KeyWrapSpecified host.openSsl)
    (pkcs8 : Pkcs8Specified host.openSsl) (state : State) (reachable : Reachable host state)
    (sessionHandle wrappingHandle keyHandle : Nat) (wrappingKey key : Object) (raw : Bytes)
    (wrappable : Wrappable host state sessionHandle wrappingHandle keyHandle wrappingKey key raw)
    (padding : Bool) :
    (WrapsLength padding raw.length → ∃ wrapped,
      WrapRoundTrip host state sessionHandle wrappingHandle keyHandle padding key raw wrapped) ∧
    (¬WrapsLength padding raw.length → ∀ oracle output,
      step host state (.wrapKey sessionHandle (wrapMechanism padding) wrappingHandle keyHandle
        output true, oracle) = (state, ⟨.dataLenRange, .buffer output.length none, none⟩)) := by
  have wellFormed := reachable.wellFormed
  have bound := wrappable.target.length.2
  unfold intMax at bound
  constructor
  · intro fits
    rcases keyWrap padding wrappingKey.secretValue raw wrappable.length fits (by omega) with
      ⟨wrapped, isWrapped, length, isRaw⟩
    have outcome (oracle : Oracle) (cipher : oracle.CipherWorks) (output : OutputBuffer) :=
      wrappable.step_wrapKey_fits wellFormed cipher fits isWrapped length output
    refine ⟨wrapped, ⟨length, ?_, by omega⟩, ?_, ?_, ?_, ?_, ?_⟩
    · rw [length, semiblocks]
      omega
    · intro oracle cipher size
      rw [outcome oracle cipher]
      rfl
    · intro oracle cipher size short
      rw [outcome oracle cipher]
      simp [short]
    · intro oracle cipher size room
      rw [outcome oracle cipher]
      simp [room.not_gt]
    · intro below oracle attributes unwrappable
      exact wrappable.comesBack pkcs8 wellFormed unwrappable
        (wrappable.unwrappedBytes_eq unwrappable.cipher unwrappable.template.valid fits length isRaw
          below)
    · intro above oracle attributes valid
      rw [wrappable.step_unwrapKey wellFormed, unwrapKey,
        wrappable.unwrappedBytes_tooLong valid above]
  · intro unfit oracle output
    exact wrappable.step_wrapKey_unfit wellFormed unfit output

/-! ## A test vector -/

/-- A frame of the size of a wrapped key: the length in one semiblock, and the bytes filled
up to whole ones. -/
def frame (input : Bytes) : Bytes :=
  bigEndianBytes 8 input.length ++
    (input ++ List.replicate (8 * semiblocks input.length - input.length) 0)

def unframe (framed : Bytes) : Bytes :=
  (framed.drop 8).take (bigEndianValue (framed.take 8))

/-- The published vector of key wrap with keys of 128 bits. -/
def vectorKey : Bytes := [0, 1, 2, 3, 4, 5, 6, 7, 8, 9, 10, 11, 12, 13, 14, 15]

def vectorInput : Bytes :=
  [0x00, 0x11, 0x22, 0x33, 0x44, 0x55, 0x66, 0x77, 0x88, 0x99, 0xAA, 0xBB, 0xCC, 0xDD, 0xEE, 0xFF]

def vectorOutput : Bytes :=
  [0x1F, 0xA6, 0x8B, 0x0A, 0x81, 0x12, 0xB4, 0x47, 0xAE, 0xF3, 0x4B, 0xD8, 0xFB, 0x5A, 0x7B, 0x82,
    0x9D, 0x3E, 0x86, 0x23, 0x71, 0xD2, 0xCF, 0xE5]

/-- Key wrap as it is on the vector; elsewhere a frame of the same size. -/
def OpenSsl.vector : OpenSsl :=
  { OpenSsl.plain with
    keyWrap := fun padding key input =>
      if padding = false ∧ key = vectorKey ∧ input = vectorInput then some vectorOutput
      else some (frame input)
    keyUnwrap := fun padding key wrapped =>
      if padding = false ∧ key = vectorKey ∧ wrapped = vectorOutput then some vectorInput
      else some (unframe wrapped) }

def Host.vector : Host := { Host.plain with openSsl := .vector }

theorem length_frame (input : Bytes) :
    (frame input).length = 8 * (semiblocks input.length + 1) := by
  simp only [frame, semiblocks, List.length_append, length_bigEndianBytes, List.length_replicate]
  omega

theorem frame_take {input : Bytes} (bound : input.length < 2 ^ 31) :
    bigEndianValue ((frame input).take 8) = input.length := by
  rw [frame, List.take_left' (length_bigEndianBytes 8 _), bigEndianValue_bytes]
  exact Nat.mod_eq_of_lt (bound.trans (by decide))

theorem unframe_frame {input : Bytes} (bound : input.length < 2 ^ 31) :
    unframe (frame input) = input := by
  rw [unframe, frame_take bound, frame, List.drop_left' (length_bigEndianBytes 8 _),
    List.take_left' rfl]

theorem keyWrapSpecified_vector : KeyWrapSpecified .vector := by
  intro padding key input _ _ bound
  by_cases isVector : padding = false ∧ key = vectorKey ∧ input = vectorInput
  · rcases isVector with ⟨rfl, rfl, rfl⟩
    exact ⟨vectorOutput, rfl, rfl, rfl⟩
  · have notOutput : frame input ≠ vectorOutput := by
      intro same
      have length := frame_take bound
      rw [same] at length
      have large : 2 ^ 31 ≤ bigEndianValue (vectorOutput.take 8) := by decide
      omega
    refine ⟨frame input, if_neg isVector, length_frame input, ?_⟩
    have notVector : ¬(padding = false ∧ key = vectorKey ∧ frame input = vectorOutput) :=
      fun isOutput => notOutput isOutput.2.2
    exact (if_neg notVector).trans (congrArg some (unframe_frame bound))

theorem pkcs8Specified_vector : Pkcs8Specified .vector := by
  rintro key _ ⟨⟩
  exact ⟨key, rfl, rfl⟩

/-- An AES key of 128 bits with the given bytes. -/
def chosenKey (label : UInt8) (bytes : Nat → UInt8) : Call × Oracle :=
  (.generateKey 1 (some ⟨ckmAesKeyGen, .null 0⟩)
      (.entries [⟨ckaLabel, .bytes [label]⟩, ⟨ckaValueLen, .bytes (ulongBytes 16)⟩]) true,
    { Oracle.plain with randomBytes := fun _ => some bytes })

/-- A state with the key of the vector and its input as a second key. -/
def vectorState : State :=
  Runs.final (step .vector) (.loaded ⟨∅, ∅⟩)
    (plainRun [.cInitialize false, .openSession 1 6 true] ++
      [chosenKey 75 fun index => UInt8.ofNat index,
        chosenKey 80 fun index => UInt8.ofNat (17 * index)])

theorem wrap_round_trip_vector :
    ∃ key, vectorState.findObject 1 2 = some key ∧
      ∃ wrapped, WrapRoundTrip .vector vectorState 1 1 2 false key vectorInput wrapped := by
  have first : ∃ object, vectorState.findObject 1 1 = some object ∧
      object.secretValue = vectorKey ∧ object.keyType = ckkAes ∧
      policyValue object ckaWrap = true ∧ policyValue object ckaUnwrap = true := by
    decide
  have second : ∃ object, vectorState.findObject 1 2 = some object ∧
      object.objectClass = ckoSecretKey ∧ object.secretValue = vectorInput ∧
      policyValue object ckaExtractable = true := by
    decide
  have access : vectorState.requireUserLogin 1 = .ok () := rfl
  rcases first with ⟨wrappingKey, wrappingFound, wrappingValue, isAes, wraps, unwraps⟩
  rcases second with ⟨key, found, isSecret, value, extractable⟩
  have wrappable : Wrappable .vector vectorState 1 1 2 wrappingKey key vectorInput :=
    ⟨wrappingFound, found, access, isAes, by rw [wrappingValue]; decide, wraps, unwraps,
    extractable,
      .secret isSecret value (by decide)⟩
  have trip := wrap_round_trip .vector keyWrapSpecified_vector pkcs8Specified_vector vectorState
    ⟨_, _, rfl⟩ 1 1 2 wrappingKey key vectorInput wrappable false
  exact ⟨key, found, trip.1 (by decide)⟩

/-- The longest encoding that is wrapped. -/
def vastEncoding : Bytes := List.replicate (2 ^ 31 - 17) 48

theorem length_vastEncoding : vastEncoding.length = 2 ^ 31 - 17 :=
  List.length_replicate

/-- A host with one private key, of the longest encoding. -/
def Host.vast : Host :=
  { Host.plain with
    openSsl := { OpenSsl.vector with
      encodePkcs8 := fun _ => some vastEncoding
      decodePkcs8 := fun _ => some ⟨[]⟩ } }

/-- A state with an AES key and a session key pair. -/
def vastState : State :=
  Runs.final (step .vast) (.loaded ⟨∅, ∅⟩)
    (plainRun [.cInitialize false, .openSession 1 6 true, aesKey 1, sessionPair 1])

/-- A template for a private key of the session. -/
def sessionPrivateKey : Template :=
  .entries [⟨ckaClass, .bytes (ulongBytes ckoPrivateKey)⟩, ⟨ckaToken, .bytes [0]⟩]

theorem vast_wrappable : ∃ wrappingKey key,
    Wrappable .vast vastState 1 1 2 wrappingKey key vastEncoding ∧
      key.objectClass = ckoPrivateKey := by
  have first : ∃ object, vastState.findObject 1 1 = some object ∧
      isAesKeyLength object.secretValue.length = true ∧ object.keyType = ckkAes ∧
      policyValue object ckaWrap = true ∧ policyValue object ckaUnwrap = true := by
    decide
  have second : ∃ object, vastState.findObject 1 2 = some object ∧
      object.objectClass = ckoPrivateKey ∧ object.asymmetricKey.isSome = true ∧
      policyValue object ckaExtractable = true := by
    decide
  have access : vastState.requireUserLogin 1 = .ok () := rfl
  rcases first with ⟨wrappingKey, wrappingFound, length, isAes, wraps, unwraps⟩
  rcases second with ⟨key, found, isPrivate, isKey, extractable⟩
  rcases Option.isSome_iff_exists.mp isKey with ⟨privateKey, isKey⟩
  refine ⟨wrappingKey, key, ⟨wrappingFound, found, access, isAes, length, wraps, unwraps,
    extractable, .pair isPrivate isKey rfl ?_ ?_⟩, isPrivate⟩
  · rw [length_vastEncoding]
    decide
  · rw [length_vastEncoding]
    decide

/-- A template for the class of the key, on a session that may, without faults. -/
theorem vast_unwrappable {key : Object} (isPrivate : key.objectClass = ckoPrivateKey) :
    Unwrappable .vast .plain vastState 1 key vastEncoding sessionPrivateKey := by
  have notToken : isTokenTemplate sessionPrivateKey true ≠ true := by decide
  have noKeyType : templateUnsigned sessionPrivateKey ckaKeyType = none := by decide
  refine ⟨⟨fun _ => rfl, fun _ => rfl, fun _ => rfl⟩, ⟨rfl, rfl, rfl⟩, ⟨rfl, ?_, ?_, ?_⟩, ?_,
    fun _ => ⟨?_, ?_, ?_, ?_⟩⟩
  · rw [isPrivate]
    decide
  · exact fun isToken => (notToken isToken).elim
  · exact fun isToken => (notToken isToken).elim
  · intro isSecret
    rw [isPrivate] at isSecret
    contradiction
  · intro decoded _
    rw [noKeyType]
    rfl
  · intro decoded _
    exact Option.some_ne_none decoded
  · intro slot _
    have name : (asymmetricKeyPath slot (unwrappedLabel sessionPrivateKey)).filename =
        safeFilename (unwrappedLabel sessionPrivateKey) ++ ascii ".p12" := by
      simp [asymmetricKeyPath, Path.filename, Path.child]
    rw [name]
    exact ⟨_, rfl, fun isToken => (notToken isToken).elim⟩
  · exact fun isToken => (notToken isToken).elim

/-- The longest encoding is wrapped with padding, and its wrapped bytes are refused. -/
theorem wrapped_beyond_bound :
    KeyWrapSpecified Host.vast.openSsl ∧ Pkcs8Specified Host.vast.openSsl ∧
      Reachable .vast vastState ∧ ∃ wrappingKey key wrapped,
        Wrappable .vast vastState 1 1 2 wrappingKey key vastEncoding ∧
        Unwrappable .vast .plain vastState 1 key vastEncoding sessionPrivateKey ∧
        step .vast vastState (.wrapKey 1 (wrapMechanism true) 1 2 ⟨true, wrapped.length⟩ true,
          .plain) = (vastState, ⟨.ok, .buffer wrapped.length (some wrapped), none⟩) ∧
        ¬ComesBack .vast .plain vastState 1 1 true key wrapped sessionPrivateKey := by
  have reachable : Reachable .vast vastState := ⟨_, _, rfl⟩
  have keyWrap : KeyWrapSpecified Host.vast.openSsl := keyWrapSpecified_vector
  have pkcs8 : Pkcs8Specified Host.vast.openSsl := by
    rintro key _ ⟨⟩
    exact ⟨⟨[]⟩, rfl, rfl⟩
  have wellFormed := reachable.wellFormed
  have cipher : Oracle.plain.CipherWorks := ⟨rfl, rfl, rfl⟩
  rcases vast_wrappable with ⟨wrappingKey, key, wrappable, isPrivate⟩
  have fits : WrapsLength true vastEncoding.length := by
    rw [length_vastEncoding]
    decide
  rcases keyWrap true wrappingKey.secretValue vastEncoding wrappable.length fits
    (by rw [length_vastEncoding]; decide) with ⟨wrapped, isWrapped, length, _⟩
  have long : intMax - 16 < wrapped.length := by
    rw [length, length_vastEncoding]
    unfold intMax semiblocks
    omega
  refine ⟨keyWrap, pkcs8, reachable, wrappingKey, key, wrapped, wrappable,
    vast_unwrappable isPrivate, ?_, ?_⟩
  · rw [wrappable.step_wrapKey_fits wellFormed cipher fits isWrapped length]
    simp
  · rintro ⟨next, handle, object, stepped, _⟩
    rw [wrappable.step_unwrapKey wellFormed, unwrapKey,
      wrappable.unwrappedBytes_tooLong (vast_unwrappable isPrivate).template.valid long] at stepped
    have same : Rv.dataLenRange = Rv.ok := congrArg (fun result => result.2.rv) stepped
    exact absurd same (by decide)

end HsmSimulator
