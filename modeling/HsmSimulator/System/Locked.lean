import HsmSimulator.Pkcs11.DefaultIds
import HsmSimulator.Pkcs11.Protections
import HsmSimulator.Pkcs11.SignatureCalls

/-!
# Locked keys

A key that may not be modified keeps its label, its id and its policies wherever it is
registered later, and is refused every use that they forbid.  One that may not be destroyed
either keeps its file, as every load of the file registers it again and so brings its veto
back.
-/

namespace HsmSimulator

open Checks FileSystem

/-- The key of the operation a session has under way. -/
def State.operationKeys (state : State) (sessionHandle : Nat) : List Nat :=
  ((state.findSession sessionHandle).map fun session => session.operation.keyHandle).toList

/-- The policies a call asks for, each with the handle of the object that has to allow it.
The end of an operation asks for them again. -/
def Call.usages (state : State) : Call → List (Nat × Nat)
  | .setAttributeValue _ handle _ => [(ckaModifiable, handle)]
  | .destroyObject _ handle => [(ckaDestroyable, handle)]
  | .signInit _ _ handle => [(ckaSign, handle)]
  | .sign sessionHandle _ _ _ => (state.operationKeys sessionHandle).map (Prod.mk ckaSign)
  | .signFinal sessionHandle _ _ => (state.operationKeys sessionHandle).map (Prod.mk ckaSign)
  | .verifyInit _ _ handle => [(ckaVerify, handle)]
  | .verify sessionHandle _ _ => (state.operationKeys sessionHandle).map (Prod.mk ckaVerify)
  | .verifyFinal sessionHandle _ => (state.operationKeys sessionHandle).map (Prod.mk ckaVerify)
  | .wrapKey _ _ wrappingHandle handle _ _ => [(ckaWrap, wrappingHandle), (ckaExtractable, handle)]
  | .unwrapKey _ _ wrappingHandle _ _ _ => [(ckaUnwrap, wrappingHandle)]
  | .deriveKey _ _ baseKey _ _ => [(ckaDerive, baseKey)]
  | _ => []

/-- Every use of the object that the policies of the record forbid is refused. -/
def UsesRefused (host : Host) (record : Metadata.Attributes) (state : State) (handle : Nat) :
    Prop :=
  ∀ (call : Call) (oracle : Oracle) (type : Nat), (type, handle) ∈ call.usages state →
    record.policy.get? type = some false → (step host state (call, oracle)).2.rv ≠ .ok

/-- Where it is found, the object has the label, the id and the policies it had, and they are
enforced; where it is stored, its metadata reads so. -/
def LockedAt (host : Host) (object : Object) (state : State) : Whereabouts → Prop
  | .registered handle => ∃ kept, state.objects.get? handle = some kept ∧
      kept.objectClass = object.objectClass ∧ kept.record = object.record ∧
      UsesRefused host object.record state handle
  | .stored path objectClass => path = object.path ∧ objectClass = object.objectClass ∧
      MetadataSays state.disk path objectClass fun record => record = object.record

/-- Secret keys have the key files that are loaded as such, the other objects have not. -/
def StoredByKind (state : State) : Prop :=
  ∀ handle object, state.objects.get? handle = some object → object.ownerSession = 0 →
    (IsSymmetric object.path ↔ object.objectClass = ckoSecretKey)

/-- A call that opens the module and loads the key file registers an object of the class. -/
def LoadedAgain (host : Host) (object : Object) (state : State) (input : Call × Oracle) : Prop :=
  state.initialized = false → (step host state input).1.initialized = true →
    (step host state input).1.registers object.path = true →
    (step host state input).1.tokenHandles object.path object.objectClass ≠ []

/-- The key file has this content, and the object is still one of its objects. -/
def Filed (path : Path) (content : Bytes) (state : State) : Whereabouts → Prop
  | .registered handle => state.disk.content path = some content ∧
      ∃ object, FileObject state.objects path handle object
  | .stored _ _ => state.disk.content path = some content

section

variable {host : Host} {oracle : Oracle} {state : State} {handle : Nat} {object : Object}

/-! ## Uses -/

/-- A policy that is false where it is true by default was set. -/
theorem policy_of_false {type : Nat} (isFalse : policyValue object type = false)
    (byDefault : policyDefault object.objectClass object.keyType type = true) :
    object.policy.get? type = some false := by
  unfold policyValue at isFalse
  cases stored : object.policy.get? type with
  | none =>
      rw [stored, Option.getD_none, byDefault] at isFalse
      contradiction
  | some value =>
      rw [stored, Option.getD_some] at isFalse
      rw [isFalse]

theorem policy_of_signatureKey {sessionHandle : Nat} {operation : Operation} {verify : Bool}
    {key : EvpKey}
    (passes : signatureKey state sessionHandle operation verify = .ok (object, key)) :
    ∃ used, state.objects.get? operation.keyHandle = some used ∧
      policyValue used (if verify then ckaVerify else ckaSign) = true := by
  simp only [signatureKey, bind_eq_ok_iff, fetch_eq_ok_iff, require_eq_ok_iff] at passes
  obtain ⟨used, found, _, _, _, _, _, allowed, _⟩ := passes
  obtain ⟨_, _, stored, _⟩ := State.findObject_eq_some_iff.mp found
  exact ⟨used, stored, allowed⟩

/-- A signature, also the query of its size, is allowed by the key when it is made. -/
theorem policy_of_executeSign {sessionHandle : Nat} {operation : Operation} {data : Bytes}
    {signature : OutputBuffer}
    (succeeds : (executeSign host oracle state sessionHandle operation data signature).rv = .ok) :
    ∃ used, state.objects.get? operation.keyHandle = some used ∧
      policyValue used ckaSign = true := by
  unfold executeSign at succeeds
  split at succeeds
  · rename_i code fails
    have isError : code = .ok := succeeds
    subst isError
    exact (signatureKey_ne_ok fails).elim
  · rename_i passes
    exact policy_of_signatureKey passes

theorem policy_of_executeVerify {sessionHandle : Nat} {operation : Operation} {data : Bytes}
    {signature : Buffer}
    (succeeds : (executeVerify host oracle state sessionHandle operation data signature).rv =
      .ok) :
    ∃ used, state.objects.get? operation.keyHandle = some used ∧
      policyValue used ckaVerify = true := by
  unfold executeVerify at succeeds
  split at succeeds
  · rename_i code fails
    have isError : code = .ok := succeeds
    subst isError
    exact (verification_ne_ok fails).elim
  · rename_i passes
    simp only [verification, bind_eq_ok_iff] at passes
    obtain ⟨⟨used, key⟩, found, _⟩ := passes
    exact policy_of_signatureKey found

/-- Every call that succeeds was allowed by the policies of the objects it uses. -/
theorem policy_of_usage (isOpen : state.initialized = true) {call : Call} {type : Nat}
    (uses : (type, handle) ∈ call.usages state)
    (succeeds : (step host state (call, oracle)).2.rv = .ok) :
    ∃ used, state.objects.get? handle = some used ∧ policyValue used type = true := by
  have stored {sessionHandle target : Nat} {used : Object}
      (found : state.findObject sessionHandle target = some used) :
      state.objects.get? target = some used := by
    obtain ⟨_, _, isStored, _⟩ := State.findObject_eq_some_iff.mp found
    exact isStored
  have initialized {sessionHandle target : Nat} {mechanism : Option Mechanism} (verify : Bool)
      (succeeds : (initializeSignature host state sessionHandle mechanism target verify).2.rv =
        .ok) : ∃ used, state.objects.get? target = some used ∧
          policyValue used (if verify then ckaVerify else ckaSign) = true := by
    unfold initializeSignature at succeeds
    split at succeeds
    · rename_i code fails
      have isError : code = .ok := succeeds
      subst isError
      exact (signatureOperation_ne_ok _ _ _ _ _ _ fails).elim
    · rename_i session operation passes
      simp only [signatureOperation, bind_eq_ok_iff, fetch_eq_ok_iff, require_eq_ok_iff] at passes
      obtain ⟨_, _, _, _, _, _, used, found, _, _, _, _, _, _, _, _, _, _, _, allowed, _⟩ := passes
      exact ⟨used, stored found, allowed⟩
  have completed {sessionHandle policy : Nat} {session : Session}
      (found : state.findSession sessionHandle = some session)
      (uses : (type, handle) ∈ (state.operationKeys sessionHandle).map (Prod.mk policy))
      (allowed : ∃ used, state.objects.get? session.operation.keyHandle = some used ∧
        policyValue used policy = true) :
      ∃ used, state.objects.get? handle = some used ∧ policyValue used type = true := by
    simp only [State.operationKeys, found, Option.map_some, Option.toList_some, List.map_cons,
      List.map_nil, List.mem_singleton, Prod.mk.injEq] at uses
    obtain ⟨rfl, rfl⟩ := uses
    exact allowed
  rw [step_of_open isOpen] at succeeds
  cases call with
  | setAttributeValue sessionHandle target attributes =>
      simp only [Call.usages, List.mem_singleton, Prod.mk.injEq] at uses
      obtain ⟨rfl, rfl⟩ := uses
      change (setAttributeValue state oracle sessionHandle handle attributes).2.rv = .ok at succeeds
      unfold setAttributeValue at succeeds
      split at succeeds
      · rename_i code fails
        have isError : code = .ok := succeeds
        subst isError
        exact (changedObject_ne_ok _ _ _ _ fails).elim
      · rename_i changed passes
        obtain ⟨used, change⟩ := changedObject_eq_ok passes
        exact ⟨used, stored change.found, change.modifiable⟩
  | destroyObject sessionHandle target =>
      simp only [Call.usages, List.mem_singleton, Prod.mk.injEq] at uses
      obtain ⟨rfl, rfl⟩ := uses
      change (destroyObject state oracle sessionHandle handle).2.rv = .ok at succeeds
      unfold destroyObject at succeeds
      split at succeeds
      · rename_i code fails
        have isError : code = .ok := succeeds
        subst isError
        simp [destroyableObject, bind_eq_error_iff, alterableObject_ne_ok] at fails
      · rename_i used passes
        have destruction := destroyableObject_eq_ok passes
        exact ⟨used, stored destruction.found, destruction.destroyable⟩
  | signInit sessionHandle mechanism target =>
      simp only [Call.usages, List.mem_singleton, Prod.mk.injEq] at uses
      obtain ⟨rfl, rfl⟩ := uses
      exact initialized false succeeds
  | sign sessionHandle data signature hasLength =>
      change (sign host oracle state sessionHandle data signature hasLength).2.rv = .ok at succeeds
      unfold sign at succeeds
      split at succeeds
      · rename_i code fails
        have isError : code = .ok := succeeds
        subst isError
        simp [bind_eq_error_iff, signingSession_ne_ok] at fails
      · rename_i session passes
        simp only [bind_eq_ok_iff, pure_eq_ok, Except.ok.injEq] at passes
        obtain ⟨_, found, _, _, rfl⟩ := passes
        rw [completeSign_response] at succeeds
        exact completed (signingSession_eq_ok found).1 uses (policy_of_executeSign succeeds)
  | signFinal sessionHandle signature hasLength =>
      change (signFinal host oracle state sessionHandle signature hasLength).2.rv = .ok at succeeds
      unfold signFinal at succeeds
      split at succeeds
      · rename_i code fails
        have isError : code = .ok := succeeds
        subst isError
        simp [bind_eq_error_iff, signingSession_ne_ok] at fails
      · rename_i session passes
        simp only [bind_eq_ok_iff, pure_eq_ok, Except.ok.injEq] at passes
        obtain ⟨_, found, _, _, rfl⟩ := passes
        rw [completeSign_response] at succeeds
        exact completed (signingSession_eq_ok found).1 uses (policy_of_executeSign succeeds)
  | verifyInit sessionHandle mechanism target =>
      simp only [Call.usages, List.mem_singleton, Prod.mk.injEq] at uses
      obtain ⟨rfl, rfl⟩ := uses
      exact initialized true succeeds
  | verify sessionHandle data signature =>
      change (verify host oracle state sessionHandle data signature).2.rv = .ok at succeeds
      unfold verify at succeeds
      split at succeeds
      · rename_i code fails
        have isError : code = .ok := succeeds
        subst isError
        simp [bind_eq_error_iff, signingSession_ne_ok] at fails
      · rename_i session passes
        simp only [bind_eq_ok_iff, pure_eq_ok, Except.ok.injEq] at passes
        obtain ⟨_, found, _, _, rfl⟩ := passes
        exact completed (signingSession_eq_ok found).1 uses (policy_of_executeVerify succeeds)
  | verifyFinal sessionHandle signature =>
      change (verifyFinal host oracle state sessionHandle signature).2.rv = .ok at succeeds
      unfold verifyFinal at succeeds
      split at succeeds
      · rename_i code fails
        have isError : code = .ok := succeeds
        subst isError
        simp [bind_eq_error_iff, signingSession_ne_ok] at fails
      · rename_i session passes
        simp only [bind_eq_ok_iff, pure_eq_ok, Except.ok.injEq] at passes
        obtain ⟨_, found, _, _, rfl⟩ := passes
        exact completed (signingSession_eq_ok found).1 uses (policy_of_executeVerify succeeds)
  | wrapKey sessionHandle mechanism wrappingHandle target output hasLength =>
      change (wrapKey host oracle state sessionHandle mechanism wrappingHandle target output
        hasLength).rv = .ok at succeeds
      unfold wrapKey at succeeds
      split at succeeds
      · rename_i code fails
        have isError : code = .ok := succeeds
        subst isError
        simp [wrapInput, bind_eq_error_iff, requireUserLogin_ne_ok] at fails
      · rename_i wrappingKey raw passes
        simp only [wrapInput, bind_eq_ok_iff, fetch_eq_ok_iff, require_eq_ok_iff, pure_eq_ok,
          Except.ok.injEq, Prod.mk.injEq] at passes
        obtain ⟨_, _, _, _, wrapping, isWrapping, key, isKey, _, _, _, mayWrap, _, extractable,
          _⟩ := passes
        simp only [Call.usages, List.mem_cons, List.not_mem_nil, or_false, Prod.mk.injEq] at uses
        obtain ⟨rfl, rfl⟩ | ⟨rfl, rfl⟩ := uses
        · exact ⟨wrapping, stored isWrapping, mayWrap⟩
        · exact ⟨key, stored isKey, extractable⟩
  | unwrapKey sessionHandle mechanism wrappingHandle input attributes hasHandle =>
      simp only [Call.usages, List.mem_singleton, Prod.mk.injEq] at uses
      obtain ⟨rfl, rfl⟩ := uses
      change (unwrapKey host oracle state sessionHandle mechanism handle input attributes
        hasHandle).2.rv = .ok at succeeds
      unfold unwrapKey at succeeds
      split at succeeds
      · rename_i code fails
        have isError : code = .ok := succeeds
        subst isError
        exact (unwrappedBytes_ne_ok _ _ _ _ _ _ _ _ _ fails).elim
      · rename_i raw passes
        simp only [unwrappedBytes, bind_eq_ok_iff, fetch_eq_ok_iff, require_eq_ok_iff] at passes
        obtain ⟨_, _, _, _, wrapping, isWrapping, _, _, _, mayUnwrap, _⟩ := passes
        exact ⟨wrapping, stored isWrapping, mayUnwrap⟩
  | deriveKey sessionHandle mechanism baseKey attributes hasHandle =>
      simp only [Call.usages, List.mem_singleton, Prod.mk.injEq] at uses
      obtain ⟨rfl, rfl⟩ := uses
      change (deriveKey host oracle state sessionHandle mechanism handle attributes
        hasHandle).2.rv = .ok at succeeds
      unfold deriveKey at succeeds
      split at succeeds
      · rename_i code fails
        have isError : code = .ok := succeeds
        subst isError
        exact (derivation_ne_ok _ _ _ _ _ _ _ _ fails).elim
      · rename_i session slot value passes
        simp only [derivation, derivationMaster, bind_eq_ok_iff, fetch_eq_ok_iff,
          require_eq_ok_iff] at passes
        obtain ⟨_, _, _, _, _, _, _, _, _, ⟨master, isMaster, _, _, _, mayDerive, _⟩, _⟩ := passes
        exact ⟨master, stored isMaster, mayDerive⟩
  | _ => simp [Call.usages] at uses

theorem usesRefused_of_record (wellFormed : WellFormed state)
    (found : state.objects.get? handle = some object) :
    UsesRefused host object.record state handle := by
  intro call oracle type uses forbidden succeeds
  obtain ⟨used, usedFound, allowed⟩ :=
    policy_of_usage (wellFormed.initialized_of_object found) uses succeeds
  rw [found] at usedFound
  cases usedFound
  have isFalse : object.policy.get? type = some false := forbidden
  rw [policyValue, isFalse, Option.getD_some] at allowed
  contradiction

/-! ## The record -/

/-- One call keeps the record of a key that may not be modified. -/
theorem record_step {place after : Whereabouts} {input : Call × Oracle}
    {record : Metadata.Attributes} {objectClass : Nat} {named : Path → Prop}
    (order : TokenOrder state) (whole : SessionPairsWhole host state input)
    (locked : record.policy.get? ckaModifiable = some false)
    (held : Held objectClass named (fun kept => kept = record) state place)
    (followed : follow host (some place) state input = some after) :
    Held objectClass named (fun kept => kept = record) (step host state input).1 after := by
  have next := order.step input whole
  refine held.step order.wellFormed next.words next.few ?_ (fun path _ => whole.noHalfAt path)
    followed
  intro handle object changed _ found changedFound isRecord
  have effect : Effect host input.2 state input.1 (step host state input) :=
    step_effect order.wellFormed input.1
  obtain same | ⟨_, _, old, _, _, change⟩ | fresh :=
    effect.objectOrigin order.wellFormed (order.wellFormed.initialized_of_object found) changedFound
  · rw [found] at same
    cases same
    exact isRecord
  · -- only modifiable objects are changed
    obtain ⟨_, _, oldFound, _⟩ := State.findObject_eq_some_iff.mp change.found
    rw [found] at oldFound
    cases oldFound
    have isFalse : object.policy.get? ckaModifiable = some false := by
      rw [← isRecord] at locked
      exact locked
    have modifiable := change.modifiable
    rw [policyValue, isFalse] at modifiable
    contradiction
  · have below := (order.wellFormed.objectKey handle object found).2.2
    omega

/-! ## Kinds of key files -/

/-- A container that holds an object holds a private key, and no secret key. -/
theorem asymmetricObjects_kind {half : EvpKey → Option EvpKey} {slot : Slot} {path : Path}
    {content : Bytes} {raw : Object}
    (member : raw ∈ asymmetricObjects host half slot path content) :
    ¬IsSymmetric path ∧ raw.objectClass ≠ ckoSecretKey ∧
      ∃ key ∈ asymmetricObjects host half slot path content,
        key.objectClass = ckoPrivateKey := by
  unfold asymmetricObjects at member ⊢
  split at member
  · contradiction
  · rename_i isContainer
    have notSymmetric : ¬IsSymmetric path := by
      intro symmetric
      rw [IsSymmetric] at symmetric
      rw [symmetric] at isContainer
      exact isContainer (by decide)
    rw [if_neg isContainer]
    split at member
    · contradiction
    · rename_i nonempty
      rw [if_neg nonempty]
      split at member
      · refine ⟨notSymmetric, ?_, _, List.mem_cons_self, rfl⟩
        simp only [pairObjects, List.mem_cons, List.mem_append, List.mem_map] at member
        obtain rfl | ⟨_, _, rfl⟩ | ⟨_, _, rfl⟩ := member
        · exact show ckoPrivateKey ≠ ckoSecretKey by decide
        · exact show ckoPublicKey ≠ ckoSecretKey by decide
        · exact show ckoCertificate ≠ ckoSecretKey by decide
      · contradiction

/-- A key file of the symmetric directory holds a secret key. -/
theorem symmetricObjects_kind {slotId : Nat} {path : Path} {content : Bytes} {raw : Object}
    (member : raw ∈ symmetricObjects host slotId path content) :
    IsSymmetric path ∧ raw.objectClass = ckoSecretKey := by
  unfold symmetricObjects at member
  split at member
  · contradiction
  · rename_i isKey
    split at member
    · contradiction
    · split at member
      · rw [List.mem_singleton] at member
        subst member
        exact ⟨not_not.mp isKey, rfl⟩
      · contradiction

/-- A key file that holds an object holds a key of its kind. -/
theorem fileObjects_kind {half : EvpKey → Option EvpKey} {slot : Slot} {path : Path}
    {content : Bytes} {raw : Object} (member : raw ∈ fileObjects host half slot path content) :
    (IsSymmetric path ↔ raw.objectClass = ckoSecretKey) ∧
      ∃ key ∈ fileObjects host half slot path content,
        key.objectClass =
          if raw.objectClass = ckoSecretKey then ckoSecretKey else ckoPrivateKey := by
  unfold fileObjects at member ⊢
  split at member
  · rename_i parent
    obtain ⟨notSymmetric, notSecret, key⟩ := asymmetricObjects_kind member
    rw [if_pos parent, if_neg notSecret]
    exact ⟨iff_of_false notSymmetric notSecret, key⟩
  · rename_i notAsymmetric
    rw [if_neg notAsymmetric]
    split at member
    · rename_i parent
      obtain ⟨symmetric, isSecret⟩ := symmetricObjects_kind member
      rw [if_pos parent, if_pos isSecret]
      exact ⟨iff_of_true symmetric isSecret, raw, member, isSecret⟩
    · contradiction

/-- The key file of a secret key that is created is one of a secret key. -/
theorem newKey_symmetric {call : Call} {new : NewKey}
    (isNew : call.newKey host oracle state = some new) (isSecret : new.key = none)
    (token : new.token = true) : IsSymmetric new.path := by
  have onSession : ∃ sessionHandle, call.session? = some sessionHandle := by
    unfold Call.newKey at isNew
    split at isNew
    · obtain ⟨slot, found, _⟩ := Option.map_eq_some_iff.mp isNew
      obtain ⟨sessionHandle, isSession, _⟩ := Option.bind_eq_some_iff.mp found
      exact ⟨sessionHandle, isSession⟩
    · obtain ⟨request, _, rfl⟩ := Option.map_eq_some_iff.mp isNew
      contradiction
  obtain ⟨sessionHandle, isSession⟩ := onSession
  obtain ⟨label, named⟩ := Call.newKey_named isSession isNew token
  rw [named.path, if_pos isSecret]
  exact isSymmetric_symmetricKeyPath _ _

theorem NewKey.MadeBy.storedByKind {call : Call} {sessionHandle : Nat} {session : Session}
    {slot : Slot} {new : NewKey} (isNew : call.newKey host oracle state = some new)
    (made : new.MadeBy host oracle call sessionHandle session slot) (token : new.token = true)
    (member : object ∈ new.objects) :
    IsSymmetric object.path ↔ object.objectClass = ckoSecretKey := by
  rw [(made.tokenObjects token object member).2]
  cases made.encodes token with
  | secret secret isSecret only core _ _ =>
      rw [only, List.mem_singleton] at member
      subst member
      simp only [newKey_symmetric isNew isSecret token, true_iff]
      exact objectClass_eq_of_core core
  | pair key label isKey _ both =>
      obtain ⟨publicKey, _, cores⟩ := both (List.ne_nil_of_mem member)
      have isCore : object.core ∈ new.objects.map Object.core := List.mem_map_of_mem member
      simp only [cores, List.mem_cons, List.not_mem_nil, or_false] at isCore
      simp only [newKey_not_symmetric isNew (by simp [isKey]), false_iff]
      obtain isPrivate | isPublic := isCore
      · rw [objectClass_eq_of_core isPrivate]
        exact show ckoPrivateKey ≠ ckoSecretKey by decide
      · rw [objectClass_eq_of_core isPublic]
        exact show ckoPublicKey ≠ ckoSecretKey by decide

/-- A creation stores keys by their kind. -/
theorem StoredByKind.creation {call : Call} {sessionHandle : Nat} {session : Session}
    {slot : Slot} {new : NewKey} {result : State × Response} (wellFormed : WellFormed state)
    (kinds : StoredByKind state) (isNew : call.newKey host oracle state = some new)
    (guard : CreationGuard state sessionHandle session slot new.token)
    (made : new.MadeBy host oracle call sessionHandle session slot)
    (creation : Creation host oracle state new result) : StoredByKind result.1 := by
  have registered {next : OrderedMap Nat Object} (isNext : next = registerAll state.objects
      new.objects) {handle : Nat} {object : Object} (found : next.get? handle = some object)
      (isNewKind : object ∈ new.objects → object.ownerSession = 0 →
        (IsSymmetric object.path ↔ object.objectClass = ckoSecretKey))
      (token : object.ownerSession = 0) :
      IsSymmetric object.path ↔ object.objectClass = ckoSecretKey := by
    rw [isNext] at found
    obtain ⟨isNewObject, _⟩ | ⟨_, old⟩ := (get?_registerAll made.distinct handle object).mp found
    · exact isNewKind isNewObject token
    · exact kinds handle object old token
  intro handle object found token
  cases creation with
  | refused _ _ => exact kinds handle object found token
  | broken _ _ _ _ _ => exact kinds handle object found token
  | withdrawn _ _ _ _ _ =>
      exact kinds handle object (OrderedMap.get?_eraseIf_eq_some_iff.mp found).1 token
  | created isToken _ _ _ _ _ _ _ _ _ =>
      exact registered rfl found (fun isNewObject _ => made.storedByKind isNew isToken isNewObject)
        token
  | kept noToken _ _ _ =>
      refine registered rfl found (fun isNewObject isToken => ?_) token
      rw [(made.sessionObjects noToken object isNewObject).1] at isToken
      exact (wellFormed.sessionHandle_ne_zero guard.sessionFound isToken).elim
  | @half key half _ isKey _ _ _ _ samePath isPrivate _ _ _ =>
      dsimp only at found
      rw [OrderedMap.get?_insert] at found
      split at found
      · cases found
        rw [samePath, isPrivate]
        simp only [newKey_not_symmetric isNew (by simp [isKey]), false_iff]
        exact show ckoPrivateKey ≠ ckoSecretKey by decide
      · exact kinds handle object found token

theorem StoredByKind.initialization {result : State × Response}
    (initialization : Initialization host oracle state result) : StoredByKind result.1 := by
  intro handle object found _
  cases initialization with
  | failed _ _ objects _ _ _ _ _ =>
      rw [objects] at found
      contradiction
  | succeeded _ _ loaded =>
      obtain ⟨index, raw, listed, rfl, rfl⟩ := (loaded.objects handle object).mp found
      obtain ⟨slot, _, path, content, _, member⟩ :=
        mem_tokenObjects.mp (List.mem_of_getElem? listed)
      rw [(withMetadata_core _ _).1, (withMetadata_core _ _).2.2.2.1]
      change IsSymmetric raw.path ↔ raw.objectClass = ckoSecretKey
      rw [(fileObjects_raw member).1.path]
      exact (fileObjects_kind member).1

theorem StoredByKind.step (wellFormed : WellFormed state) (kinds : StoredByKind state)
    (input : Call × Oracle) : StoredByKind (HsmSimulator.step host state input).1 := by
  obtain ⟨call, oracle⟩ := input
  have nextWellFormed := @WellFormed.step host state wellFormed (call, oracle)
  have effect := @step_token host oracle state wellFormed call
  have closing := @step_closed_cases host oracle state
  generalize isResult : HsmSimulator.step host state (call, oracle) = result at *
  by_cases stays : state.initialized = true
  · intro handle object found token
    have opened := nextWellFormed.initialized_of_object found
    obtain ⟨_, _, slot, _, keyPath⟩ := nextWellFormed.tokenObject handle object found token
    cases effect.at wellFormed keyPath stays opened with
    | same unchanged =>
        have isObject := (unchanged.objects handle object).mp ⟨found, token, rfl⟩
        exact kinds handle object isObject.found token
    | altered _ change _ _ _ isNext =>
        rw [isNext] at found
        obtain ⟨old, wasObject, core, _⟩ := change.origin ⟨found, token, rfl⟩
        rw [← wasObject.samePath, objectClass_eq_of_core core]
        exact kinds handle old wasObject.found wasObject.token
    | emptied _ none _ _ => exact (none handle object ⟨found, token, rfl⟩).elim
    | created isNew _ guard made creation =>
        exact kinds.creation wellFormed isNew guard made creation handle object found token
  · obtain ⟨same, _⟩ | ⟨_, initialization⟩ := closing (by simpa using stays) call
    · rw [isResult] at same
      rw [same]
      exact kinds
    · rw [isResult] at initialization
      exact StoredByKind.initialization initialization

/-! ## The file -/

/-- A key file that is gone after a call on an open module was destroyed. -/
theorem destruction_of_gone {call : Call} {directory path : Path} {content : Bytes}
    (wellFormed : WellFormed state) (keyPath : IsKeyPath directory path)
    (isOpen : state.initialized = true) (file : state.disk.content path = some content)
    (changed : (step host state (call, oracle)).1.disk.content path ≠ some content) :
    ∃ sessionHandle handle object, Destruction state sessionHandle handle object ∧
      object.ownerSession = 0 ∧ object.path = path := by
  have effect : TokenEffect host oracle state call (step host state (call, oracle)) :=
    step_token wellFormed call
  have created : call.creates = true →
      (step host state (call, oracle)).1.disk.content path = some content := by
    intro creates
    rw [step_of_open isOpen]
    exact service_keepsFiles host oracle state creates path content file
  generalize step host state (call, oracle) = result at effect changed created
  cases effect with
  | kept _ sameDisk =>
      rw [sameDisk, file] at changed
      exact (changed rfl).elim
  | pinWritten _ isPin _ written =>
      rw [written, content_writeFile, if_neg (keyPath.pin_ne (isPin.imp_right And.left)).1, file]
        at changed
      exact (changed rfl).elim
  | altered _ _ _ _ =>
      rw [content_writeFile, if_neg (keyPath.ne_metadata _), file] at changed
      exact (changed rfl).elim
  | metadataLeft _ _ _ =>
      rw [content_writeFile, if_neg (keyPath.ne_temporary _), file] at changed
      exact (changed rfl).elim
  | @destroyed sessionHandle handle object disk _ destruction token removed =>
      by_cases samePath : path = object.path
      · exact ⟨sessionHandle, handle, object, destruction, token, samePath.symm⟩
      · have agrees : AgreesOutside [object.path, Metadata.path object.path] state.disk disk :=
          keyFileRemoval_agrees removed (by simp) (by simp)
        dsimp only at changed
        rw [agrees.content path (by simp [samePath, keyPath.ne_metadata]), file] at changed
        exact (changed rfl).elim
  | creation creates _ _ _ _ _ => exact (changed (created creates)).elim
  | finalized => exact (changed file).elim
  | initializing closed _ =>
      rw [isOpen] at closed
      contradiction

/-- A key file stays where none of its objects may be destroyed. -/
theorem file_step {input : Call × Oracle} {directory path : Path} {content : Bytes}
    (wellFormed : WellFormed state) (keyPath : IsKeyPath directory path)
    (file : state.disk.content path = some content)
    (vetoed : ∀ sessionHandle handle object, Destruction state sessionHandle handle object →
      object.ownerSession = 0 → object.path ≠ path) :
    (step host state input).1.disk.content path = some content := by
  obtain ⟨call, oracle⟩ := input
  cases isOpen : state.initialized with
  | false =>
      obtain ⟨same, _⟩ | ⟨_, initialization⟩ := @step_closed_cases host oracle state isOpen call
      · rw [same]
        exact file
      · generalize HsmSimulator.step host state (call, oracle) = result at initialization ⊢
        cases initialization with
        | failed _ _ _ _ _ _ prepared _ => exact (prepared.content path).trans file
        | succeeded prepared _ loaded =>
            exact (loaded.prepared.content path).trans ((prepared.content path).trans file)
  | true =>
      by_contra changed
      obtain ⟨_, _, object, destruction, token, samePath⟩ :=
        destruction_of_gone wellFormed keyPath isOpen file changed
      exact vetoed _ _ object destruction token samePath

theorem Filed.file {place : Whereabouts} {path : Path} {content : Bytes}
    (filed : Filed path content state place) : state.disk.content path = some content := by
  cases place with
  | registered handle => exact filed.1
  | stored other objectClass => exact filed

/-- Where no object of the file may be destroyed, following one of them keeps the file. -/
theorem Filed.step {place after : Whereabouts} {input : Call × Oracle} {directory path : Path}
    {content : Bytes} (wellFormed : WellFormed state) (keyPath : IsKeyPath directory path)
    (filed : Filed path content state place)
    (named : ∀ other objectClass, place = .stored other objectClass → other = path)
    (vetoed : ∀ sessionHandle handle object, Destruction state sessionHandle handle object →
      object.ownerSession = 0 → object.path ≠ path)
    (followed : follow host (some place) state input = some after) :
    Filed path content (HsmSimulator.step host state input).1 after := by
  have later : (HsmSimulator.step host state input).1.disk.content path = some content :=
    file_step wellFormed keyPath filed.file vetoed
  unfold follow at followed
  cases place with
  | registered handle =>
      obtain ⟨_, object, isObject⟩ := filed
      have isOpen := wellFormed.initialized_of_object isObject.found
      have advance : ObjectsAdvance state (HsmSimulator.step host state input).1 :=
        (step_effect wellFormed input.1).objectsAdvance wellFormed isOpen
      dsimp only at followed
      split at followed
      · split at followed
        · rename_i isThere
          cases followed
          obtain ⟨changed, changedFound⟩ := Option.isSome_iff_exists.mp isThere
          obtain ⟨old, oldFound, same⟩ | fresh := advance.entered handle changed changedFound
          · rw [isObject.found] at oldFound
            cases oldFound
            exact ⟨later, changed, changedFound,
              (ownerSession_eq_of_core same.core).trans isObject.token,
              (path_eq_of_core same.core).trans isObject.samePath⟩
          · have below := (wellFormed.objectKey handle object isObject.found).2.2
            omega
        · contradiction
      · obtain ⟨_, _, isAfter⟩ := Option.bind_eq_some_iff.mp followed
        split at isAfter
        · cases isAfter
          exact later
        · contradiction
  | stored other objectClass =>
      have samePath := named other objectClass rfl
      subst samePath
      dsimp only at followed
      split at followed
      · split at followed
        · rename_i handle rest handles
          cases followed
          have member : handle ∈
              (HsmSimulator.step host state input).1.tokenHandles other objectClass := by
            rw [handles]
            exact List.mem_cons_self
          obtain ⟨object, isObject, _⟩ := mem_tokenHandles.mp member
          exact ⟨later, object, isObject⟩
        · split at followed
          · contradiction
          · cases followed
            exact later
      · cases followed
        exact later

/-- A key of the record that is held and filed vetoes the destruction of its file. -/
theorem Held.vetoes {record : Metadata.Attributes} {objectClass : Nat} {path : Path}
    {content : Bytes} {place : Whereabouts}
    (held : Held objectClass (fun other => other = path) (fun kept => kept = record) state place)
    (filed : Filed path content state place)
    (undestroyable : record.policy.get? ckaDestroyable = some false) (sessionHandle target : Nat)
    (victim : Object) (destruction : Destruction state sessionHandle target victim)
    (token : victim.ownerSession = 0) : victim.path ≠ path := by
  rintro rfl
  cases place with
  | registered handle =>
      obtain ⟨kept, found, _, rfl, _⟩ := held
      obtain ⟨_, object, isObject⟩ := filed
      have same := isObject.found
      rw [found] at same
      cases same
      have destroyable := destruction.siblings token handle kept found isObject.samePath
      have isFalse : kept.policy.get? ckaDestroyable = some false := undestroyable
      rw [policyValue, isFalse] at destroyable
      contradiction
  | stored other cls =>
      obtain ⟨_, kept, none⟩ := held
      obtain ⟨_, _, found, _⟩ := State.findObject_eq_some_iff.mp destruction.found
      exact none target victim ⟨found, token, kept.name.symm⟩

/-- A locked object that may not be destroyed, with its file. -/
structure Anchored (object : Object) (content : Bytes) (state : State) (place : Whereabouts) :
    Prop where
  held : Held object.objectClass (fun other => other = object.path)
    (fun kept => kept = object.record) state place
  filed : Filed object.path content state place

theorem Anchored.file {place : Whereabouts} {content : Bytes}
    (anchored : Anchored object content state place) :
    state.disk.content object.path = some content :=
  anchored.filed.file

/-- No call loses the object: only the destruction of the file unregisters it, and a load of
the file registers it again. -/
theorem Anchored.followed {place : Whereabouts} {input : Call × Oracle} {directory : Path}
    {content : Bytes} (order : TokenOrder state) (whole : SessionPairsWhole host state input)
    (anchored : Anchored object content state place)
    (undestroyable : policyValue object ckaDestroyable = false)
    (keyPath : IsKeyPath directory object.path) (again : LoadedAgain host object state input) :
    ∃ after, follow host (some place) state input = some after := by
  have later : (HsmSimulator.step host state input).1.disk.content object.path = some content :=
    file_step order.wellFormed keyPath anchored.file
      (anchored.held.vetoes anchored.filed (policy_of_false undestroyable rfl))
  unfold follow
  cases place with
  | registered handle =>
      obtain ⟨_, stored, isObject⟩ := anchored.filed
      have isOpen := order.wellFormed.initialized_of_object isObject.found
      dsimp only
      split
      · rename_i opened
        have there : ((HsmSimulator.step host state input).1.objects.get? handle).isSome := by
          have effect := @step_token host input.2 state order.wellFormed input.1
          cases effect.at order.wellFormed keyPath isOpen opened with
          | same unchanged =>
              rw [((unchanged.objects handle stored).mpr isObject).found]
              rfl
          | altered _ _ _ _ _ isNext =>
              rw [show step host state input = step host state (input.1, input.2) from rfl, isNext]
              dsimp only
              rw [OrderedMap.get?_insert]
              split
              · rfl
              · rw [isObject.found]
                rfl
          | emptied _ _ gone _ =>
              rw [show step host state (input.1, input.2) = step host state input from rfl,
                later] at gone
              contradiction
          | created isNew samePath guard made creation =>
              have unchanged := creation.sameAt_of_file order.wellFormed guard made samePath
                ⟨content, anchored.file⟩ fun key noToken isKey digest noHalves =>
                  whole.noHalfAt _ _ key isNew noToken isKey digest noHalves
              rw [((unchanged.objects handle stored).mpr isObject).found]
              rfl
        exact ⟨_, if_pos there⟩
      · rw [isObject.found, Option.bind_some, if_pos isObject.token]
        exact ⟨_, rfl⟩
  | stored path objectClass =>
      obtain ⟨rfl, kept, _⟩ := anchored.held
      rw [kept.name]
      dsimp only
      split
      · rename_i opening
        split
        · exact ⟨_, rfl⟩
        · rename_i none
          cases registers : (HsmSimulator.step host state input).1.registers object.path with
          | false => exact ⟨_, rfl⟩
          | true => exact (again opening.1 opening.2 registers none).elim
      · exact ⟨_, rfl⟩

/-- Where the object is after a call, it is locked and anchored. -/
theorem Anchored.step {place : Whereabouts} {input : Call × Oracle} {directory : Path}
    {content : Bytes} (order : TokenOrder state) (whole : SessionPairsWhole host state input)
    (anchored : Anchored object content state place)
    (unmodifiable : policyValue object ckaModifiable = false)
    (undestroyable : policyValue object ckaDestroyable = false)
    (keyPath : IsKeyPath directory object.path) (again : LoadedAgain host object state input) :
    ∃ after, follow host (some place) state input = some after ∧
      Anchored object content (HsmSimulator.step host state input).1 after := by
  obtain ⟨after, followed⟩ := anchored.followed order whole undestroyable keyPath again
  refine ⟨after, followed, ?_, ?_⟩
  · exact record_step order whole (policy_of_false unmodifiable rfl) anchored.held followed
  · refine anchored.filed.step order.wellFormed keyPath ?_
      (anchored.held.vetoes anchored.filed (policy_of_false undestroyable rfl)) followed
    rintro other objectClass rfl
    exact anchored.held.2.1.name

/-- Every load of its file registers a secret key, and every load of a container its private
key. -/
theorem loadedAgain_of_key {input : Call × Oracle}
    (kind : IsSymmetric object.path ↔ object.objectClass = ckoSecretKey)
    (isKey : object.objectClass = ckoSecretKey ∨ object.objectClass = ckoPrivateKey) :
    LoadedAgain host object state input := by
  obtain ⟨call, oracle⟩ := input
  intro closed opened registers
  obtain ⟨same, _⟩ | ⟨_, initialization⟩ := @step_closed_cases host oracle state closed call
  · rw [same, closed] at opened
    contradiction
  · generalize HsmSimulator.step host state (call, oracle) = result at *
    cases initialization with
    | failed isClosed _ _ _ _ _ _ _ =>
        rw [isClosed] at opened
        contradiction
    | @succeeded disk slots next prepared discovered loaded =>
        have some : ∃ handle stored, FileObject next.objects object.path handle stored := by
          by_contra none
          push Not at none
          have isFalse := registers_eq_false_iff.mpr none
          exact absurd (isFalse.symm.trans registers) Bool.false_ne_true
        obtain ⟨handle, stored, found, _, samePath⟩ := some
        obtain ⟨index, raw, listed, rfl, rfl⟩ := (loaded.objects handle stored).mp found
        rw [(withMetadata_core _ _).2.2.2.1] at samePath
        change raw.path = object.path at samePath
        obtain ⟨slot, isSlot, path, content, isOpened, member⟩ :=
          mem_tokenObjects.mp (List.mem_of_getElem? listed)
        have isPath : path = object.path := (fileObjects_raw member).1.path.symm.trans samePath
        subst isPath
        obtain ⟨sameKind, key, keyMember, keyClass⟩ := fileObjects_kind member
        have sameClass : key.objectClass = object.objectClass := by
          rw [keyClass]
          split
          · rename_i isSecret
            exact (kind.mp (sameKind.mpr isSecret)).symm
          · rename_i notSecret
            obtain isSecret | isPrivate := isKey
            · exact (notSecret (sameKind.mp (kind.mpr isSecret))).elim
            · exact isPrivate.symm
        obtain ⟨keyIndex, isIndex⟩ := List.mem_iff_getElem?.mp
          (mem_tokenObjects.mpr ⟨slot, isSlot, object.path, content, isOpened, keyMember⟩)
        have keyFound := (loaded.objects _ _).mpr ⟨keyIndex, key, isIndex, rfl, rfl⟩
        have isHandle := mem_tokenHandles.mpr ⟨_, ⟨keyFound,
          (withMetadata_core _ _).2.2.2.2.trans (fileObjects_raw keyMember).1.owner,
          (withMetadata_core _ _).2.2.2.1.trans (fileObjects_raw keyMember).1.path⟩,
          (withMetadata_core _ _).1.trans sameClass⟩
        exact List.ne_nil_of_mem isHandle

/-- What is kept is what is found, and what it forbids is refused. -/
theorem lockedAt_of_held {place : Whereabouts} (wellFormed : WellFormed state)
    (held : Held object.objectClass (fun other => other = object.path)
      (fun kept => kept = object.record) state place) : LockedAt host object state place := by
  cases place with
  | registered handle =>
      obtain ⟨kept, found, sameClass, sameRecord, _⟩ := held
      refine ⟨kept, found, sameClass, sameRecord, ?_⟩
      rw [← sameRecord]
      exact usesRefused_of_record wellFormed found
  | stored path objectClass =>
      obtain ⟨rfl, kept, _⟩ := held
      exact ⟨kept.name, rfl, kept.recorded⟩

end

theorem storedByKind_run (host : Host) (disk : FileSystem) (inputs : List (Call × Oracle)) :
    StoredByKind (Runs.final (step host) (.loaded disk) inputs) := by
  refine (@Runs.invariant_run _ _ _ (step host)
    (fun state => WellFormed state ∧ StoredByKind state) ?_ (.loaded disk) ?_ inputs).2
  · exact fun state input valid => ⟨valid.1.step input, valid.2.step valid.1 input⟩
  · exact ⟨wellFormed_loaded disk, fun _ _ found => by contradiction⟩

/-- A key that may not be modified keeps its label, its id and its policies wherever it is
registered later, in this process or in the next one, and every use that a policy forbids is
refused; what is stored of it says the same.  A secret or private key of the token that may
not be destroyed either never gets lost, and its key file keeps its content; so does a public
key or a certificate that is registered whenever its file is loaded. -/
theorem locked_for_ever (host : Host) (disk : FileSystem) (before after : List (Call × Oracle))
    (whole : Runs.Along (step host) (SessionPairsWhole host) (.loaded disk) (before ++ after))
    (handle : Nat) (object : Object)
    (found : (Runs.final (step host) (.loaded disk) before).objects.get? handle = some object)
    (unmodifiable : policyValue object ckaModifiable = false) :
    let earlier := Runs.final (step host) (.loaded disk) before
    let later := Runs.final (step host) (.loaded disk) (before ++ after)
    let followed := Runs.history (step host) (follow host) (some (.registered handle)) earlier after
    (∀ place, followed = some place → LockedAt host object later place) ∧
      (object.ownerSession = 0 → policyValue object ckaDestroyable = false →
        (object.objectClass = ckoSecretKey ∨ object.objectClass = ckoPrivateKey ∨
          Runs.Along (step host) (LoadedAgain host object) earlier after) →
        followed ≠ none ∧
          later.disk.content object.path = earlier.disk.content object.path) := by
  intro earlier later followed
  rw [Runs.along_append] at whole
  obtain ⟨order, stored⟩ := recordsStored_run host disk before whole.1
  have isLater : later = Runs.final (step host) earlier after := Runs.final_append _ _ _ _
  have start : Held object.objectClass (fun other => other = object.path)
      (fun kept => kept = object.record) earlier (.registered handle) := by
    refine ⟨object, found, rfl, rfl, fun isToken => ⟨⟨?_, rfl, ?_, ?_⟩, ?_⟩⟩
    · obtain ⟨_, _, slot, _, keyPath⟩ := order.wellFormed.tokenObject handle object found isToken
      exact ⟨_, keyPath⟩
    · exact order.files.exist handle object found isToken
    · exact stored handle object found isToken ckaModifiable false
        (policy_of_false unmodifiable rfl)
    · exact order.files.unique.distinctRecords _
  constructor
  · intro place isFollowed
    have invariant := @Runs.history_invariant _ _ _ _ (step host) (follow host)
      (SessionPairsWhole host) (fun state here => TokenOrder state ∧
        ∀ there, here = some there → Held object.objectClass (fun other => other = object.path)
          (fun kept => kept = object.record) state there) ?_ earlier
      (some (.registered handle)) after
      ⟨order, fun there isThere => by cases isThere; exact start⟩ whole.2
    · rw [← isLater] at invariant
      exact lockedAt_of_held invariant.1.wellFormed (invariant.2 place isFollowed)
    · intro state here input valid whole
      refine ⟨valid.1.step input whole, ?_⟩
      intro there isThere
      cases here with
      | none => contradiction
      | some place =>
          exact record_step valid.1 whole (policy_of_false unmodifiable rfl) (valid.2 place rfl)
            isThere
  · intro isToken undestroyable isKey
    obtain ⟨_, _, slot, _, keyPath⟩ := order.wellFormed.tokenObject handle object found isToken
    obtain ⟨content, file⟩ := order.files.exist handle object found isToken
    have again : Runs.Along (step host) (LoadedAgain host object) earlier after := by
      have kind := storedByKind_run host disk before handle object found isToken
      obtain isSecret | isPrivate | loads := isKey
      · exact Runs.along_of_forall
          (fun _ _ _ => loadedAgain_of_key kind (Or.inl isSecret)) _
      · exact Runs.along_of_forall
          (fun _ _ _ => loadedAgain_of_key kind (Or.inr isPrivate)) _
      · exact loads
    have invariant := @Runs.history_invariant _ _ _ _ (step host) (follow host)
      (fun state input => SessionPairsWhole host state input ∧ LoadedAgain host object state input)
      (fun state here => TokenOrder state ∧
        ∃ place, here = some place ∧ Anchored object content state place) ?_ earlier
      (some (.registered handle)) after
      ⟨order, _, rfl, start, file, object, found, isToken, rfl⟩ (whole.2.and again)
    · rw [← isLater] at invariant
      obtain ⟨laterOrder, place, isPlace, anchored⟩ := invariant
      refine ⟨?_, anchored.file.trans file.symm⟩
      intro none
      cases isPlace.symm.trans none
    · rintro state here input ⟨order, place, rfl, anchored⟩ ⟨whole, again⟩
      exact ⟨order.step input whole,
        anchored.step order whole unmodifiable undestroyable keyPath again⟩

/-- An AES key that can neither be modified nor destroyed, nor used to derive. -/
def lockedKey : List Call :=
  [.cInitialize false, .openSession 1 6 true,
    .generateKey 1 (some ⟨ckmAesKeyGen, .null 0⟩)
      (.entries [⟨ckaModifiable, .bytes [0]⟩, ⟨ckaDestroyable, .bytes [0]⟩,
        ⟨ckaDerive, .bytes [0]⟩]) true]

/-- It is found again after a restart, with its file. -/
theorem locked_for_ever_restart :
    ∃ object, (Runs.final (step .plain) (.loaded ⟨∅, ∅⟩) (plainRun lockedKey)).objects.get? 1 =
        some object ∧ object.policy.get? ckaDerive = some false ∧
      let earlier := Runs.final (step .plain) (.loaded ⟨∅, ∅⟩) (plainRun lockedKey)
      let later := Runs.final (step .plain) (.loaded ⟨∅, ∅⟩) (plainRun lockedKey ++
        plainRun [.destroyObject 1 1, .cFinalize false, .cInitialize false])
      LockedAt .plain object later (.registered 1) ∧
        later.disk.content object.path = earlier.disk.content object.path := by
  have lockedObject : ∃ object, (Runs.final (step .plain) (.loaded ⟨∅, ∅⟩)
      (plainRun lockedKey)).objects.get? 1 = some object ∧
        policyValue object ckaModifiable = false ∧ object.policy.get? ckaDerive = some false ∧
        object.ownerSession = 0 ∧ policyValue object ckaDestroyable = false ∧
        object.objectClass = ckoSecretKey := by
    decide
  obtain ⟨object, found, unmodifiable, derive, token, undestroyable, isSecret⟩ := lockedObject
  obtain ⟨locked, anchored⟩ := locked_for_ever .plain ⟨∅, ∅⟩ (plainRun lockedKey)
    (plainRun [.destroyObject 1 1, .cFinalize false, .cInitialize false])
    ((Runs.along_append _ _ _ _ _).mpr ⟨plainRun_along sessionPairsWhole_plain _ _,
      plainRun_along sessionPairsWhole_plain _ _⟩) 1 object found unmodifiable
  exact ⟨object, found, derive, locked (.registered 1) (by decide),
    (anchored token undestroyable (Or.inl isSecret)).2⟩

end HsmSimulator
