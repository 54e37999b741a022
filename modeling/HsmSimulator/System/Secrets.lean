import HsmSimulator.Pkcs11.Protections

/-!
# Secrets stay in the module

A disguise puts other key material in the place of that of some objects: any secret value of
the same length, any key of which OpenSSL tells the same public data.  A call that does not
work with a disguised key does the same with and without the disguise.  So whoever may look
at the objects, and whatever calls are made, the responses do not depend on the values of
sensitive or unextractable secret keys, nor on those of private keys.
-/

namespace HsmSimulator

open Checks FileSystem

/-- Other key material for the objects of some handles. -/
structure Disguise (openSsl : OpenSsl) where
  hides : Nat → Bool
  secret : Nat → Bytes → Bytes
  key : Nat → EvpKey → EvpKey
  length_secret : ∀ handle value, (secret handle value).length = value.length
  bits_key : ∀ handle original, openSsl.bits (key handle original) = openSsl.bits original
  bnParam_key : ∀ handle original, openSsl.bnParam (key handle original) = openSsl.bnParam original
  groupName_key : ∀ handle original,
    openSsl.groupName (key handle original) = openSsl.groupName original
  encodedPoint_key : ∀ handle original,
    openSsl.encodedPoint (key handle original) = openSsl.encodedPoint original

/-- A secret key of the object, if it is one, is not given out. -/
def Object.isGuarded (object : Object) : Bool :=
  object.objectClass ≠ ckoSecretKey || policyValue object ckaSensitive ||
    !policyValue object ckaExtractable

namespace Disguise

variable {openSsl : OpenSsl} (disguise : Disguise openSsl)

def object (object : Object) : Object :=
  { object with
    secretValue := if disguise.hides object.handle then
        disguise.secret object.handle object.secretValue
      else object.secretValue
    asymmetricKey := if disguise.hides object.handle then
        object.asymmetricKey.map (disguise.key object.handle)
      else object.asymmetricKey }

def state (state : State) : State :=
  { state with objects := state.objects.mapValues disguise.object }

/-- A result of a call, disguised. -/
def result {ρ : Type} (result : State × ρ) : State × ρ := (disguise.state result.1, result.2)

/-! ## Objects -/

theorem length_secretValue (object : Object) :
    (disguise.object object).secretValue.length = object.secretValue.length := by
  change (if disguise.hides object.handle then _ else _ : Bytes).length = _
  split
  · exact disguise.length_secret _ _
  · rfl

theorem object_of_shown {object : Object} (shown : disguise.hides object.handle = false) :
    disguise.object object = object := by
  simp [Disguise.object, shown]

/-- The key of a disguised object tells what the key of the object tells. -/
theorem asymmetricKey_object (object : Object) : ∃ change : EvpKey → EvpKey,
    (disguise.object object).asymmetricKey = object.asymmetricKey.map change ∧
      ∀ original, openSsl.bits (change original) = openSsl.bits original ∧
        openSsl.bnParam (change original) = openSsl.bnParam original ∧
        openSsl.groupName (change original) = openSsl.groupName original ∧
        openSsl.encodedPoint (change original) = openSsl.encodedPoint original := by
  unfold Disguise.object
  dsimp only
  split
  · exact ⟨_, rfl, fun original => ⟨disguise.bits_key _ _, disguise.bnParam_key _ _,
      disguise.groupName_key _ _, disguise.encodedPoint_key _ _⟩⟩
  · exact ⟨id, by simp, fun original => ⟨rfl, rfl, rfl, rfl⟩⟩

theorem valueAttribute_object {object : Object} (guarded : object.isGuarded = true) :
    valueAttribute (disguise.object object) = valueAttribute object := by
  by_cases isSecret : object.objectClass = ckoSecretKey
  · have kept : (policyValue object ckaSensitive || !policyValue object ckaExtractable) =
        true := by
      simpa [Object.isGuarded, isSecret] using guarded
    have hidden : (policyValue (disguise.object object) ckaSensitive ||
        !policyValue (disguise.object object) ckaExtractable) = true := kept
    have stillSecret : (disguise.object object).objectClass = ckoSecretKey := isSecret
    simp only [valueAttribute, isSecret, stillSecret, kept, hidden, if_true]
  · have notSecret : (disguise.object object).objectClass ≠ ckoSecretKey := isSecret
    rw [valueAttribute, valueAttribute, if_neg isSecret, if_neg notSecret]
    rfl

theorem rsaAttribute_object (object : Object) (type : Nat) :
    rsaAttribute openSsl (disguise.object object) type = rsaAttribute openSsl object type := by
  rcases disguise.asymmetricKey_object object with ⟨change, isKey, tells⟩
  unfold rsaAttribute
  rw [isKey, show (disguise.object object).keyType = object.keyType from rfl]
  cases object.asymmetricKey with
  | none => rfl
  | some original => simp only [Option.map_some, Option.bind_some, (tells original).2.1]

theorem ecAttribute_object (object : Object) (type : Nat) :
    ecAttribute openSsl (disguise.object object) type = ecAttribute openSsl object type := by
  rcases disguise.asymmetricKey_object object with ⟨change, isKey, tells⟩
  unfold ecAttribute
  rw [isKey, show (disguise.object object).keyType = object.keyType from rfl]
  cases object.asymmetricKey with
  | none => rfl
  | some original =>
      by_cases isEc : object.keyType = ckkEc
      · simp only [isEc, if_true, Option.map_some, (tells original).2.2.1, (tells original).2.2.2]
      · simp only [isEc, if_false]

/-- What a guarded object has for an attribute does not tell the disguise. -/
theorem attributeValue_object {object : Object} (guarded : object.isGuarded = true) (type : Nat) :
    attributeValue openSsl (disguise.object object) type = attributeValue openSsl object type := by
  rcases disguise.asymmetricKey_object object with ⟨change, isKey, tells⟩
  have sameKeyType : (disguise.object object).keyType = object.keyType := rfl
  have sameParameters : keyParameterSet (disguise.object object) = keyParameterSet object := rfl
  have sameBoolean : booleanAttribute (disguise.object object) type =
      booleanAttribute object type := rfl
  unfold attributeValue
  rw [disguise.length_secretValue, disguise.rsaAttribute_object, disguise.ecAttribute_object,
    disguise.valueAttribute_object guarded, sameKeyType, isKey, sameParameters, sameBoolean]
  cases object.asymmetricKey with
  | none => rfl
  | some original =>
      by_cases isRsa : object.keyType = ckkRsa
      · simp only [isRsa, if_true, Option.map_some, (tells original).1]
        rfl
      · simp only [isRsa, if_false]
        rfl

/-- The disguise covers guarded objects only, and no handle that is still to be given out. -/
structure Suits (state : State) : Prop where
  wellFormed : WellFormed state
  guarded : ∀ handle object, state.objects.get? handle = some object →
    disguise.hides handle = true → object.isGuarded = true
  issued : ∀ handle, disguise.hides handle = true → handle < state.nextObjectHandle

/-! ## Lookups -/

section

variable (state : State)

@[simp]
theorem disk_state : (disguise.state state).disk = state.disk :=
  rfl

theorem objects_state :
    (disguise.state state).objects = state.objects.mapValues disguise.object :=
  rfl

@[simp]
theorem findSession_state (sessionHandle : Nat) :
    (disguise.state state).findSession sessionHandle = state.findSession sessionHandle :=
  rfl

@[simp]
theorem sessionSlot_state (sessionHandle : Nat) :
    (disguise.state state).sessionSlot sessionHandle = state.sessionSlot sessionHandle :=
  rfl

@[simp]
theorem requireUserLogin_state (sessionHandle : Nat) :
    (disguise.state state).requireUserLogin sessionHandle =
      state.requireUserLogin sessionHandle :=
  rfl

@[simp]
theorem objectAccessStatus_state (sessionHandle : Nat) (object : Object) :
    (disguise.state state).objectAccessStatus sessionHandle (disguise.object object) =
      state.objectAccessStatus sessionHandle object :=
  rfl

theorem get?_state (handle : Nat) :
    (disguise.state state).objects.get? handle =
      (state.objects.get? handle).map disguise.object :=
  OrderedMap.get?_mapValues _ _ _

theorem findObject_state (sessionHandle handle : Nat) :
    (disguise.state state).findObject sessionHandle handle =
      (state.findObject sessionHandle handle).map disguise.object := by
  unfold State.findObject
  rw [findSession_state, disguise.get?_state]
  cases state.findSession sessionHandle with
  | none => rfl
  | some session =>
      cases state.objects.get? handle with
      | none => rfl
      | some object =>
          by_cases mine : object.slotId = session.slotId
          · have same : (disguise.object object).slotId = session.slotId := mine
            simp only [Option.map_some, mine, same, if_true]
          · have other : (disguise.object object).slotId ≠ session.slotId := mine
            simp only [Option.map_some, mine, other, if_false, Option.map_none]

end

/-- The records of a key file do not tell the disguise. -/
theorem collectMetadata_objects (objects : OrderedMap Nat Object) (oracle : Oracle) (path : Path)
    (replacement : Option Object) :
    collectMetadata oracle (objects.mapValues disguise.object) path
        (replacement.map disguise.object) =
      collectMetadata oracle objects path replacement := by
  have stored : (objects.filter fun _ object =>
        object.ownerSession = 0 && object.path = path).mapValues disguise.object =
      (objects.mapValues disguise.object).filter fun _ object =>
        object.ownerSession = 0 && object.path = path :=
    OrderedMap.mapValues_filter _ _ fun _ _ _ => rfl
  unfold collectMetadata
  simp only [← stored, OrderedMap.keys_mapValues]
  congr 1
  funext records handle
  rw [OrderedMap.get?_mapValues]
  cases OrderedMap.get? _ handle with
  | none => rfl
  | some found =>
      cases replacement with
      | none => rfl
      | some changed =>
          have sameHandle : (disguise.object changed).handle = changed.handle := rfl
          simp only [Option.map_some, sameHandle]
          split <;> rfl

end Disguise

/-! ## Objects -/

namespace Disguise.Suits

variable {host : Host} {oracle : Oracle} {state : State} {disguise : Disguise host.openSsl}
  (suits : disguise.Suits state) {sessionHandle : Nat}

include suits

theorem object_of_fresh {object : Object} (fresh : state.nextObjectHandle ≤ object.handle) :
    disguise.object object = object := by
  apply disguise.object_of_shown
  rw [Bool.eq_false_iff]
  intro hidden
  exact absurd (suits.issued _ hidden) (Nat.not_lt.mpr fresh)

theorem attributeValue_eq {handle : Nat} {object : Object}
    (found : state.objects.get? handle = some object) (type : Nat) :
    attributeValue host.openSsl (disguise.object object) type =
      attributeValue host.openSsl object type := by
  have isHandle := (suits.wellFormed.objectKey handle object found).1
  cases hidden : disguise.hides handle with
  | true => exact disguise.attributeValue_object (suits.guarded handle object found hidden) type
  | false => rw [disguise.object_of_shown (isHandle ▸ hidden)]

theorem readAttribute_eq {handle : Nat} {object : Object}
    (found : state.objects.get? handle = some object) (query : AttributeQuery) :
    readAttribute host.openSsl (disguise.object object) query =
      readAttribute host.openSsl object query := by
  rw [readAttribute, readAttribute, suits.attributeValue_eq found]

omit suits in
theorem readableObject_eq (handle : Nat) :
    readableObject (disguise.state state) sessionHandle handle =
      (readableObject state sessionHandle handle).map disguise.object := by
  unfold readableObject
  rw [findSession_state, findObject_state]
  cases state.findSession sessionHandle with
  | none => rfl
  | some session =>
      cases state.findObject sessionHandle handle with
      | none => rfl
      | some object =>
          simp only [Option.map_some, fetch_some, ok_bind, objectAccessStatus_state]
          cases state.objectAccessStatus sessionHandle object <;> rfl

theorem getAttributeValue_eq (handle : Nat) (attributes : QueryTemplate) :
    getAttributeValue host (disguise.state state) sessionHandle handle attributes =
      getAttributeValue host state sessionHandle handle attributes := by
  unfold getAttributeValue
  rw [readableObject_eq]
  cases readable : readableObject state sessionHandle handle with
  | error code => rfl
  | ok object =>
      have found : state.findObject sessionHandle handle = some object := by
        simp only [readableObject, bind_eq_ok_iff, fetch_eq_ok_iff, pure_eq_ok, Except.ok.injEq]
          at readable
        rcases readable with ⟨_, _, found, isFound, _, _, rfl⟩
        exact isFound
      rcases State.findObject_eq_some_iff.mp found with ⟨_, _, stored, _⟩
      cases attributes with
      | null count => rfl
      | entries queries =>
          have same : readAttribute host.openSsl (disguise.object object) =
              readAttribute host.openSsl object :=
            funext fun query => suits.readAttribute_eq stored query
          simp only [Except.map, readAttributes, same]

omit suits in
theorem alterableObject_eq (handle required : Nat) :
    alterableObject (disguise.state state) sessionHandle handle required =
      (alterableObject state sessionHandle handle required).map disguise.object := by
  unfold alterableObject
  rw [findSession_state, findObject_state, requireUserLogin_state]
  cases state.findSession sessionHandle with
  | none => rfl
  | some session =>
      cases state.findObject sessionHandle handle with
      | none => rfl
      | some object =>
          have samePolicy : policyValue (disguise.object object) required =
              policyValue object required := rfl
          have sameOwner : (disguise.object object).ownerSession = object.ownerSession := rfl
          simp only [Option.map_some, fetch_some, ok_bind, samePolicy, sameOwner]
          cases state.requireUserLogin sessionHandle with
          | error code => rfl
          | ok _ =>
              simp only [ok_bind, require]
              split
              · simp only [ok_bind]
                split <;> rfl
              · rfl

omit suits in
theorem changeAttributes_eq (object changed : Object) (entries : List Attribute) :
    changeAttributes (disguise.object object) (disguise.object changed) entries =
      (changeAttributes object changed entries).map disguise.object := by
  induction entries generalizing changed with
  | nil => rfl
  | cons entry rest ih =>
      have samePolicy : policyValue (disguise.object object) entry.type =
          policyValue object entry.type := rfl
      unfold changeAttributes
      rw [samePolicy]
      split
      · exact ih { changed with label := templateString (.entries [entry]) entry.type [] }
      · split
        · exact ih { changed with id := templateString (.entries [entry]) entry.type [] }
        · split
          · split
            · rfl
            · exact ih { changed with policy := changed.policy.insert entry.type entry.boolean }
          · rfl

omit suits in
theorem changedObject_eq (handle : Nat) (attributes : Template) :
    changedObject (disguise.state state) sessionHandle handle attributes =
      (changedObject state sessionHandle handle attributes).map disguise.object := by
  unfold changedObject
  rw [alterableObject_eq]
  cases alterableObject state sessionHandle handle ckaModifiable with
  | error code => rfl
  | ok object =>
      change (validateCreationTemplate attributes >>= fun _ => changeAttributes
        (disguise.object object) (disguise.object object) attributes.toList) = _
      rw [ok_bind]
      cases validateCreationTemplate attributes with
      | error code => rfl
      | ok _ => exact changeAttributes_eq object object attributes.toList

omit suits in
theorem setAttributeValue_eq (handle : Nat) (attributes : Template) :
    setAttributeValue (disguise.state state) oracle sessionHandle handle attributes =
      disguise.result (setAttributeValue state oracle sessionHandle handle attributes) := by
  unfold setAttributeValue
  rw [changedObject_eq]
  cases changedObject state sessionHandle handle attributes with
  | error code => rfl
  | ok changed =>
      have sameOwner : (disguise.object changed).ownerSession = changed.ownerSession := rfl
      have samePath : (disguise.object changed).path = changed.path := rfl
      have records := disguise.collectMetadata_objects state.objects oracle changed.path
        (some changed)
      have table := OrderedMap.mapValues_insert state.objects disguise.object handle changed
      rw [Option.map_some] at records
      simp only [Except.map, sameOwner, samePath, objects_state, disk_state, records, ← table]
      split
      · split <;> rfl
      · rfl

omit suits in
theorem destroyableObject_eq (handle : Nat) :
    destroyableObject (disguise.state state) sessionHandle handle =
      (destroyableObject state sessionHandle handle).map disguise.object := by
  unfold destroyableObject
  rw [alterableObject_eq]
  cases alterableObject state sessionHandle handle ckaDestroyable with
  | error code => rfl
  | ok object =>
      have veto : (disguise.state state).objects.values.any (fun other =>
            (disguise.object object).ownerSession = 0 &&
              other.path = (disguise.object object).path && !policyValue other ckaDestroyable) =
          state.objects.values.any fun other => object.ownerSession = 0 &&
            other.path = object.path && !policyValue other ckaDestroyable := by
        rw [Disguise.state, OrderedMap.values_mapValues, List.any_map]
        rfl
      simp only [Except.map, ok_bind, veto, require]
      split <;> rfl

omit suits in
theorem destroyObject_eq (handle : Nat) :
    destroyObject (disguise.state state) oracle sessionHandle handle =
      disguise.result (destroyObject state oracle sessionHandle handle) := by
  unfold destroyObject
  rw [destroyableObject_eq]
  cases destroyableObject state sessionHandle handle with
  | error code => rfl
  | ok object =>
      have sameOwner : (disguise.object object).ownerSession = object.ownerSession := rfl
      have samePath : (disguise.object object).path = object.path := rfl
      have swept : (state.objects.eraseIf fun _ other => other.path = object.path).mapValues
          disguise.object = (state.objects.mapValues disguise.object).eraseIf
            fun _ other => other.path = object.path :=
        OrderedMap.mapValues_eraseIf _ _ fun _ _ _ => rfl
      have erased := OrderedMap.mapValues_erase state.objects disguise.object handle
      simp only [Except.map, sameOwner, samePath]
      split
      · unfold destroyKeyFile
        rw [disk_state, objects_state, ← swept]
        cases state.disk.remove oracle object.path with
        | mk disk failed => cases failed <;> rfl
      · rw [objects_state, ← erased]
        rfl

/-! ## Searching -/

theorem matchesTemplate_eq {handle : Nat} {object : Object} {session : Session}
    (found : state.objects.get? handle = some object) (attributes : Template) :
    matchesTemplate host (disguise.state state) sessionHandle session attributes
        (disguise.object object) =
      matchesTemplate host state sessionHandle session attributes object := by
  have same : matchesEntry host.openSsl (disguise.object object) =
      matchesEntry host.openSsl object := by
    funext entry
    simp only [matchesEntry, suits.readAttribute_eq found]
  unfold matchesTemplate
  rw [objectAccessStatus_state, same]
  rfl

theorem findObjectsInit_eq (attributes : Template) :
    findObjectsInit host (disguise.state state) sessionHandle attributes =
      disguise.result (findObjectsInit host state sessionHandle attributes) := by
  have same : searchingSession (disguise.state state) sessionHandle attributes =
      searchingSession state sessionHandle attributes := rfl
  rw [findObjectsInit, findObjectsInit, same]
  cases searchingSession state sessionHandle attributes with
  | error code => rfl
  | ok session =>
      have found : (state.objects.filter fun _ object =>
            matchesTemplate host state sessionHandle session attributes object).mapValues
              disguise.object =
          (state.objects.mapValues disguise.object).filter fun _ object =>
            matchesTemplate host (disguise.state state) sessionHandle session attributes object :=
        OrderedMap.mapValues_filter _ _ fun _ _ isObject =>
          suits.matchesTemplate_eq isObject attributes
      have keys := congrArg OrderedMap.keys found
      rw [OrderedMap.keys_mapValues] at keys
      change (_, _) = (_, _)
      rw [Prod.mk.injEq]
      refine ⟨?_, rfl⟩
      change State.putSession _ _ _ = disguise.state (State.putSession _ _ _)
      rw [objects_state, ← keys]
      rfl

omit suits in
theorem stillVisible_eq :
    stillVisible (disguise.state state) sessionHandle = stillVisible state sessionHandle := by
  funext handle
  unfold stillVisible
  rw [findObject_state]
  cases state.findObject sessionHandle handle <;> rfl

omit suits in
theorem findObjects_eq (hasOutput : Bool) (capacity : Nat) (hasCount : Bool) :
    findObjects (disguise.state state) sessionHandle hasOutput capacity hasCount =
      disguise.result (findObjects state sessionHandle hasOutput capacity hasCount) := by
  unfold findObjects
  rw [stillVisible_eq, findSession_state]
  split <;> rfl

/-! ## Keys at work -/

/-- A key that is not disguised is found as it is. -/
theorem findObject_of_shown {handle : Nat} (shown : disguise.hides handle = false) :
    (disguise.state state).findObject sessionHandle handle =
      state.findObject sessionHandle handle := by
  rw [findObject_state]
  cases found : state.findObject sessionHandle handle with
  | none => rfl
  | some object =>
      rcases State.findObject_eq_some_iff.mp found with ⟨_, _, stored, _⟩
      have isHandle := (suits.wellFormed.objectKey handle object stored).1
      rw [Option.map_some, disguise.object_of_shown (isHandle ▸ shown)]

omit suits in
theorem signatureOperation_eq (mechanism : Option Mechanism) (keyHandle : Nat) (verify : Bool) :
    signatureOperation host (disguise.state state) sessionHandle mechanism keyHandle verify =
      signatureOperation host state sessionHandle mechanism keyHandle verify := by
  unfold signatureOperation
  rw [findSession_state, findObject_state]
  cases state.findObject sessionHandle keyHandle with
  | none => rfl
  | some object =>
      rcases disguise.asymmetricKey_object object with ⟨change, isKey, tells⟩
      have sameClass : (disguise.object object).objectClass = object.objectClass := rfl
      have sameType : (disguise.object object).keyType = object.keyType := rfl
      have samePolicy (type : Nat) : policyValue (disguise.object object) type =
          policyValue object type := rfl
      simp only [Option.map_some, fetch_some, ok_bind, isKey, objectAccessStatus_state, sameClass,
        sameType, samePolicy]
      cases object.asymmetricKey with
      | none => rfl
      | some original =>
          have sameParameters (mechanism : Mechanism) :
              signatureParameters host.openSsl mechanism (change original) =
                signatureParameters host.openSsl mechanism original := by
            simp only [signatureParameters, (tells original).1]
          simp only [Option.map_some, fetch_some, ok_bind, sameParameters]

omit suits in
theorem initializeSignature_eq (mechanism : Option Mechanism) (keyHandle : Nat) (verify : Bool) :
    initializeSignature host (disguise.state state) sessionHandle mechanism keyHandle verify =
      disguise.result
        (initializeSignature host state sessionHandle mechanism keyHandle verify) := by
  unfold initializeSignature
  rw [signatureOperation_eq]
  split <;> rfl

/-- The pending signature of a session is one with a key that is shown. -/
theorem signatureKey_eq {operation : Operation} (verify : Bool)
    (shown : disguise.hides operation.keyHandle = false) :
    signatureKey (disguise.state state) sessionHandle operation verify =
      signatureKey state sessionHandle operation verify := by
  unfold signatureKey
  rw [suits.findObject_of_shown shown]
  rfl

theorem completeSign_eq {session : Session} (data : Bytes) (signature : OutputBuffer)
    (shown : disguise.hides session.operation.keyHandle = false) :
    completeSign host oracle (disguise.state state) sessionHandle session data signature =
      disguise.result
        (completeSign host oracle state sessionHandle session data signature) := by
  have same : executeSign host oracle (disguise.state state) sessionHandle session.operation data
      signature = executeSign host oracle state sessionHandle session.operation data signature := by
    rw [executeSign, executeSign, suits.signatureKey_eq false shown]
  unfold completeSign
  rw [same]
  dsimp only
  split <;> rfl

theorem completeVerify_eq {session : Session} (data : Bytes) (signature : Buffer)
    (shown : disguise.hides session.operation.keyHandle = false) :
    completeVerify host oracle (disguise.state state) sessionHandle session data signature =
      disguise.result
        (completeVerify host oracle state sessionHandle session data signature) := by
  unfold completeVerify executeVerify verification
  rw [suits.signatureKey_eq true shown]
  rfl

/-- No pending signature of the session is one with a disguised key. -/
def ShownPending (disguise : Disguise host.openSsl) (state : State) (sessionHandle : Nat) : Prop :=
  ∀ session, state.findSession sessionHandle = some session → session.operation.active = true →
    disguise.hides session.operation.keyHandle = false

theorem sign_eq (shown : ShownPending disguise state sessionHandle) (data : Buffer)
    (signature : OutputBuffer) (hasLength : Bool) :
    sign host oracle (disguise.state state) sessionHandle data signature hasLength =
      disguise.result (sign host oracle state sessionHandle data signature hasLength) := by
  unfold sign
  have same : signingSession (disguise.state state) sessionHandle false =
      signingSession state sessionHandle false := rfl
  rw [same]
  split
  · rfl
  · rename_i session checks
    simp only [bind_eq_ok_iff, pure_eq_ok, Except.ok.injEq] at checks
    rcases checks with ⟨found, pending, _, _, rfl⟩
    rcases signingSession_eq_ok pending with ⟨sessionFound, active, _⟩
    exact suits.completeSign_eq _ _ (shown found sessionFound active)

theorem signFinal_eq (shown : ShownPending disguise state sessionHandle)
    (signature : OutputBuffer) (hasLength : Bool) :
    signFinal host oracle (disguise.state state) sessionHandle signature hasLength =
      disguise.result (signFinal host oracle state sessionHandle signature hasLength) := by
  unfold signFinal
  have same : signingSession (disguise.state state) sessionHandle false =
      signingSession state sessionHandle false := rfl
  rw [same]
  split
  · rfl
  · rename_i session checks
    simp only [bind_eq_ok_iff, pure_eq_ok, Except.ok.injEq] at checks
    rcases checks with ⟨found, pending, _, _, rfl⟩
    rcases signingSession_eq_ok pending with ⟨sessionFound, active, _⟩
    exact suits.completeSign_eq _ _ (shown found sessionFound active)

theorem verify_eq (shown : ShownPending disguise state sessionHandle) (data signature : Buffer) :
    verify host oracle (disguise.state state) sessionHandle data signature =
      disguise.result (verify host oracle state sessionHandle data signature) := by
  unfold verify
  have same : signingSession (disguise.state state) sessionHandle true =
      signingSession state sessionHandle true := rfl
  rw [same]
  split
  · rfl
  · rename_i session checks
    simp only [bind_eq_ok_iff, pure_eq_ok, Except.ok.injEq] at checks
    rcases checks with ⟨found, pending, _, _, rfl⟩
    rcases signingSession_eq_ok pending with ⟨sessionFound, active, _⟩
    exact suits.completeVerify_eq _ _ (shown found sessionFound active)

theorem verifyFinal_eq (shown : ShownPending disguise state sessionHandle) (signature : Buffer) :
    verifyFinal host oracle (disguise.state state) sessionHandle signature =
      disguise.result (verifyFinal host oracle state sessionHandle signature) := by
  unfold verifyFinal
  have same : signingSession (disguise.state state) sessionHandle true =
      signingSession state sessionHandle true := rfl
  rw [same]
  split
  · rfl
  · rename_i session checks
    simp only [bind_eq_ok_iff, pure_eq_ok, Except.ok.injEq] at checks
    rcases checks with ⟨found, pending, _, _, rfl⟩
    rcases signingSession_eq_ok pending with ⟨sessionFound, active, _⟩
    exact suits.completeVerify_eq _ _ (shown found sessionFound active)

/-- A key that may not be extracted is refused before it is looked at. -/
theorem wrapInput_eq {wrappingHandle keyHandle : Nat} (hasLength : Bool)
    (shown : disguise.hides wrappingHandle = false)
    (keyShown : ∀ object, state.objects.get? keyHandle = some object →
      policyValue object ckaExtractable = true → disguise.hides keyHandle = false) :
    wrapInput host (disguise.state state) sessionHandle wrappingHandle keyHandle hasLength =
      wrapInput host state sessionHandle wrappingHandle keyHandle hasLength := by
  unfold wrapInput
  rw [suits.findObject_of_shown shown, findObject_state]
  cases found : state.findObject sessionHandle keyHandle with
  | none => rfl
  | some object =>
      rcases State.findObject_eq_some_iff.mp found with ⟨_, _, stored, _⟩
      have isHandle := (suits.wellFormed.objectKey keyHandle object stored).1
      cases extractable : policyValue object ckaExtractable with
      | true =>
          have keyIsShown := keyShown object stored extractable
          rw [Option.map_some, disguise.object_of_shown (isHandle ▸ keyIsShown)]
          rfl
      | false =>
          have refused : policyValue (disguise.object object) ckaExtractable = false := extractable
          simp only [Option.map_some, fetch_some, ok_bind, extractable, refused,
            findSession_state, requireUserLogin_state]
          rfl

theorem unwrappedBytes_eq (mechanism : Option Mechanism) {wrappingHandle : Nat} (input : Buffer)
    (attributes : Template) (hasHandle : Bool) (shown : disguise.hides wrappingHandle = false) :
    unwrappedBytes host oracle (disguise.state state) sessionHandle mechanism wrappingHandle input
        attributes hasHandle =
      unwrappedBytes host oracle state sessionHandle mechanism wrappingHandle input attributes
        hasHandle := by
  unfold unwrappedBytes
  rw [suits.findObject_of_shown shown]
  rfl

theorem derivation_eq (mechanism : Option Mechanism) {baseKey : Nat} (attributes : Template)
    (hasHandle : Bool) (shown : disguise.hides baseKey = false) :
    derivation host oracle (disguise.state state) sessionHandle mechanism baseKey attributes
        hasHandle =
      derivation host oracle state sessionHandle mechanism baseKey attributes hasHandle := by
  unfold derivation derivationMaster
  rw [suits.findObject_of_shown shown]
  rfl

/-! ## Creation -/

omit suits in
theorem publishKey_eq (path : Path) (output : Output) :
    publishKey (disguise.state state) oracle path output =
      disguise.result (publishKey state oracle path output) := by
  have records := disguise.collectMetadata_objects state.objects oracle path none
  have swept : (state.objects.eraseIf fun _ other => other.path = path).mapValues
      disguise.object = (state.objects.mapValues disguise.object).eraseIf
        fun _ other => other.path = path :=
    OrderedMap.mapValues_eraseIf _ _ fun _ _ _ => rfl
  rw [Option.map_none] at records
  unfold publishKey persistMetadata
  rw [disk_state, objects_state, records, ← swept]
  cases Metadata.create state.disk oracle path (collectMetadata oracle state.objects path none)
      false with
  | mk disk published => cases published <;> rfl

omit suits in
theorem storeSecretKey_eq {object : Object} (token : Bool)
    (shown : disguise.object object = object) :
    storeSecretKey oracle (disguise.state state) object token =
      disguise.result (storeSecretKey oracle state object token) := by
  have table := OrderedMap.mapValues_emplace state.objects disguise.object object.handle object
  rw [shown] at table
  unfold storeSecretKey
  rw [disk_state, objects_state, ← table]
  cases token with
  | false => rfl
  | true =>
      rw [if_pos rfl, if_pos rfl]
      cases saveSecretKey state.disk oracle object.path object.secretValue with
      | mk disk code =>
          cases code <;> first
            | rfl
            | exact @publishKey_eq host oracle
                { state with
                  disk := disk
                  objects := state.objects.emplace object.handle object }
                disguise object.path (.handle object.handle)

omit suits in
/-- Registering an object under a handle that is not hidden. -/
theorem register_eq (object : Object) (shown : disguise.hides state.nextObjectHandle = false) :
    (disguise.state state).register object = disguise.state (state.register object) := by
  have table := OrderedMap.mapValues_emplace state.objects disguise.object state.nextObjectHandle
    { object with handle := state.nextObjectHandle }
  have same : disguise.object { object with handle := state.nextObjectHandle } =
      { object with handle := state.nextObjectHandle } := disguise.object_of_shown shown
  rw [same] at table
  unfold State.register
  rw [objects_state]
  simp only [Disguise.state, table]

omit suits in
theorem registerKeyPair_eq (shown : ∀ handle, state.nextObjectHandle ≤ handle →
      disguise.hides handle = false) (slotId : Nat) (label : Bytes) (path : Path) (key : EvpKey) :
    registerKeyPair host oracle (disguise.state state) slotId label path key none =
      disguise.result (registerKeyPair host oracle state slotId label path key none) := by
  unfold registerKeyPair
  cases objectIdForFilename host path.filename with
  | none => rfl
  | some id =>
      dsimp only
      rw [register_eq _ (shown _ (Nat.le_refl _))]
      cases publicKeyOnly oracle key with
      | none => rfl
      | some publicKey =>
          dsimp only
          rw [register_eq _ (shown _ (Nat.le_succ _))]
          rfl

omit suits in
theorem finishKeyPair_eq {handle : Nat} (request : PairRequest) (output : Output)
    (shown : ∀ object, state.objects.get? handle = some object →
      disguise.hides object.handle = false)
    (shownNext : ∀ object, state.objects.get? (handle + 1) = some object →
      disguise.hides object.handle = false) :
    finishKeyPair oracle (disguise.state state) handle request output =
      disguise.result (finishKeyPair oracle state handle request output) := by
  have first : (disguise.state state).objects.get? handle = state.objects.get? handle := by
    rw [get?_state]
    cases found : state.objects.get? handle with
    | none => rfl
    | some object => rw [Option.map_some, disguise.object_of_shown (shown object found)]
  have next : (disguise.state state).objects.get? (handle + 1) =
      state.objects.get? (handle + 1) := by
    rw [get?_state]
    cases found : state.objects.get? (handle + 1) with
    | none => rfl
    | some object => rw [Option.map_some, disguise.object_of_shown (shownNext object found)]
  have insert (objects : OrderedMap Nat Object) (key : Nat) (object : Object)
      (isShown : disguise.hides object.handle = false) :
      (objects.mapValues disguise.object).insert key object =
        (objects.insert key object).mapValues disguise.object := by
    rw [OrderedMap.mapValues_insert, disguise.object_of_shown isShown]
  unfold finishKeyPair
  rw [first, next, objects_state]
  cases found : state.objects.get? handle with
  | none => rfl
  | some privateObject =>
      have isShown := shown privateObject found
      dsimp only
      cases otherFound : state.objects.get? (handle + 1) with
      | none =>
          dsimp only
          rw [insert _ _ { privateObject with id := request.privateId privateObject.id } isShown]
          rfl
      | some publicObject =>
          dsimp only
          rw [insert _ _ (request.patchPrivate privateObject.id privateObject) isShown,
            insert _ _ (request.patchPublic privateObject.id publicObject)
              (shownNext publicObject otherFound)]
          split
          · exact @publishKey_eq host oracle
              { state with
                objects := (state.objects.insert handle (request.patchPrivate privateObject.id
                  privateObject)).insert (handle + 1)
                    (request.patchPublic privateObject.id publicObject) }
              disguise request.path output
          · rfl

theorem hides_of_fresh {handle : Nat} (fresh : state.nextObjectHandle ≤ handle) :
    disguise.hides handle = false := by
  rw [Bool.eq_false_iff]
  intro hidden
  exact absurd (suits.issued _ hidden) (Nat.not_lt.mpr fresh)

omit suits in
/-- An object is registered under its own handle. -/
theorem register_keyed {handle : Nat} (new : Object)
    (keyed : ∀ object, state.objects.get? handle = some object → object.handle = handle)
    {object : Object} (found : (state.register new).objects.get? handle = some object) :
    object.handle = handle := by
  change (state.objects.emplace state.nextObjectHandle
    { new with handle := state.nextObjectHandle }).get? handle = some object at found
  rw [OrderedMap.get?_emplace] at found
  split at found
  · rename_i isNext
    cases stored : state.objects.get? state.nextObjectHandle with
    | none =>
        rw [stored] at found
        cases found
        exact isNext.symm
    | some old =>
        rw [stored] at found
        cases found
        exact keyed _ (by rw [isNext, stored]; rfl)
  · exact keyed object found

/-- The objects of a registered pair are not disguised. -/
theorem registered_shown {slotId : Nat} {label : Bytes} {path : Path} {key : EvpKey}
    {disk : FileSystem} {registered : State}
    (registers : registerKeyPair host oracle { state with disk := disk } slotId label path key
      none = (registered, true)) {handle : Nat} (fresh : state.nextObjectHandle ≤ handle)
    {object : Object} (found : registered.objects.get? handle = some object) :
    disguise.hides object.handle = false := by
  have isFree := suits.wellFormed.freshObject fresh
  have keyed (stored : Object) (isStored : state.objects.get? handle = some stored) :
      stored.handle = handle := by
    rw [isFree] at isStored
    contradiction
  suffices isHandle : object.handle = handle by
    rw [isHandle]
    exact suits.hides_of_fresh fresh
  unfold registerKeyPair at registers
  split at registers
  · cases registers
  · dsimp only at registers
    cases half : publicKeyOnly oracle key with
    | none =>
        rw [half] at registers
        cases registers
        exact register_keyed _ keyed found
    | some publicKey =>
        rw [half] at registers
        cases registers
        exact register_keyed _ (fun _ stored => register_keyed _ keyed stored) found

theorem storeKeyPair_eq (request : PairRequest) (output : Nat → Output) :
    storeKeyPair host oracle (disguise.state state) request output =
      disguise.result (storeKeyPair host oracle state request output) := by
  have shown (handle : Nat) (fresh : state.nextObjectHandle ≤ handle) :
      disguise.hides handle = false := suits.hides_of_fresh fresh
  unfold storeKeyPair
  rw [disk_state]
  split
  · rename_i disk saved
    have registered := @registerKeyPair_eq host oracle { state with disk := disk } disguise shown
      request.slot.id request.label request.path request.key
    change registerKeyPair host oracle { disguise.state state with disk := disk } _ _ _ _ none = _
      at registered
    rw [registered]
    cases registers : registerKeyPair host oracle { state with disk := disk } request.slot.id
      request.label request.path request.key none with
    | mk next flag =>
        cases flag with
        | false => rfl
        | true =>
            exact finishKeyPair_eq request _
              (fun object found => suits.registered_shown registers (Nat.le_refl _) found)
              (fun object found => suits.registered_shown registers (Nat.le_succ _) found)
  · rfl

/-- Storing an object under the next handle. -/
theorem storeNext_eq {object : Object} (isHandle : object.handle = state.nextObjectHandle)
    (token : Bool) :
    storeSecretKey oracle (disguise.state state).takeHandle object token =
      disguise.result (storeSecretKey oracle state.takeHandle object token) :=
  @storeSecretKey_eq host oracle state.takeHandle disguise object token
    (suits.object_of_fresh isHandle.ge)

theorem generateKey_eq (mechanism : Option Mechanism) (attributes : Template)
    (hasHandle : Bool) :
    generateKey oracle (disguise.state state) sessionHandle mechanism attributes hasHandle =
      disguise.result (generateKey oracle state sessionHandle mechanism attributes hasHandle) := by
  unfold generateKey
  have sameLength : generatedKeyLength (disguise.state state) sessionHandle mechanism attributes
      hasHandle = generatedKeyLength state sessionHandle mechanism attributes hasHandle := rfl
  rw [sameLength]
  split
  · rfl
  · rename_i keyLength length
    have sameKey : generatedKey oracle (disguise.state state) sessionHandle attributes keyLength =
        generatedKey oracle state sessionHandle attributes keyLength := rfl
    rw [sameKey]
    split
    · rfl
    · rename_i made
      rcases generatedKey_eq_ok (generatedKeyLength_eq_ok length) made with
        ⟨_, _, _, _, _, _, _, _, _, rfl⟩
      exact suits.storeNext_eq rfl _

theorem generateKeyPair_eq (mechanism : Option Mechanism)
    (publicTemplate privateTemplate : Template) (hasHandles : Bool) :
    generateKeyPair host oracle (disguise.state state) sessionHandle mechanism publicTemplate
        privateTemplate hasHandles =
      disguise.result (generateKeyPair host oracle state sessionHandle mechanism publicTemplate
        privateTemplate hasHandles) := by
  unfold generateKeyPair
  have same : generatedPair oracle (disguise.state state) sessionHandle mechanism publicTemplate
      privateTemplate hasHandles = generatedPair oracle state sessionHandle mechanism
        publicTemplate privateTemplate hasHandles := rfl
  rw [same]
  split
  · rfl
  · exact suits.storeKeyPair_eq _ _

theorem unwrapKey_eq (mechanism : Option Mechanism) {wrappingHandle : Nat} (input : Buffer)
    (attributes : Template) (hasHandle : Bool) (shown : disguise.hides wrappingHandle = false) :
    unwrapKey host oracle (disguise.state state) sessionHandle mechanism wrappingHandle input
        attributes hasHandle =
      disguise.result (unwrapKey host oracle state sessionHandle mechanism wrappingHandle input
        attributes hasHandle) := by
  unfold unwrapKey
  rw [suits.unwrappedBytes_eq mechanism input attributes hasHandle shown]
  split
  · rfl
  · rename_i raw _
    dsimp only
    split
    · split
      · rfl
      · have same : unwrappedSecret (disguise.state state) sessionHandle attributes
            (templateString attributes ckaLabel (ascii "unwrapped-key")) raw =
            unwrappedSecret state sessionHandle attributes
              (templateString attributes ckaLabel (ascii "unwrapped-key")) raw := rfl
        rw [same]
        split
        · rfl
        · rename_i made
          rcases unwrappedSecret_eq_ok made with ⟨_, _, _, _, _, _, rfl⟩
          exact suits.storeNext_eq rfl _
    · split
      · rfl
      · have same : unwrappedPair host (disguise.state state) sessionHandle attributes
            (templateString attributes ckaLabel (ascii "unwrapped-key")) raw =
            unwrappedPair host state sessionHandle attributes
              (templateString attributes ckaLabel (ascii "unwrapped-key")) raw := rfl
        rw [same]
        split
        · rfl
        · exact suits.storeKeyPair_eq _ _

theorem deriveKey_eq (mechanism : Option Mechanism) {baseKey : Nat} (attributes : Template)
    (hasHandle : Bool) (shown : disguise.hides baseKey = false) :
    deriveKey host oracle (disguise.state state) sessionHandle mechanism baseKey attributes
        hasHandle =
      disguise.result (deriveKey host oracle state sessionHandle mechanism baseKey attributes
        hasHandle) := by
  unfold deriveKey
  rw [suits.derivation_eq mechanism attributes hasHandle shown]
  split
  · rfl
  · exact suits.storeNext_eq rfl _

omit suits

/-! ## Sessions -/

theorem closeSession_eq :
    closeSession (disguise.state state) sessionHandle =
      disguise.result (closeSession state sessionHandle) := by
  have dropped : (disguise.state state).dropSession sessionHandle =
      disguise.state (state.dropSession sessionHandle) := by
    have swept : (state.objects.eraseIf fun _ object =>
          object.ownerSession = sessionHandle).mapValues disguise.object =
        (state.objects.mapValues disguise.object).eraseIf fun _ object =>
          object.ownerSession = sessionHandle :=
      OrderedMap.mapValues_eraseIf _ _ fun _ _ _ => rfl
    unfold State.dropSession
    rw [objects_state, ← swept]
    rfl
  unfold closeSession
  rw [findSession_state, dropped]
  cases state.findSession sessionHandle with
  | none => rfl
  | some session =>
      have sameSessions : (disguise.state (state.dropSession sessionHandle)).hasSession
          session.slotId = (state.dropSession sessionHandle).hasSession session.slotId := rfl
      have sameSlot : (disguise.state (state.dropSession sessionHandle)).findSlot session.slotId =
          (state.dropSession sessionHandle).findSlot session.slotId := rfl
      dsimp only
      rw [sameSessions, sameSlot]
      split
      · rfl
      · split <;> rfl

theorem closeAllSessions_eq (slotId : Nat) :
    closeAllSessions (disguise.state state) slotId =
      disguise.result (closeAllSessions state slotId) := by
  have swept : (state.objects.eraseIf fun _ object =>
        object.slotId = slotId && object.ownerSession ≠ 0).mapValues disguise.object =
      (state.objects.mapValues disguise.object).eraseIf fun _ object =>
        object.slotId = slotId && object.ownerSession ≠ 0 :=
    OrderedMap.mapValues_eraseIf _ _ fun _ _ _ => rfl
  unfold closeAllSessions
  rw [objects_state, ← swept]
  have same : (disguise.state state).findSlot slotId = state.findSlot slotId := rfl
  rw [same]
  split <;> rfl

theorem logout_eq :
    logout (disguise.state state) sessionHandle =
      disguise.result (logout state sessionHandle) := by
  have purged (state : State) (slotId : Nat) :
      (disguise.state state).purgeSlot slotId = disguise.state (state.purgeSlot slotId) := by
    have swept : (state.objects.eraseIf fun _ object => object.slotId = slotId &&
          object.ownerSession ≠ 0 && isProtectedObject object).mapValues disguise.object =
        (state.objects.mapValues disguise.object).eraseIf fun _ object => object.slotId = slotId &&
          object.ownerSession ≠ 0 && isProtectedObject object :=
      OrderedMap.mapValues_eraseIf _ _ fun _ _ _ => rfl
    unfold State.purgeSlot
    rw [objects_state, ← swept]
    rfl
  unfold logout
  rw [findSession_state, sessionSlot_state]
  split
  · rfl
  · rename_i session slot _
    rw [Disguise.result, ← purged]
    rfl

theorem openSession_eq (slotId flags : Nat) (hasHandle : Bool) :
    openSession (disguise.state state) slotId flags hasHandle =
      disguise.result (openSession state slotId flags hasHandle) := by
  unfold openSession
  have same : openSessionChecks (disguise.state state) slotId flags hasHandle =
      openSessionChecks state slotId flags hasHandle := rfl
  rw [same]
  split <;> rfl

theorem login_eq (userType : Nat) (pin : Buffer) :
    login (disguise.state state) sessionHandle userType pin =
      disguise.result (login state sessionHandle userType pin) := by
  unfold login
  have same : loginChecks (disguise.state state) sessionHandle userType pin =
      loginChecks state sessionHandle userType pin := rfl
  rw [same]
  split <;> rfl

theorem changePin_eq (slotId : Nat) (slot : Slot) (role : UserType) (pin : Buffer) :
    changePin (disguise.state state) oracle slotId slot role pin =
      disguise.result (changePin state oracle slotId slot role pin) := by
  unfold changePin
  rw [disk_state]
  split <;> rfl

theorem initPin_eq (pin : Buffer) :
    initPin (disguise.state state) oracle sessionHandle pin =
      disguise.result (initPin state oracle sessionHandle pin) := by
  unfold initPin
  have same : initPinChecks (disguise.state state) sessionHandle =
      initPinChecks state sessionHandle := rfl
  rw [same]
  split
  · rfl
  · exact changePin_eq _ _ _ _

theorem setPin_eq (oldPin newPin : Buffer) :
    setPin (disguise.state state) oracle sessionHandle oldPin newPin =
      disguise.result (setPin state oracle sessionHandle oldPin newPin) := by
  unfold setPin
  have same : setPinChecks (disguise.state state) sessionHandle oldPin newPin =
      setPinChecks state sessionHandle oldPin newPin := rfl
  rw [same]
  split
  · rfl
  · exact changePin_eq _ _ _ _

theorem appendSignatureData_eq (data : Buffer) (verify : Bool) :
    appendSignatureData (disguise.state state) sessionHandle data verify =
      disguise.result (appendSignatureData state sessionHandle data verify) := by
  unfold appendSignatureData
  have same : signingSession (disguise.state state) sessionHandle verify =
      signingSession state sessionHandle verify := rfl
  rw [same]
  split
  · rfl
  · split
    · rfl
    · split <;> rfl

theorem findObjectsFinal_eq :
    findObjectsFinal (disguise.state state) sessionHandle =
      disguise.result (findObjectsFinal state sessionHandle) := by
  unfold findObjectsFinal
  rw [findSession_state]
  split <;> rfl

end Disguise.Suits

/-! ## Calls -/

/-- The call works with the key: it completes a signature, wraps, unwraps or derives with it,
or wraps it where it may be extracted. -/
def Call.Employs (state : State) (handle : Nat) : Call → Prop
  | .sign sessionHandle _ _ _ | .signFinal sessionHandle _ _ | .verify sessionHandle _ _
  | .verifyFinal sessionHandle _ =>
      ∃ session, state.findSession sessionHandle = some session ∧
        session.operation.active = true ∧ session.operation.keyHandle = handle
  | .wrapKey _ _ wrappingHandle keyHandle _ _ => wrappingHandle = handle ∨
      keyHandle = handle ∧ ∃ object, state.objects.get? keyHandle = some object ∧
        policyValue object ckaExtractable = true
  | .unwrapKey _ _ wrappingHandle _ _ _ => wrappingHandle = handle
  | .deriveKey _ _ baseKey _ _ => baseKey = handle
  | _ => False

/-- The call works with no disguised key. -/
def Disguise.Spares {openSsl : OpenSsl} (disguise : Disguise openSsl) (state : State)
    (input : Call × Oracle) : Prop :=
  ∀ handle, input.1.Employs state handle → disguise.hides handle = false

section

variable {host : Host} {oracle : Oracle} {state : State} {disguise : Disguise host.openSsl}

theorem Disguise.Suits.service_eq (suits : disguise.Suits state) {call : Call}
    (isOpen : state.initialized = true) (spares : disguise.Spares state (call, oracle)) :
    service host oracle (disguise.state state) call =
      disguise.result (service host oracle state call) := by
  cases call with
  | cInitialize hasReserved =>
      have stillOpen : (disguise.state state).initialized = true := isOpen
      simp only [service, cInitialize, isOpen, stillOpen, if_true]
      rfl
  | cFinalize hasReserved =>
      have stillOpen : (disguise.state state).initialized = true := isOpen
      simp only [service, cFinalize, isOpen, stillOpen]
      split
      · rfl
      · split <;> rfl
  | openSession => exact openSession_eq _ _ _
  | closeSession => exact closeSession_eq
  | closeAllSessions => exact closeAllSessions_eq _
  | initPin => exact initPin_eq _
  | setPin => exact setPin_eq _ _
  | login => exact login_eq _ _
  | logout => exact logout_eq
  | destroyObject => exact destroyObject_eq _
  | getAttributeValue sessionHandle handle attributes =>
      exact Prod.ext rfl (suits.getAttributeValue_eq handle attributes)
  | setAttributeValue => exact setAttributeValue_eq _ _
  | findObjectsInit => exact suits.findObjectsInit_eq _
  | findObjects => exact findObjects_eq _ _ _
  | findObjectsFinal => exact findObjectsFinal_eq
  | signInit | verifyInit => exact initializeSignature_eq _ _ _
  | sign => exact suits.sign_eq (fun _ found active => spares _ ⟨_, found, active, rfl⟩) _ _ _
  | signUpdate | verifyUpdate => exact appendSignatureData_eq _ _
  | signFinal =>
      exact suits.signFinal_eq (fun _ found active => spares _ ⟨_, found, active, rfl⟩) _ _
  | verify => exact suits.verify_eq (fun _ found active => spares _ ⟨_, found, active, rfl⟩) _ _
  | verifyFinal =>
      exact suits.verifyFinal_eq (fun _ found active => spares _ ⟨_, found, active, rfl⟩) _
  | generateKey => exact suits.generateKey_eq _ _ _
  | generateKeyPair => exact suits.generateKeyPair_eq _ _ _ _
  | wrapKey sessionHandle mechanism wrappingHandle keyHandle output hasLength =>
      have same := @Disguise.Suits.wrapInput_eq host state disguise suits sessionHandle
        wrappingHandle keyHandle hasLength (spares _ (Or.inl rfl))
        fun object found extractable => spares _ (Or.inr ⟨rfl, object, found, extractable⟩)
      refine Prod.ext rfl ?_
      change wrapKey host oracle (disguise.state state) sessionHandle mechanism wrappingHandle
        keyHandle output hasLength = wrapKey host oracle state sessionHandle mechanism
          wrappingHandle keyHandle output hasLength
      rw [wrapKey, wrapKey, same]
  | unwrapKey => exact suits.unwrapKey_eq _ _ _ _ (spares _ rfl)
  | deriveKey => exact suits.deriveKey_eq _ _ _ (spares _ rfl)
  | _ => rfl

theorem Disguise.Suits.step_eq (suits : disguise.Suits state) {input : Call × Oracle}
    (isOpen : state.initialized = true) (spares : disguise.Spares state input) :
    HsmSimulator.step host (disguise.state state) input =
      disguise.result (HsmSimulator.step host state input) := by
  rcases input with ⟨call, oracle⟩
  have stillOpen : (disguise.state state).initialized = true := isOpen
  rw [step_of_open isOpen, step_of_open stillOpen]
  exact suits.service_eq isOpen spares

theorem isGuarded_of_same {before after : Object} (same : SameObject before after)
    (guarded : before.isGuarded = true) : after.isGuarded = true := by
  have sameClass := objectClass_eq_of_core same.core
  have sensitive := same.keeps.sensitive
  have extractable := same.keeps.extractable
  simp only [Object.isGuarded, Bool.or_eq_true, decide_eq_true_eq, Bool.not_eq_true'] at *
  rw [sameClass]
  rcases guarded with (otherClass | isSensitive) | unextractable
  · exact Or.inl (Or.inl otherClass)
  · exact Or.inl (Or.inr (sensitive isSensitive))
  · exact Or.inr (extractable unextractable)

/-- Guarded objects stay so while the module is open. -/
theorem Disguise.Suits.step (suits : disguise.Suits state) (input : Call × Oracle)
    (isOpen : state.initialized = true) :
    disguise.Suits (HsmSimulator.step host state input).1 := by
  rcases input with ⟨call, oracle⟩
  have effect : Effect host oracle state call (HsmSimulator.step host state (call, oracle)) :=
    step_effect suits.wellFormed call
  have advances := effect.objectsAdvance suits.wellFormed isOpen
  constructor
  · exact suits.wellFormed.step (call, oracle)
  · intro handle object found hidden
    rcases advances.entered handle object found with ⟨old, oldFound, same⟩ | fresh
    · exact isGuarded_of_same same (suits.guarded handle old oldFound hidden)
    · exact absurd (suits.issued handle hidden) (Nat.not_lt.mpr fresh)
  · intro handle hidden
    exact (suits.issued handle hidden).trans_le advances.counter

/-- A closed module has nothing to disguise. -/
theorem Disguise.state_of_closed (disguise : Disguise host.openSsl) (wellFormed : WellFormed state)
    (closed : state.initialized = false) : disguise.state state = state := by
  have empty := (wellFormed.closed closed).2.1
  unfold Disguise.state
  rw [empty, show (∅ : OrderedMap Nat Object).mapValues disguise.object = ∅ from rfl, ← empty]

/-- The second state is the first, disguised while the module is open. -/
def Disguise.Veils (disguise : Disguise host.openSsl) (state other : State) : Prop :=
  other = state ∨ other = disguise.state state ∧ disguise.Suits state ∧ state.initialized = true

theorem Disguise.Veils.step {other : State} (veils : disguise.Veils state other)
    (input : Call × Oracle) (spares : disguise.Spares state input) :
    (HsmSimulator.step host state input).2 = (HsmSimulator.step host other input).2 ∧
      disguise.Veils (HsmSimulator.step host state input).1
        (HsmSimulator.step host other input).1 := by
  rcases veils with rfl | ⟨rfl, suits, isOpen⟩
  · exact ⟨rfl, Or.inl rfl⟩
  · rw [suits.step_eq isOpen spares]
    refine ⟨rfl, ?_⟩
    have kept := suits.step input isOpen
    cases stays : (HsmSimulator.step host state input).1.initialized with
    | false => exact Or.inl (disguise.state_of_closed kept.wellFormed stays)
    | true => exact Or.inr ⟨rfl, kept, stays⟩

/-- Calls that do not work with the guarded keys give the same responses and leave the same
files whatever the values of these keys are. -/
theorem secrets_confined (reachable : Reachable host state) (disguise : Disguise host.openSsl)
    (guarded : ∀ handle, disguise.hides handle = true →
      ∃ object, state.objects.get? handle = some object ∧ object.isGuarded = true)
    (inputs : List (Call × Oracle))
    (spares : Runs.Along (HsmSimulator.step host) disguise.Spares state inputs) :
    Runs.outputs (HsmSimulator.step host) (disguise.state state) inputs =
        Runs.outputs (HsmSimulator.step host) state inputs ∧
      (Runs.final (HsmSimulator.step host) (disguise.state state) inputs).disk =
        (Runs.final (HsmSimulator.step host) state inputs).disk := by
  have wellFormed := reachable.wellFormed
  have veils : disguise.Veils state (disguise.state state) := by
    cases isOpen : state.initialized with
    | false => exact Or.inl (disguise.state_of_closed wellFormed isOpen)
    | true =>
        refine Or.inr ⟨rfl, ⟨wellFormed, ?_, ?_⟩, isOpen⟩
        · intro handle object found hidden
          rcases guarded handle hidden with ⟨stored, storedFound, isGuarded⟩
          rw [storedFound] at found
          cases found
          exact isGuarded
        · intro handle hidden
          rcases guarded handle hidden with ⟨stored, storedFound, _⟩
          exact (wellFormed.objectKey handle stored storedFound).2.2
  have run := Runs.related_run (fun _ _ input pair condition => pair.step input condition) veils
    spares
  refine ⟨run.1.symm, ?_⟩
  rcases run.2 with same | ⟨same, _, _⟩
  · rw [same]
  · rw [same]
    rfl

end

/-- Zeros for the value of one secret key. -/
def Disguise.zeros (openSsl : OpenSsl) (hidden : Nat) : Disguise openSsl where
  hides handle := handle = hidden
  secret _ value := List.replicate value.length 0
  key _ original := original
  length_secret _ _ := List.length_replicate
  bits_key _ _ := rfl
  bnParam_key _ _ := rfl
  groupName_key _ _ := rfl
  encodedPoint_key _ _ := rfl

/-- A sensitive key of the token, seen by its user. -/
theorem secrets_confined_sensitive :
    let state := Runs.final (step .plain) (.loaded ⟨∅, ∅⟩) (plainRun
      [.cInitialize false, .openSession 1 6 true, aesKey 1,
        .setAttributeValue 1 1 (.entries [⟨ckaSensitive, .bytes [1]⟩])])
    let inputs := plainRun
      [.getAttributeValue 1 1 (.entries [⟨ckaValue, true, 32⟩, ⟨ckaValueLen, true, 8⟩]),
        .findObjectsInit 1 (.entries []), .findObjects 1 true 10 true, .destroyObject 1 1]
    let disguise := Disguise.zeros OpenSsl.plain 1
    Runs.outputs (step .plain) (disguise.state state) inputs =
        Runs.outputs (step .plain) state inputs ∧
      (Runs.final (step .plain) (disguise.state state) inputs).disk =
        (Runs.final (step .plain) state inputs).disk := by
  intro state inputs disguise
  have isGuarded : ∃ object, state.objects.get? 1 = some object ∧ object.isGuarded = true := by
    decide
  refine @secrets_confined .plain state ⟨_, _, rfl⟩ disguise ?_ inputs ?_
  · intro handle hidden
    have isKey : handle = 1 := of_decide_eq_true hidden
    rw [isKey]
    exact isGuarded
  · refine ⟨?_, ?_, ?_, ?_, trivial⟩ <;>
      · intro handle employs
        exact employs.elim

end HsmSimulator
