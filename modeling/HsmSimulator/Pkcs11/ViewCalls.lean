import HsmSimulator.Pkcs11.Views

/-!
# Calls on two tables that look the same

Every call gives the same response on two tables that the sessions of its slot cannot
tell apart, and changes the two tables alike.
-/

namespace HsmSimulator

open Checks FileSystem

/-- Both are there or none is: the checks after the value was fetched cannot tell. -/
theorem fetch_of_isSome {α β : Type} {first second : Option α}
    (same : first.isSome = second.isSome) (missing code : Rv) :
    ((fetch second missing >>= fun _ => .error code) : Except Rv β) =
      fetch first missing >>= fun _ => .error code := by
  cases first <;> cases second <;> first | rfl | contradiction

namespace SameView

variable {slotId : Nat} {state : State} {objects : OrderedMap Nat Object} {sessionHandle : Nat}
  (view : SameView slotId state objects) (onSlot : state.OnSlot slotId sessionHandle)

include view onSlot

/-! ## Objects -/

theorem readableObject_eq (handle : Nat) :
    readableObject (state.withObjects objects) sessionHandle handle =
      readableObject state sessionHandle handle := by
  unfold readableObject
  rcases view.lookup onSlot handle with same | ⟨found, otherFound, _, code, _, status, otherStatus⟩
  · rw [same]
    rfl
  · simp only [found, otherFound, status, otherStatus, fetch_some, ok_bind, error_bind,
      findSession_withObjects, objectAccessStatus_withObjects]

theorem getAttributeValue_eq (host : Host) (handle : Nat) (attributes : QueryTemplate) :
    getAttributeValue host (state.withObjects objects) sessionHandle handle attributes =
      getAttributeValue host state sessionHandle handle attributes := by
  rw [getAttributeValue, getAttributeValue, view.readableObject_eq onSlot]

theorem alterableObject_eq (handle required : Nat) :
    alterableObject (state.withObjects objects) sessionHandle handle required =
      alterableObject state sessionHandle handle required := by
  unfold alterableObject
  rcases view.lookup onSlot handle with same | ⟨found, otherFound, _, code, access, _, _⟩
  · rw [same]
    rfl
  · simp only [found, otherFound, access, fetch_some, ok_bind, error_bind,
      findSession_withObjects, requireUserLogin_withObjects]

theorem changedObject_eq (handle : Nat) (attributes : Template) :
    changedObject (state.withObjects objects) sessionHandle handle attributes =
      changedObject state sessionHandle handle attributes := by
  rw [changedObject, changedObject, view.alterableObject_eq onSlot]

/-- The objects of the key file of an accessible object are the same. -/
theorem samePath_of_access {handle : Nat} {object : Object}
    (found : state.findObject sessionHandle handle = some object)
    (access : state.requireUserLogin sessionHandle = .ok ()) (token : object.ownerSession = 0) :
    SamePath object.path state.objects objects := by
  rcases State.findObject_eq_some_iff.mp found with ⟨session, sessionFound, stored, sameSlot⟩
  rcases State.requireUserLogin_eq_ok_iff.mp access with ⟨slot, slotOfSession, grants⟩
  rcases State.sessionSlot_eq_some_iff.mp slotOfSession with ⟨other, otherFound, slotFound⟩
  rw [sessionFound] at otherFound
  cases otherFound
  rcases view.wellFormed.tokenObject handle object stored token with
    ⟨_, _, owner, ownerFound, keyPath⟩
  rw [sameSlot, slotFound] at ownerFound
  cases ownerFound
  rw [onSlot session sessionFound] at slotFound
  exact view.samePath slotFound grants keyPath

omit view onSlot in
theorem collectMetadata_congr {left right : OrderedMap Nat Object} {path : Path}
    (same : SamePath path left right) (oracle : Oracle) (replacement : Option Object) :
    collectMetadata oracle right path replacement =
      collectMetadata oracle left path replacement := by
  have filtered : (right.filter fun _ object => object.ownerSession = 0 && object.path = path) =
      left.filter fun _ object => object.ownerSession = 0 && object.path = path := by
    apply OrderedMap.ext_get?
    intro handle
    ext object
    rw [OrderedMap.get?_filter, OrderedMap.get?_filter, Option.filter_eq_some_iff,
      Option.filter_eq_some_iff, Bool.and_eq_true, decide_eq_true_eq, decide_eq_true_eq]
    constructor
    · rintro ⟨found, token, isPath⟩
      exact ⟨(same handle object isPath).mpr found, token, isPath⟩
    · rintro ⟨found, token, isPath⟩
      exact ⟨(same handle object isPath).mp found, token, isPath⟩
  simp only [collectMetadata, filtered]

theorem setAttributeValue_alike (oracle : Oracle) (handle : Nat) (attributes : Template) :
    Alike state objects (setAttributeValue state oracle sessionHandle handle attributes)
      (setAttributeValue (state.withObjects objects) oracle sessionHandle handle attributes) := by
  unfold setAttributeValue
  rw [view.changedObject_eq onSlot]
  cases checks : changedObject state sessionHandle handle attributes with
  | error code => exact .kept rfl
  | ok changed =>
      rcases changedObject_eq_ok checks with ⟨object, change⟩
      dsimp only
      split
      · rename_i token
        have samePath : SamePath changed.path state.objects objects := by
          rw [path_eq_of_core change.core_eq]
          rw [ownerSession_eq_of_core change.core_eq] at token
          exact view.samePath_of_access onSlot change.found change.access token
        rw [disk_withObjects, objects_withObjects, collectMetadata_congr samePath]
        split
        · exact ⟨rfl, SameChange.insert _ _⟩
        · exact .kept rfl
      · exact ⟨rfl, SameChange.insert _ _⟩

theorem destroyableObject_eq (handle : Nat) :
    destroyableObject (state.withObjects objects) sessionHandle handle =
      destroyableObject state sessionHandle handle := by
  rw [destroyableObject, destroyableObject, view.alterableObject_eq onSlot]
  cases checks : alterableObject state sessionHandle handle ckaDestroyable with
  | error code => rfl
  | ok object =>
      have veto : objects.values.any (fun other => object.ownerSession = 0 &&
            other.path = object.path && !policyValue other ckaDestroyable) =
          state.objects.values.any fun other => object.ownerSession = 0 &&
            other.path = object.path && !policyValue other ckaDestroyable := by
        rcases alterableObject_eq_ok checks with ⟨found, access, _, _⟩
        rw [Bool.eq_iff_iff, List.any_eq_true, List.any_eq_true]
        simp only [OrderedMap.mem_values_iff, Bool.and_eq_true, decide_eq_true_eq]
        constructor
        · rintro ⟨other, ⟨key, stored⟩, ⟨token, isPath⟩, vetoes⟩
          have same := view.samePath_of_access onSlot found access token key other isPath
          exact ⟨other, ⟨key, same.mpr stored⟩, ⟨token, isPath⟩, vetoes⟩
        · rintro ⟨other, ⟨key, stored⟩, ⟨token, isPath⟩, vetoes⟩
          have same := view.samePath_of_access onSlot found access token key other isPath
          exact ⟨other, ⟨key, same.mp stored⟩, ⟨token, isPath⟩, vetoes⟩
      simp only [ok_bind, State.withObjects, veto]

theorem destroyObject_alike (oracle : Oracle) (handle : Nat) :
    Alike state objects (destroyObject state oracle sessionHandle handle)
      (destroyObject (state.withObjects objects) oracle sessionHandle handle) := by
  unfold destroyObject
  rw [view.destroyableObject_eq onSlot]
  cases checks : destroyableObject state sessionHandle handle with
  | error code => exact .kept rfl
  | ok object =>
      have destruction := destroyableObject_eq_ok checks
      dsimp only
      split
      · rename_i token
        have samePath := view.samePath_of_access onSlot destruction.found destruction.access token
        have swept : SameChange state.objects objects
            (state.objects.eraseIf fun _ other => other.path = object.path)
            (objects.eraseIf fun _ other => other.path = object.path) :=
          SameChange.eraseIf (samePath.any fun other isPath => by simpa using isPath)
        unfold destroyKeyFile
        rw [disk_withObjects]
        cases state.disk.remove oracle object.path with
        | mk disk failed =>
            cases failed with
            | true => exact .kept rfl
            | false => exact ⟨rfl, swept⟩
      · exact ⟨rfl, SameChange.erase _⟩

/-! ## Searching -/

theorem stillVisible_eq :
    stillVisible (state.withObjects objects) sessionHandle = stillVisible state sessionHandle := by
  funext handle
  unfold stillVisible
  rcases view.lookup onSlot handle with same | ⟨found, otherFound, _, code, _, status, otherStatus⟩
  · rw [same]
    rfl
  · simp only [found, otherFound, status, otherStatus, objectAccessStatus_withObjects]

theorem findObjects_alike (hasOutput : Bool) (capacity : Nat) (hasCount : Bool) :
    Alike state objects (findObjects state sessionHandle hasOutput capacity hasCount)
      (findObjects (state.withObjects objects) sessionHandle hasOutput capacity hasCount) := by
  unfold findObjects
  rw [view.stillVisible_eq onSlot, findSession_withObjects]
  split
  · exact .kept rfl
  · exact .kept rfl

theorem matches_eq (host : Host) {session : Session} (attributes : Template)
    (found : state.findSession sessionHandle = some session) :
    (objects.filter fun _ object =>
        matchesTemplate host (state.withObjects objects) sessionHandle session attributes object) =
      state.objects.filter fun _ object =>
        matchesTemplate host state sessionHandle session attributes object := by
  have sameSlot := onSlot session found
  apply OrderedMap.ext_get?
  intro handle
  rw [OrderedMap.get?_filter, OrderedMap.get?_filter]
  have pair := view.pairs handle
  change (objects.get? handle).filter (fun object =>
    matchesTemplate host state sessionHandle session attributes object) = _
  generalize state.objects.get? handle = first at pair ⊢
  generalize objects.get? handle = second at pair ⊢
  have unmatched (entry : Option Object) (fails : ∀ object, entry = some object →
      matchesTemplate host state sessionHandle session attributes object = false) :
      entry.filter (fun object =>
        matchesTemplate host state sessionHandle session attributes object) = none := by
    rw [Option.filter_eq_none_iff]
    intro object isEntry
    simpa using fails object isEntry
  cases pair with
  | same => rfl
  | foreign mine other =>
      rw [unmatched second, unmatched first]
      · intro object isEntry
        simp [matchesTemplate, sameSlot, mine object isEntry]
      · intro object isEntry
        simp [matchesTemplate, sameSlot, other object isEntry]
  | concealed denies concealed =>
      have access := view.denies_access denies onSlot found
      rw [unmatched, unmatched]
      · rintro object ⟨⟩
        simp [matchesTemplate, State.objectAccessStatus, concealed.guarded, access]
      · rintro object ⟨⟩
        simp [matchesTemplate, State.objectAccessStatus, concealed.otherGuarded, access]

theorem findObjectsInit_alike (host : Host) (attributes : Template) :
    Alike state objects (findObjectsInit host state sessionHandle attributes)
      (findObjectsInit host (state.withObjects objects) sessionHandle attributes) := by
  unfold findObjectsInit
  have sameChecks : searchingSession (state.withObjects objects) sessionHandle attributes =
      searchingSession state sessionHandle attributes := rfl
  rw [sameChecks]
  cases checks : searchingSession state sessionHandle attributes with
  | error code => exact .kept rfl
  | ok session =>
      simp only [searchingSession, bind_eq_ok_iff, fetch_eq_ok_iff, pure_eq_ok, Except.ok.injEq]
        at checks
      rcases checks with ⟨stored, found, _, _, _, _, _, _, rfl⟩
      dsimp only
      rw [objects_withObjects, view.matches_eq onSlot host attributes found]
      exact .kept rfl

/-! ## Signatures -/

theorem signatureOperation_eq (host : Host) (mechanism : Option Mechanism) (keyHandle : Nat)
    (verify : Bool) :
    signatureOperation host (state.withObjects objects) sessionHandle mechanism keyHandle verify =
      signatureOperation host state sessionHandle mechanism keyHandle verify := by
  unfold signatureOperation
  rcases view.lookup onSlot keyHandle with same | ⟨found, otherFound, keys, code, _, status, other⟩
  · rw [same]
    rfl
  · rename_i first second
    simp only [found, otherFound, fetch_some, ok_bind, findSession_withObjects,
      objectAccessStatus_withObjects, status, other, error_bind]
    rw [fetch_of_isSome keys]

theorem initializeSignature_alike (host : Host) (mechanism : Option Mechanism) (keyHandle : Nat)
    (verify : Bool) :
    Alike state objects
      (initializeSignature host state sessionHandle mechanism keyHandle verify)
      (initializeSignature host (state.withObjects objects) sessionHandle mechanism keyHandle
        verify) := by
  unfold initializeSignature
  rw [view.signatureOperation_eq onSlot]
  split
  · exact .kept rfl
  · exact .kept rfl

theorem signatureKey_eq (operation : Operation) (verify : Bool) :
    signatureKey (state.withObjects objects) sessionHandle operation verify =
      signatureKey state sessionHandle operation verify := by
  unfold signatureKey
  rcases view.lookup onSlot operation.keyHandle with
    same | ⟨found, otherFound, keys, code, _, status, other⟩
  · rw [same]
    rfl
  · simp only [found, otherFound, fetch_some, ok_bind, objectAccessStatus_withObjects, status,
      other, error_bind]
    rw [fetch_of_isSome keys]

theorem completeSign_alike (host : Host) (oracle : Oracle) (session : Session) (data : Bytes)
    (signature : OutputBuffer) :
    Alike state objects (completeSign host oracle state sessionHandle session data signature)
      (completeSign host oracle (state.withObjects objects) sessionHandle session data
        signature) := by
  have same : executeSign host oracle (state.withObjects objects) sessionHandle session.operation
      data signature = executeSign host oracle state sessionHandle session.operation data
        signature := by
    rw [executeSign, executeSign, view.signatureKey_eq onSlot]
  unfold completeSign
  rw [same]
  dsimp only
  split
  · exact .kept rfl
  · exact .kept rfl

theorem completeVerify_alike (host : Host) (oracle : Oracle) (session : Session) (data : Bytes)
    (signature : Buffer) :
    Alike state objects (completeVerify host oracle state sessionHandle session data signature)
      (completeVerify host oracle (state.withObjects objects) sessionHandle session data
        signature) := by
  unfold completeVerify
  rw [executeVerify, executeVerify, verification, verification, view.signatureKey_eq onSlot]
  exact .kept rfl

theorem sign_alike (host : Host) (oracle : Oracle) (data : Buffer) (signature : OutputBuffer)
    (hasLength : Bool) :
    Alike state objects (sign host oracle state sessionHandle data signature hasLength)
      (sign host oracle (state.withObjects objects) sessionHandle data signature hasLength) := by
  unfold sign
  have same : signingSession (state.withObjects objects) sessionHandle false =
      signingSession state sessionHandle false := rfl
  rw [same]
  split
  · exact .kept rfl
  · exact view.completeSign_alike onSlot _ _ _ _ _

theorem signFinal_alike (host : Host) (oracle : Oracle) (signature : OutputBuffer)
    (hasLength : Bool) :
    Alike state objects (signFinal host oracle state sessionHandle signature hasLength)
      (signFinal host oracle (state.withObjects objects) sessionHandle signature hasLength) := by
  unfold signFinal
  have same : signingSession (state.withObjects objects) sessionHandle false =
      signingSession state sessionHandle false := rfl
  rw [same]
  split
  · exact .kept rfl
  · exact view.completeSign_alike onSlot _ _ _ _ _

theorem verify_alike (host : Host) (oracle : Oracle) (data signature : Buffer) :
    Alike state objects (verify host oracle state sessionHandle data signature)
      (verify host oracle (state.withObjects objects) sessionHandle data signature) := by
  unfold verify
  have same : signingSession (state.withObjects objects) sessionHandle true =
      signingSession state sessionHandle true := rfl
  rw [same]
  split
  · exact .kept rfl
  · exact view.completeVerify_alike onSlot _ _ _ _ _

theorem verifyFinal_alike (host : Host) (oracle : Oracle) (signature : Buffer) :
    Alike state objects (verifyFinal host oracle state sessionHandle signature)
      (verifyFinal host oracle (state.withObjects objects) sessionHandle signature) := by
  unfold verifyFinal
  have same : signingSession (state.withObjects objects) sessionHandle true =
      signingSession state sessionHandle true := rfl
  rw [same]
  split
  · exact .kept rfl
  · exact view.completeVerify_alike onSlot _ _ _ _ _

/-! ## Wrapping -/

theorem wrapInput_eq (host : Host) (wrappingHandle keyHandle : Nat) (hasLength : Bool) :
    wrapInput host (state.withObjects objects) sessionHandle wrappingHandle keyHandle hasLength =
      wrapInput host state sessionHandle wrappingHandle keyHandle hasLength := by
  unfold wrapInput
  simp only [findSession_withObjects, requireUserLogin_withObjects]
  rcases view.lookup onSlot wrappingHandle with same | ⟨found, otherFound, _, code, access, _⟩
  · rw [same]
    rcases view.lookup onSlot keyHandle with keySame | ⟨keyFound, keyOther, _, code, access, _⟩
    · rw [keySame]
    · simp only [keyFound, keyOther, fetch_some, ok_bind, access, error_bind]
  · rcases view.lookup onSlot keyHandle with keySame | ⟨keyFound, keyOther, _⟩
    · simp only [found, otherFound, keySame, fetch_some, ok_bind, access, error_bind]
    · simp only [found, otherFound, keyFound, keyOther, fetch_some, ok_bind, access, error_bind]

theorem wrapKey_eq (host : Host) (oracle : Oracle) (mechanism : Option Mechanism)
    (wrappingHandle keyHandle : Nat) (output : OutputBuffer) (hasLength : Bool) :
    wrapKey host oracle (state.withObjects objects) sessionHandle mechanism wrappingHandle
        keyHandle output hasLength =
      wrapKey host oracle state sessionHandle mechanism wrappingHandle keyHandle output
        hasLength := by
  rw [wrapKey, wrapKey, view.wrapInput_eq onSlot]

theorem unwrappedBytes_eq (host : Host) (oracle : Oracle) (mechanism : Option Mechanism)
    (wrappingHandle : Nat) (input : Buffer) (attributes : Template) (hasHandle : Bool) :
    unwrappedBytes host oracle (state.withObjects objects) sessionHandle mechanism wrappingHandle
        input attributes hasHandle =
      unwrappedBytes host oracle state sessionHandle mechanism wrappingHandle input attributes
        hasHandle := by
  unfold unwrappedBytes
  rcases view.lookup onSlot wrappingHandle with same | ⟨found, otherFound, _, code, access, _⟩
  · rw [same]
    rfl
  · simp only [found, otherFound, fetch_some, ok_bind, findSession_withObjects,
      requireUserLogin_withObjects, access, error_bind]

theorem derivationMaster_eq (baseKey : Nat) :
    derivationMaster (state.withObjects objects) sessionHandle baseKey =
      derivationMaster state sessionHandle baseKey := by
  unfold derivationMaster
  rcases view.lookup onSlot baseKey with same | ⟨found, otherFound, _, code, access, _⟩
  · rw [same]
    rfl
  · simp only [found, otherFound, fetch_some, ok_bind, requireUserLogin_withObjects, access,
      error_bind]

theorem derivation_eq (host : Host) (oracle : Oracle) (mechanism : Option Mechanism)
    (baseKey : Nat) (attributes : Template) (hasHandle : Bool) :
    derivation host oracle (state.withObjects objects) sessionHandle mechanism baseKey attributes
        hasHandle =
      derivation host oracle state sessionHandle mechanism baseKey attributes hasHandle := by
  unfold derivation
  rw [view.derivationMaster_eq onSlot]
  rfl

/-! ## Creation -/

omit view onSlot

theorem publishKey_alike {path : Path} (same : SamePath path state.objects objects)
    (oracle : Oracle) (output : Output) :
    Alike state objects (publishKey state oracle path output)
      (publishKey (state.withObjects objects) oracle path output) := by
  have swept : SameChange state.objects objects
      (state.objects.eraseIf fun _ other => other.path = path)
      (objects.eraseIf fun _ other => other.path = path) :=
    SameChange.eraseIf (same.any fun other isPath => by simpa using isPath)
  unfold publishKey persistMetadata
  rw [disk_withObjects, objects_withObjects, collectMetadata_congr same]
  cases Metadata.create state.disk oracle path (collectMetadata oracle state.objects path none)
      false with
  | mk disk published =>
      cases published with
      | true => exact .kept rfl
      | false => exact ⟨rfl, swept⟩

theorem storeSecretKey_alike {object : Object} {token : Bool}
    (same : state.objects.get? object.handle = objects.get? object.handle)
    (samePath : token = true → SamePath object.path state.objects objects) (oracle : Oracle) :
    Alike state objects (storeSecretKey oracle state object token)
      (storeSecretKey oracle (state.withObjects objects) object token) := by
  have change : SameChange state.objects objects (state.objects.emplace object.handle object)
      (objects.emplace object.handle object) := .emplace same object
  cases token with
  | false => exact ⟨rfl, change⟩
  | true =>
      unfold storeSecretKey
      rw [if_pos rfl, if_pos rfl, disk_withObjects]
      split
      · rename_i disk saved
        have published : Alike
            { state with disk := disk, objects := state.objects.emplace object.handle object }
            (objects.emplace object.handle object) _ _ :=
          publishKey_alike (change.samePath (samePath rfl)) oracle (.handle object.handle)
        exact .after change published
      · exact .kept rfl

theorem registerKeyPair_alike (host : Host) (slotId : Nat) (label : Bytes) (path : Path)
    (key : EvpKey) (agree : ∀ handle, state.nextObjectHandle ≤ handle →
      state.objects.get? handle = objects.get? handle) :
    Alike state objects (registerKeyPair host oracle state slotId label path key none)
      (registerKeyPair host oracle (state.withObjects objects) slotId label path key none) := by
  unfold registerKeyPair
  cases objectIdForFilename host path.filename with
  | none => exact .kept rfl
  | some id =>
      have first := @SameChange.emplace state.objects objects _
        (agree state.nextObjectHandle (Nat.le_refl _))
        { pairPrivateObject host slotId label id path key with handle := state.nextObjectHandle }
      cases publicKeyOnly oracle key with
      | none => exact ⟨rfl, first⟩
      | some publicKey =>
          have next := first.get?_eq (agree (state.nextObjectHandle + 1) (Nat.le_succ _))
          exact ⟨rfl, first.trans (.emplace next
            { pairPublicObject host slotId label id path key publicKey with
              handle := state.nextObjectHandle + 1 })⟩

theorem finishKeyPair_alike {handle : Nat} {request : PairRequest}
    (same : state.objects.get? handle = objects.get? handle)
    (sameNext : state.objects.get? (handle + 1) = objects.get? (handle + 1))
    (samePath : request.token = true → SamePath request.path state.objects objects)
    (oracle : Oracle) (output : Output) :
    Alike state objects (finishKeyPair oracle state handle request output)
      (finishKeyPair oracle (state.withObjects objects) handle request output) := by
  unfold finishKeyPair
  rw [objects_withObjects, ← same, ← sameNext]
  split
  · exact .kept rfl
  · dsimp only
    split
    · exact ⟨rfl, SameChange.insert _ _⟩
    · rename_i privateObject _ _ publicObject _
      have change : SameChange state.objects objects
          ((state.objects.insert handle (request.patchPrivate privateObject.id
            privateObject)).insert (handle + 1)
              (request.patchPublic privateObject.id publicObject))
          ((objects.insert handle (request.patchPrivate privateObject.id privateObject)).insert
            (handle + 1) (request.patchPublic privateObject.id publicObject)) :=
        (SameChange.insert _ _).trans (SameChange.insert _ _)
      split
      · rename_i token
        exact .after change (publishKey_alike (change.samePath (samePath token)) oracle output)
      · exact ⟨rfl, change⟩

theorem storeKeyPair_alike {request : PairRequest} (agree : ∀ handle,
      state.nextObjectHandle ≤ handle → state.objects.get? handle = objects.get? handle)
    (samePath : request.token = true → SamePath request.path state.objects objects)
    (host : Host) (oracle : Oracle) (output : Nat → Output) :
    Alike state objects (storeKeyPair host oracle state request output)
      (storeKeyPair host oracle (state.withObjects objects) request output) := by
  unfold storeKeyPair
  rw [disk_withObjects]
  split
  · rename_i disk saved
    have registered := @registerKeyPair_alike { state with disk := disk } objects oracle host
      request.slot.id request.label request.path request.key agree
    change Alike _ _ _ (registerKeyPair host oracle
      { state.withObjects objects with disk := disk } _ _ _ _ none) at registered
    generalize registerKeyPair host oracle { state with disk := disk } request.slot.id
      request.label request.path request.key none = first at registered ⊢
    generalize registerKeyPair host oracle { state.withObjects objects with disk := disk }
      request.slot.id request.label request.path request.key none = second at registered ⊢
    rcases first with ⟨next, flag⟩
    rcases second with ⟨other, otherFlag⟩
    have frame := registered.frame
    have change := registered.objects
    dsimp only at frame change
    simp only [Prod.mk.injEq] at frame
    rcases frame with ⟨sameState, rfl⟩
    rw [sameState]
    cases otherFlag with
    | false => exact ⟨rfl, change⟩
    | true =>
        have same := change.get?_eq (agree state.nextObjectHandle (Nat.le_refl _))
        have sameNext := change.get?_eq (agree (state.nextObjectHandle + 1) (Nat.le_succ _))
        have sameFiles (token : request.token = true) := change.samePath (samePath token)
        exact .after change (finishKeyPair_alike same sameNext sameFiles oracle _)
  · exact .kept rfl

include view onSlot

/-- The objects of a key file that a guarded call may create are the same. -/
theorem samePath_of_guard {session : Session} {slot : Slot} {token : Bool} {path : Path}
    (guard : CreationGuard state sessionHandle session slot token)
    (keyPath : IsKeyPath slot.directory path) : SamePath path state.objects objects := by
  have slotFound := guard.slotFound
  rw [onSlot session guard.sessionFound] at slotFound
  exact view.samePath slotFound guard.access keyPath

omit onSlot in
/-- Handles not given out yet are free in both tables. -/
theorem agree_fresh {handle : Nat} (fresh : state.nextObjectHandle ≤ handle) :
    state.objects.get? handle = objects.get? handle := by
  have other : objects.get? handle = none := view.otherWellFormed.freshObject fresh
  rw [view.wellFormed.freshObject fresh, other]

/-- Storing the secret object of a guarded call. -/
theorem secretKey_alike (oracle : Oracle) {session : Session} {slot : Slot} {token : Bool}
    {object : Object} (label : Bytes) (handle : object.handle = state.nextObjectHandle)
    (guard : CreationGuard state sessionHandle session slot token)
    (path : object.path = if ownerOf token sessionHandle ≠ 0 then []
      else symmetricKeyPath slot label) :
    Alike state objects (storeSecretKey oracle state.takeHandle object token)
      (storeSecretKey oracle (state.withObjects objects).takeHandle object token) := by
  have same : state.objects.get? object.handle = objects.get? object.handle := by
    rw [handle]
    exact view.agree_fresh (Nat.le_refl _)
  have samePath (isToken : token = true) : SamePath object.path state.objects objects := by
    have valid := (guard.valid view.wellFormed).1
    rw [path, if_neg (not_not.mpr ((ownerOf_eq_zero_iff valid).mpr isToken))]
    exact view.samePath_of_guard onSlot guard (isKeyPath_symmetric slot label)
  have stored := @storeSecretKey_alike state.takeHandle objects object token same samePath oracle
  exact ⟨stored.frame, stored.objects⟩

/-- Storing the pair of a guarded call. -/
theorem keyPair_alike (host : Host) (oracle : Oracle) {call : Call} {session : Session}
    {slot : Slot} {token : Bool} {request : PairRequest}
    (guard : CreationGuard state sessionHandle session slot token)
    (made : request.MadeBy call sessionHandle slot token) (output : Nat → Output) :
    Alike state objects (storeKeyPair host oracle state request output)
      (storeKeyPair host oracle (state.withObjects objects) request output) := by
  apply storeKeyPair_alike fun _ fresh => view.agree_fresh fresh
  intro _
  rw [made.path]
  exact view.samePath_of_guard onSlot guard (isKeyPath_asymmetric slot request.label)

theorem generateKey_alike (oracle : Oracle) (mechanism : Option Mechanism)
    (attributes : Template) (hasHandle : Bool) :
    Alike state objects (generateKey oracle state sessionHandle mechanism attributes hasHandle)
      (generateKey oracle (state.withObjects objects) sessionHandle mechanism attributes
        hasHandle) := by
  unfold generateKey
  have sameLength : generatedKeyLength (state.withObjects objects) sessionHandle mechanism
      attributes hasHandle = generatedKeyLength state sessionHandle mechanism attributes
        hasHandle := rfl
  rw [sameLength]
  split
  · exact .kept rfl
  · rename_i keyLength length
    have sameObject : generatedKey oracle (state.withObjects objects) sessionHandle attributes
        keyLength = generatedKey oracle state sessionHandle attributes keyLength := rfl
    rw [sameObject]
    split
    · exact .kept rfl
    · rename_i made
      rcases generatedKey_eq_ok (generatedKeyLength_eq_ok length) made with
        ⟨session, slot, label, id, path, value, guard, _, samePath, rfl⟩
      dsimp only
      rw [decide_ownerOf (guard.valid view.wellFormed).1]
      exact view.secretKey_alike onSlot oracle label rfl guard samePath

theorem generateKeyPair_alike (host : Host) (oracle : Oracle) (mechanism : Option Mechanism)
    (publicTemplate privateTemplate : Template) (hasHandles : Bool) :
    Alike state objects
      (generateKeyPair host oracle state sessionHandle mechanism publicTemplate privateTemplate
        hasHandles)
      (generateKeyPair host oracle (state.withObjects objects) sessionHandle mechanism
        publicTemplate privateTemplate hasHandles) := by
  unfold generateKeyPair
  have same : generatedPair oracle (state.withObjects objects) sessionHandle mechanism
      publicTemplate privateTemplate hasHandles = generatedPair oracle state sessionHandle mechanism
        publicTemplate privateTemplate hasHandles := rfl
  rw [same]
  split
  · exact .kept rfl
  · rename_i made
    rcases generatedPair_eq_ok made with ⟨session, slot, token, guard, asked⟩
    exact view.keyPair_alike onSlot host oracle guard asked _

theorem unwrapKey_alike (host : Host) (oracle : Oracle) (mechanism : Option Mechanism)
    (wrappingHandle : Nat) (input : Buffer) (attributes : Template) (hasHandle : Bool) :
    Alike state objects
      (unwrapKey host oracle state sessionHandle mechanism wrappingHandle input attributes
        hasHandle)
      (unwrapKey host oracle (state.withObjects objects) sessionHandle mechanism wrappingHandle
        input attributes hasHandle) := by
  unfold unwrapKey
  rw [view.unwrappedBytes_eq onSlot]
  split
  · exact .kept rfl
  · rename_i raw _
    dsimp only
    split
    · split
      · exact .kept rfl
      · have same : unwrappedSecret (state.withObjects objects) sessionHandle attributes
            (templateString attributes ckaLabel (ascii "unwrapped-key")) raw =
            unwrappedSecret state sessionHandle attributes
              (templateString attributes ckaLabel (ascii "unwrapped-key")) raw := rfl
        rw [same]
        split
        · exact .kept rfl
        · rename_i made
          rcases unwrappedSecret_eq_ok made with ⟨session, slot, id, path, guard, samePath, rfl⟩
          dsimp only
          rw [decide_ownerOf (guard.valid view.wellFormed).1]
          exact view.secretKey_alike onSlot oracle _ rfl guard samePath
    · split
      · exact .kept rfl
      · have same : unwrappedPair host (state.withObjects objects) sessionHandle attributes
            (templateString attributes ckaLabel (ascii "unwrapped-key")) raw =
            unwrappedPair host state sessionHandle attributes
              (templateString attributes ckaLabel (ascii "unwrapped-key")) raw := rfl
        rw [same]
        split
        · exact .kept rfl
        · rename_i made
          rcases unwrappedPair_eq_ok made mechanism wrappingHandle input hasHandle with
            ⟨session, slot, token, guard, asked⟩
          exact view.keyPair_alike onSlot host oracle guard asked _

theorem deriveKey_alike (host : Host) (oracle : Oracle) (mechanism : Option Mechanism)
    (baseKey : Nat) (attributes : Template) (hasHandle : Bool) :
    Alike state objects
      (deriveKey host oracle state sessionHandle mechanism baseKey attributes hasHandle)
      (deriveKey host oracle (state.withObjects objects) sessionHandle mechanism baseKey attributes
        hasHandle) := by
  unfold deriveKey
  rw [view.derivation_eq onSlot]
  split
  · exact .kept rfl
  · rename_i session slot value derived
    rcases derivation_eq_ok derived with ⟨guard, _⟩
    have valid := (guard.valid view.wellFormed).1
    refine view.secretKey_alike onSlot oracle
      (templateString attributes ckaLabel (ascii "derived-" ++ decimal state.nextObjectHandle)) rfl
      guard ?_
    cases token : derivationToken attributes with
    | false => simp [derivedObject, secretObject, ownerOf, valid, token]
    | true => simp [derivedObject, secretObject, ownerOf, token]

/-! ## Sessions and PINs -/

theorem closeSession_alike :
    Alike state objects (closeSession state sessionHandle)
      (closeSession (state.withObjects objects) sessionHandle) := by
  unfold closeSession
  rw [findSession_withObjects]
  cases found : state.findSession sessionHandle with
  | none => exact .kept rfl
  | some session =>
      have change : SameChange state.objects objects
          (state.objects.eraseIf fun _ object => object.ownerSession = sessionHandle)
          (objects.eraseIf fun _ object => object.ownerSession = sessionHandle) :=
        SameChange.eraseIf (view.sweep_owner onSlot found)
      have sameSessions :
          ((state.withObjects objects).dropSession sessionHandle).hasSession session.slotId =
            (state.dropSession sessionHandle).hasSession session.slotId := rfl
      have sameSlot :
          ((state.withObjects objects).dropSession sessionHandle).findSlot session.slotId =
            (state.dropSession sessionHandle).findSlot session.slotId := rfl
      dsimp only
      rw [sameSessions, sameSlot]
      split
      · exact ⟨rfl, change⟩
      · split
        · exact ⟨rfl, change⟩
        · exact ⟨rfl, change⟩

omit onSlot in
theorem closeAllSessions_alike :
    Alike state objects (closeAllSessions state slotId)
      (closeAllSessions (state.withObjects objects) slotId) := by
  have change : SameChange state.objects objects
      (state.objects.eraseIf fun _ object => object.slotId = slotId && object.ownerSession ≠ 0)
      (objects.eraseIf fun _ object => object.slotId = slotId && object.ownerSession ≠ 0) := by
    refine SameChange.eraseIf (view.sweep_slot fun first second concealed => ?_)
    rw [ownerSession_eq_of_shape concealed.shape]
  unfold closeAllSessions
  have same : (state.withObjects objects).findSlot slotId = state.findSlot slotId := rfl
  rw [same]
  split
  · exact .kept rfl
  · exact ⟨rfl, change⟩

theorem logout_alike :
    Alike state objects (logout state sessionHandle)
      (logout (state.withObjects objects) sessionHandle) := by
  unfold logout
  rw [findSession_withObjects, sessionSlot_withObjects]
  split
  · exact .kept rfl
  · rename_i session slot checks
    simp only [bind_eq_ok_iff, fetch_eq_ok_iff, require_eq_ok_iff, pure_eq_ok, Except.ok.injEq,
      Prod.mk.injEq] at checks
    rcases checks with ⟨found, sessionFound, stored, slotOfSession, _, _, rfl, rfl⟩
    rcases State.sessionSlot_eq_some_iff.mp slotOfSession with ⟨other, otherFound, slotFound⟩
    rw [sessionFound] at otherFound
    cases otherFound
    have sameSlot : stored.id = slotId :=
      (view.wellFormed.slotKey _ _ slotFound).trans (onSlot found sessionFound)
    have change : SameChange state.objects objects
        (state.objects.eraseIf fun _ object =>
          object.slotId = slotId && (object.ownerSession ≠ 0 && isProtectedObject object))
        (objects.eraseIf fun _ object =>
          object.slotId = slotId && (object.ownerSession ≠ 0 && isProtectedObject object)) := by
      refine SameChange.eraseIf (view.sweep_slot fun first second concealed => ?_)
      rw [ownerSession_eq_of_shape concealed.shape, concealed.guarded, concealed.otherGuarded]
    simp only [← Bool.and_assoc, ← sameSlot] at change
    exact ⟨rfl, change⟩

omit view onSlot

theorem changePin_alike (oracle : Oracle) (id : Nat) (slot : Slot) (role : UserType)
    (pin : Buffer) :
    Alike state objects (changePin state oracle id slot role pin)
      (changePin (state.withObjects objects) oracle id slot role pin) := by
  unfold changePin
  rw [disk_withObjects]
  split
  · exact .kept rfl
  · exact .kept rfl

theorem initPin_alike (oracle : Oracle) (pin : Buffer) :
    Alike state objects (initPin state oracle sessionHandle pin)
      (initPin (state.withObjects objects) oracle sessionHandle pin) := by
  unfold initPin
  have same : initPinChecks (state.withObjects objects) sessionHandle =
      initPinChecks state sessionHandle := rfl
  rw [same]
  split
  · exact .kept rfl
  · exact changePin_alike _ _ _ _ _

theorem setPin_alike (oracle : Oracle) (oldPin newPin : Buffer) :
    Alike state objects (setPin state oracle sessionHandle oldPin newPin)
      (setPin (state.withObjects objects) oracle sessionHandle oldPin newPin) := by
  unfold setPin
  have same : setPinChecks (state.withObjects objects) sessionHandle oldPin newPin =
      setPinChecks state sessionHandle oldPin newPin := rfl
  rw [same]
  split
  · exact .kept rfl
  · exact changePin_alike _ _ _ _ _

theorem login_alike (userType : Nat) (pin : Buffer) :
    Alike state objects (login state sessionHandle userType pin)
      (login (state.withObjects objects) sessionHandle userType pin) := by
  unfold login
  have same : loginChecks (state.withObjects objects) sessionHandle userType pin =
      loginChecks state sessionHandle userType pin := rfl
  rw [same]
  split
  · exact .kept rfl
  · exact .kept rfl

theorem openSession_alike (id flags : Nat) (hasHandle : Bool) :
    Alike state objects (openSession state id flags hasHandle)
      (openSession (state.withObjects objects) id flags hasHandle) := by
  unfold openSession
  have same : openSessionChecks (state.withObjects objects) id flags hasHandle =
      openSessionChecks state id flags hasHandle := rfl
  rw [same]
  split
  · exact .kept rfl
  · exact .kept rfl

theorem appendSignatureData_alike (data : Buffer) (verify : Bool) :
    Alike state objects (appendSignatureData state sessionHandle data verify)
      (appendSignatureData (state.withObjects objects) sessionHandle data verify) := by
  unfold appendSignatureData
  have same : signingSession (state.withObjects objects) sessionHandle verify =
      signingSession state sessionHandle verify := rfl
  rw [same]
  split
  · exact .kept rfl
  · split
    · exact .kept rfl
    · split
      · exact .kept rfl
      · exact .kept rfl

theorem findObjectsFinal_alike :
    Alike state objects (findObjectsFinal state sessionHandle)
      (findObjectsFinal (state.withObjects objects) sessionHandle) := by
  unfold findObjectsFinal
  rw [findSession_withObjects]
  split
  · exact .kept rfl
  · exact .kept rfl

/-- Initialisation starts with two empty tables, or is refused. -/
theorem cInitialize_alike (view : SameView slotId state objects) (host : Host) (oracle : Oracle)
    (hasReserved : Bool) :
    Alike state objects (cInitialize host state oracle hasReserved)
      (cInitialize host (state.withObjects objects) oracle hasReserved) := by
  cases initialized : state.initialized with
  | true =>
      have other : (state.withObjects objects).initialized = true := initialized
      unfold cInitialize
      rw [if_pos initialized, if_pos other]
      exact .kept rfl
  | false =>
      have empty := (view.wellFormed.closed initialized).2.1
      have otherEmpty : objects = ∅ := (view.otherWellFormed.closed initialized).2.1
      have same : state.withObjects objects = state := by
        rw [otherEmpty, ← empty]
        rfl
      rw [same]
      exact ⟨rfl, fun _ => Or.inl rfl⟩

theorem cFinalize_alike (hasReserved : Bool) :
    Alike state objects (cFinalize state hasReserved)
      (cFinalize (state.withObjects objects) hasReserved) := by
  unfold cFinalize
  have same : (state.withObjects objects).initialized = state.initialized := rfl
  rw [same]
  split
  · exact .kept rfl
  · split
    · exact .kept rfl
    · exact ⟨rfl, fun _ => Or.inl rfl⟩

end SameView

/-! ## Calls -/

/-- The slot a call names. -/
def Call.slot? : Call → Option Nat
  | .openSession slotId _ _ => some slotId
  | .closeAllSessions slotId => some slotId
  | _ => none

/-- The call is made on the slot: through one of its sessions, or under its identifier. -/
structure Call.On (state : State) (slotId : Nat) (call : Call) : Prop where
  session : ∀ sessionHandle, call.session? = some sessionHandle → state.OnSlot slotId sessionHandle
  slot : ∀ named, call.slot? = some named → named = slotId

/-- A call gives the same response on two tables that look the same to its slot, and changes
them alike. -/
theorem service_alike {slotId : Nat} {state : State} {objects : OrderedMap Nat Object}
    (view : SameView slotId state objects) (host : Host) (oracle : Oracle) {call : Call}
    (on : call.On state slotId) :
    Alike state objects (service host oracle state call)
      (service host oracle (state.withObjects objects) call) := by
  cases call with
  | cInitialize => exact SameView.cInitialize_alike view _ _ _
  | cFinalize => exact SameView.cFinalize_alike _
  | openSession => exact SameView.openSession_alike _ _ _
  | closeSession => exact view.closeSession_alike (on.session _ rfl)
  | closeAllSessions named =>
      have same := on.slot named rfl
      subst same
      exact view.closeAllSessions_alike
  | initPin => exact SameView.initPin_alike _ _
  | setPin => exact SameView.setPin_alike _ _ _
  | login => exact SameView.login_alike _ _
  | logout => exact view.logout_alike (on.session _ rfl)
  | destroyObject => exact view.destroyObject_alike (on.session _ rfl) _ _
  | getAttributeValue =>
      simp only [service, view.getAttributeValue_eq (on.session _ rfl)]
      exact .kept rfl
  | setAttributeValue => exact view.setAttributeValue_alike (on.session _ rfl) _ _ _
  | findObjectsInit => exact view.findObjectsInit_alike (on.session _ rfl) _ _
  | findObjects => exact view.findObjects_alike (on.session _ rfl) _ _ _
  | findObjectsFinal => exact SameView.findObjectsFinal_alike
  | signInit => exact view.initializeSignature_alike (on.session _ rfl) _ _ _ _
  | sign => exact view.sign_alike (on.session _ rfl) _ _ _ _ _
  | signUpdate => exact SameView.appendSignatureData_alike _ _
  | signFinal => exact view.signFinal_alike (on.session _ rfl) _ _ _ _
  | verifyInit => exact view.initializeSignature_alike (on.session _ rfl) _ _ _ _
  | verify => exact view.verify_alike (on.session _ rfl) _ _ _ _
  | verifyUpdate => exact SameView.appendSignatureData_alike _ _
  | verifyFinal => exact view.verifyFinal_alike (on.session _ rfl) _ _ _
  | generateKey => exact view.generateKey_alike (on.session _ rfl) _ _ _ _
  | generateKeyPair => exact view.generateKeyPair_alike (on.session _ rfl) _ _ _ _ _ _
  | wrapKey =>
      simp only [service, view.wrapKey_eq (on.session _ rfl)]
      exact .kept rfl
  | unwrapKey => exact view.unwrapKey_alike (on.session _ rfl) _ _ _ _ _ _ _
  | deriveKey => exact view.deriveKey_alike (on.session _ rfl) _ _ _ _ _ _
  | _ => exact .kept rfl

theorem step_alike {slotId : Nat} {state : State} {objects : OrderedMap Nat Object}
    (view : SameView slotId state objects) (host : Host) {input : Call × Oracle}
    (on : input.1.On state slotId) :
    Alike state objects (step host state input) (step host (state.withObjects objects) input) := by
  unfold step
  have same : (state.withObjects objects).initialized = state.initialized := rfl
  rw [same]
  split
  · exact .kept rfl
  · exact service_alike view host input.2 on

end HsmSimulator
