import HsmSimulator.Pkcs11.Containment
import HsmSimulator.Pkcs11.Destruction
import HsmSimulator.Pkcs11.Whereabouts

/-!
# What is gone and what remains

A key that was destroyed does not come back by itself, not with a new process either.  The
temporary file of a change that could not be cleaned up does not go away by itself, and the
metadata of its key cannot be published any more.
-/

namespace HsmSimulator

open Checks FileSystem

section

variable {host : Host} {oracle : Oracle} {state : State} {path : Path}

/-! ## Destroyed keys -/

/-- No object and no file of the path. -/
structure Absent (path : Path) (state : State) : Prop where
  object : ∀ handle object, ¬FileObject state.objects path handle object
  file : state.disk.content path = none

/-- The call creates no key of the token at the path, and leaves no half of a pair there: a
session pair gets its public half. -/
def CreatesElsewhere (host : Host) (path : Path) (state : State) (input : Call × Oracle) : Prop :=
  ∀ new, input.1.newKey host input.2 state = some new → new.path = path →
    new.token = false ∧ ∀ key, new.key = some key →
      objectIdForFilename host new.path.filename ≠ none → publicKeyOnly input.2 key ≠ none

/-- Loading finds no object of a file that is not there. -/
theorem Absent.initialization {result : State × Response} (absent : state.disk.content path = none)
    (initialization : Initialization host oracle state result) : Absent path result.1 := by
  have files := TokenFiles.initialization initialization
  have content : result.1.disk.content path = none := by
    cases initialization with
    | failed _ _ _ _ _ _ prepared _ => exact (prepared.content path).trans absent
    | succeeded prepared _ loaded =>
        exact ((loaded.prepared.content path).trans (prepared.content path)).trans absent
  refine ⟨?_, content⟩
  rintro handle object ⟨found, token, rfl⟩
  obtain ⟨bytes, stored⟩ := files.exist handle object found token
  rw [content] at stored
  contradiction

/-- A key of the session leaves what is gone. -/
theorem Absent.creation {call : Call} {sessionHandle : Nat} {session : Session} {slot : Slot}
    {new : NewKey} {result : State × Response} (absent : Absent path state)
    (wellFormed : WellFormed state) (notToken : new.token = false)
    (whole : ∀ key, new.key = some key → objectIdForFilename host new.path.filename ≠ none →
      publicKeyOnly oracle key ≠ none)
    (guard : CreationGuard state sessionHandle session slot new.token)
    (made : new.MadeBy host oracle call sessionHandle session slot)
    (creation : Creation host oracle state new result) : Absent path result.1 := by
  have same (unchanged : SameAt state result.1 path) : Absent path result.1 :=
    ⟨fun handle object isObject =>
      absent.object handle object ((unchanged.objects handle object).mp isObject),
      unchanged.content.trans absent.file⟩
  cases creation with
  | refused _ _ => exact same (.of_sameToken (SameToken.withSessions _ _ _ _) rfl rfl)
  | broken token _ _ _ _ => simp [notToken] at token
  | withdrawn token _ _ _ _ => simp [notToken] at token
  | created token _ _ _ _ _ _ _ _ _ => simp [notToken] at token
  | kept _ _ handles _ =>
      exact same (.of_sameToken
        (made.sameToken wellFormed guard.sessionFound notToken handles) rfl rfl)
  | half isKey digest noHalf _ _ _ _ _ _ _ => exact (whole _ isKey digest noHalf).elim

/-- What is gone stays away through one call. -/
theorem Absent.step (absent : Absent path state) (wellFormed : WellFormed state)
    {directory : Path} (keyPath : IsKeyPath directory path) (input : Call × Oracle)
    (elsewhere : CreatesElsewhere host path state input) :
    Absent path (HsmSimulator.step host state input).1 := by
  obtain ⟨call, oracle⟩ := input
  cases isOpen : state.initialized with
  | false =>
      obtain ⟨same, _⟩ | ⟨rfl, initialization⟩ := @step_closed_cases host oracle state isOpen call
      · rw [same]
        exact absent
      · exact .initialization absent.file initialization
  | true =>
      have effect : TokenEffect host oracle state call
          (HsmSimulator.step host state (call, oracle)) := step_token wellFormed call
      cases stays : (HsmSimulator.step host state (call, oracle)).1.initialized with
      | true =>
          cases effect.at wellFormed keyPath isOpen stays with
          | same unchanged =>
              refine ⟨fun handle object isObject => ?_, unchanged.content.trans absent.file⟩
              exact absent.object handle object ((unchanged.objects handle object).mp isObject)
          | altered _ _ isObject _ _ _ => exact (absent.object _ _ isObject).elim
          | emptied isObject _ _ _ => exact (absent.object _ _ isObject).elim
          | created isNew samePath guard made creation =>
              obtain ⟨notToken, whole⟩ := elsewhere _ isNew samePath
              exact absent.creation wellFormed notToken whole guard made creation
      | false =>
          obtain ⟨sameDisk, empty⟩ := effect.closing isOpen stays
          refine ⟨?_, by rw [sameDisk]; exact absent.file⟩
          rintro handle object ⟨found, _, _⟩
          rw [empty] at found
          contradiction

theorem absent_run {directory : Path} (keyPath : IsKeyPath directory path)
    (wellFormed : WellFormed state) (absent : Absent path state) {inputs : List (Call × Oracle)}
    (along : Runs.Along (step host) (CreatesElsewhere host path) state inputs) :
    Absent path (Runs.final (step host) state inputs) := by
  have invariant := @Runs.invariant_along _ _ _ (step host) (CreatesElsewhere host path)
    (fun state => WellFormed state ∧ Absent path state)
    (fun state input valid elsewhere =>
      ⟨valid.1.step input, valid.2.step valid.1 keyPath input elsewhere⟩)
    state inputs ⟨wellFormed, absent⟩ along
  exact invariant.2

/-- A destruction that succeeds leaves no object and no file of the path. -/
theorem absent_of_destroyed (wellFormed : WellFormed state) {sessionHandle handle : Nat}
    {object : Object} (found : state.findObject sessionHandle handle = some object)
    (token : object.ownerSession = 0)
    (succeeds : (step host state (.destroyObject sessionHandle handle, oracle)).2.rv = .ok) :
    Absent object.path (step host state (.destroyObject sessionHandle handle, oracle)).1 := by
  obtain ⟨_, _, stored, _⟩ := State.findObject_eq_some_iff.mp found
  rw [step_of_open (wellFormed.initialized_of_object stored)] at succeeds ⊢
  change (destroyObject state oracle sessionHandle handle).2.rv = .ok at succeeds
  change Absent object.path (destroyObject state oracle sessionHandle handle).1
  cases passes : destroyableObject state sessionHandle handle with
  | error code =>
      rw [destroyObject_refused passes] at succeeds
      have isError : code = .ok := succeeds
      subst isError
      exact (destroyableObject_ne_ok _ _ _ passes).elim
  | ok other =>
      have same := (destroyableObject_eq_ok passes).found
      rw [found] at same
      cases same
      rw [destroyObject_token passes token] at succeeds ⊢
      split at succeeds
      · contradiction
      · rename_i removes
        rw [if_neg removes]
        constructor
        · rintro other stored ⟨isStored, _, samePath⟩
          obtain ⟨_, otherPath⟩ := OrderedMap.get?_eraseIf_eq_some_iff.mp isStored
          simp [samePath] at otherPath
        · dsimp only
          split
          · rw [content_removeFile, if_pos rfl]
          · simp [content_withoutKey]

/-- A path without a key file gives no object of any kind. -/
theorem Absent.no_object (absent : Absent path state) (wellFormed : WellFormed state)
    {directory : Path} (keyPath : IsKeyPath directory path) (handle : Nat) (object : Object)
    (found : state.objects.get? handle = some object) : object.path ≠ path := by
  intro samePath
  by_cases token : object.ownerSession = 0
  · exact absent.object handle object ⟨found, token, samePath⟩
  · have noPath := (wellFormed.sessionObject handle object found token).1
    rw [← samePath, noPath] at keyPath
    have last := keyPath.getLast
    simp [Path.filename] at last

end

/-- After a token object was destroyed, neither it nor anything else is found under its path,
in this process or in the next one, whatever calls are made and whatever faults they meet, as
long as no key of the token is created there and no pair of its name is left half made. -/
theorem destroyed_for_ever (host : Host) (state : State) (reachable : Reachable host state)
    {sessionHandle handle : Nat} {object : Object} (oracle : Oracle)
    (found : state.findObject sessionHandle handle = some object)
    (token : object.ownerSession = 0)
    (succeeds : (step host state (.destroyObject sessionHandle handle, oracle)).2.rv = .ok)
    (inputs later : List (Call × Oracle)) :
    let destroyed := (step host state (.destroyObject sessionHandle handle, oracle)).1
    let final := Runs.final (step host) destroyed inputs
    let next := Runs.final (step host) (.loaded final.disk) later
    Runs.Along (step host) (CreatesElsewhere host object.path) destroyed inputs →
    Runs.Along (step host) (CreatesElsewhere host object.path) (.loaded final.disk) later →
      (final.disk.content object.path = none ∧
        ∀ other stored, final.objects.get? other = some stored → stored.path ≠ object.path) ∧
      (next.disk.content object.path = none ∧
        ∀ other stored, next.objects.get? other = some stored → stored.path ≠ object.path) := by
  intro destroyed final next along alongLater
  have wellFormed := reachable.wellFormed
  obtain ⟨_, _, stored, _⟩ := State.findObject_eq_some_iff.mp found
  obtain ⟨_, _, slot, _, keyPath⟩ := wellFormed.tokenObject handle object stored token
  have gone : Absent object.path destroyed := absent_of_destroyed wellFormed found token succeeds
  have stillGone : Absent object.path final :=
    absent_run keyPath (wellFormed.step _) gone along
  have onDisk : Absent object.path (.loaded final.disk) :=
    ⟨fun _ _ isObject => by simpa [State.loaded] using isObject.found, stillGone.file⟩
  have neverAgain : Absent object.path next :=
    absent_run keyPath (wellFormed_loaded _) onDisk alongLater
  have finalWellFormed : WellFormed final :=
    Runs.invariant_run (fun _ input valid => valid.step input) (wellFormed.step _) inputs
  exact ⟨⟨stillGone.file, stillGone.no_object finalWellFormed keyPath⟩,
    neverAgain.file, neverAgain.no_object (wellFormed_run _ _) keyPath⟩

/-- A key that was destroyed, in the process that did it and in the next one. -/
theorem destroyed_for_ever_again :
    let state := Runs.final (step .plain) (.loaded ⟨∅, ∅⟩)
      (plainRun [.cInitialize false, .openSession 1 6 true, aesKey 1])
    let destroyed := (step .plain state (.destroyObject 1 1, .plain)).1
    let again := Runs.final (step .plain) destroyed
      (plainRun [.cFinalize false, .cInitialize false])
    let next := Runs.final (step .plain) (.loaded again.disk) (plainRun [.cInitialize false])
    let path : Path := [ascii "data", ascii "symmetric", ascii "aes-key.key"]
    (state.disk.content path).isSome = true ∧
      again.disk.content path = none ∧ next.disk.content path = none := by
  intro state destroyed again next path
  have stored : ∃ object, state.findObject 1 1 = some object ∧ object.ownerSession = 0 ∧
      object.path = path := by decide
  obtain ⟨object, found, token, isPath⟩ := stored
  have notNew {state : State} {call : Call} (noKey : call.newKey .plain .plain state = none) :
      CreatesElsewhere .plain object.path state (call, .plain) := by
    intro new isNew
    rw [noKey] at isNew
    contradiction
  have gone := destroyed_for_ever .plain state ⟨_, _, rfl⟩ .plain found token (by decide)
    (plainRun [.cFinalize false, .cInitialize false]) (plainRun [.cInitialize false])
    ⟨notNew rfl, notNew rfl, trivial⟩ ⟨notNew rfl, trivial⟩
  rw [isPath] at gone
  exact ⟨by decide, gone.1.1, gone.2.1⟩

/-! ## Leftovers -/

section

variable {host : Host} {oracle : Oracle} {state : State} {path : Path}

/-- The temporary metadata file of a key was not cleaned up. -/
def Leftover (path : Path) (left : Bytes) (disk : FileSystem) : Prop :=
  disk.content (Metadata.temporaryPath path) = some left

theorem Leftover.exists {left : Bytes} {disk : FileSystem} (leftover : Leftover path left disk) :
    disk.hasPath (Metadata.temporaryPath path) = true := by
  cases hasPath : disk.hasPath (Metadata.temporaryPath path) with
  | true => rfl
  | false =>
      have absent := content_of_absent hasPath
      rw [leftover] at absent
      contradiction

/-- Nothing is published where a temporary file is left. -/
theorem Leftover.blocks {left : Bytes} {disk : FileSystem} (leftover : Leftover path left disk)
    (records : Metadata.Records) (replace : Bool) :
    Metadata.create disk oracle path records replace = (disk, false) := by
  simp [Metadata.create, leftover.exists]

theorem Leftover.keeps {left : Bytes} {before after : FileSystem}
    (leftover : Leftover path left before) (keeps : KeepsFiles before after) :
    Leftover path left after := keeps _ _ leftover

/-- A change of attributes of a key with a leftover is refused. -/
theorem Leftover.setAttributeValue {left : Bytes} (leftover : Leftover path left state.disk)
    {sessionHandle handle : Nat} {attributes : Template} {object : Object}
    (found : state.findObject sessionHandle handle = some object)
    (token : object.ownerSession = 0) (samePath : object.path = path) :
    (HsmSimulator.setAttributeValue state oracle sessionHandle handle attributes).1 = state ∧
      (HsmSimulator.setAttributeValue state oracle sessionHandle handle attributes).2.rv ≠ .ok := by
  unfold HsmSimulator.setAttributeValue
  cases passes : changedObject state sessionHandle handle attributes with
  | error code =>
      refine ⟨rfl, ?_⟩
      rintro isOk
      have isError : code = .ok := isOk
      subst isError
      exact changedObject_ne_ok _ _ _ _ passes
  | ok changed =>
      obtain ⟨other, change⟩ := changedObject_eq_ok passes
      have same := change.found
      rw [found] at same
      cases same
      have changedToken : changed.ownerSession = 0 :=
        (ownerSession_eq_of_core change.core_eq).trans token
      have changedPath : changed.path = path :=
        (path_eq_of_core change.core_eq).trans samePath
      dsimp only
      rw [if_pos changedToken, changedPath, leftover.blocks]
      exact ⟨rfl, by simp [Response.plain]⟩

/-! ## Creations where something is left -/

theorem Leftover.publishKey {left : Bytes} (leftover : Leftover path left state.disk)
    (output : Output) : (HsmSimulator.publishKey state oracle path output).2.rv ≠ .ok := by
  unfold HsmSimulator.publishKey persistMetadata
  rw [leftover.blocks]
  simp [Response.plain]

theorem Leftover.storeSecretKey {left : Bytes} {object : Object}
    (leftover : Leftover object.path left state.disk) :
    (HsmSimulator.storeSecretKey oracle state object true).2.rv ≠ .ok := by
  unfold HsmSimulator.storeSecretKey
  rw [if_pos rfl]
  have saving := (saveSecretKey_saving state.disk oracle object.path
    object.secretValue).keepsFiles
  generalize saveSecretKey state.disk oracle object.path object.secretValue = result at saving
  obtain ⟨disk, code⟩ := result
  cases code with
  | ok => exact Leftover.publishKey (leftover.keeps saving.1) _
  | _ => simp [Response.plain]

theorem Leftover.storeKeyPair {left : Bytes} {request : PairRequest} {output : Nat → Output}
    (leftover : Leftover request.path left state.disk) (token : request.token = true) :
    (HsmSimulator.storeKeyPair host oracle state request output).2.rv ≠ .ok := by
  have saving := request.save_keepsFiles oracle state
  refine @storeKeyPair_cases host oracle state request output (fun result => result.2.rv ≠ .ok)
    ?_ ?_ ?_
  · intro disk code _ failed
    exact failed
  · intro disk next _ _
    simp [Response.plain, Exception.code]
  · intro disk next saved registers
    have sameDisk := disk_registerKeyPair host oracle { state with disk := disk } request.slot.id
      request.label request.path request.key
    rw [registers] at sameDisk
    rw [saved] at saving
    have stays : Leftover request.path left next.disk := by
      have isDisk : next.disk = disk := sameDisk
      rw [isDisk]
      exact leftover.keeps saving.1
    unfold finishKeyPair
    split
    · simp [Response.plain, Exception.code]
    · split
      · simp [Response.plain, Exception.code]
      · dsimp only
        rw [if_pos token]
        exact Leftover.publishKey (by exact stays) _

/-- A call that gets a secret key to store stores it. -/
theorem service_secret {call : Call} {object : Object} {token : Bool}
    (request : call.secretRequest host oracle state = some (object, token)) :
    service host oracle state call =
      HsmSimulator.storeSecretKey oracle state.takeHandle object token := by
  cases call with
  | generateKey sessionHandle mechanism attributes hasHandle =>
      simp only [Call.secretRequest, Option.bind_eq_bind, Option.bind_eq_some_iff,
        toOption_eq_some_iff, Option.pure_def, Option.some.injEq, Prod.mk.injEq] at request
      obtain ⟨keyLength, length, made, isMade, rfl, rfl⟩ := request
      simp only [service, generateKey, length, isMade]
  | unwrapKey sessionHandle mechanism wrappingHandle input attributes hasHandle =>
      simp only [Call.secretRequest, Option.bind_eq_bind, Option.bind_eq_some_iff,
        toOption_eq_some_iff] at request
      obtain ⟨raw, unwrapped, request⟩ := request
      split at request
      · rename_i isSecret
        simp only [Option.bind_eq_some_iff, toOption_eq_some_iff, Option.pure_def,
          Option.some.injEq, Prod.mk.injEq] at request
        obtain ⟨made, isMade, rfl, rfl⟩ := request
        simp [service, unwrapKey, unwrapped, isSecret.1, isSecret.2, isMade]
      · contradiction
  | deriveKey sessionHandle mechanism baseKey attributes hasHandle =>
      simp only [Call.secretRequest, Option.bind_eq_bind, Option.bind_eq_some_iff,
        toOption_eq_some_iff, Option.pure_def, Option.some.injEq, Prod.mk.injEq] at request
      obtain ⟨⟨session, slot, value⟩, derived, rfl, rfl⟩ := request
      simp only [service, deriveKey, derived]
  | _ => simp [Call.secretRequest] at request

/-- A call that gets a key pair to store stores it. -/
theorem service_pair {call : Call} {request : PairRequest} {output : Output}
    (isRequest : call.pairRequest host oracle state = some (request, output)) :
    ∃ handles : Nat → Output, service host oracle state call =
      HsmSimulator.storeKeyPair host oracle state request handles := by
  cases call with
  | generateKeyPair sessionHandle mechanism publicTemplate privateTemplate hasHandles =>
      simp only [Call.pairRequest, Option.bind_eq_bind, Option.bind_eq_some_iff,
        toOption_eq_some_iff, Option.pure_def, Option.some.injEq, Prod.mk.injEq] at isRequest
      obtain ⟨made, isMade, rfl, _⟩ := isRequest
      exact ⟨fun handle => .keyPair (handle + 1) handle,
        by simp only [service, generateKeyPair, isMade]⟩
  | unwrapKey sessionHandle mechanism wrappingHandle input attributes hasHandle =>
      simp only [Call.pairRequest, Option.bind_eq_bind, Option.bind_eq_some_iff,
        toOption_eq_some_iff] at isRequest
      obtain ⟨raw, unwrapped, isRequest⟩ := isRequest
      split at isRequest
      · rename_i isPrivate
        simp only [Option.bind_eq_some_iff, toOption_eq_some_iff, Option.pure_def,
          Option.some.injEq, Prod.mk.injEq] at isRequest
        obtain ⟨made, isMade, rfl, _⟩ := isRequest
        have notSecret : ckoPrivateKey ≠ ckoSecretKey := by decide
        exact ⟨.handle, by simp [service, unwrapKey, unwrapped, isPrivate, notSecret, isMade]⟩
      · contradiction
  | _ => simp [Call.pairRequest] at isRequest

/-- No key of the token is created where something is left. -/
theorem Leftover.creation {left : Bytes} {call : Call} {new : NewKey}
    (leftover : Leftover path left state.disk)
    (isNew : call.newKey host oracle state = some new) (token : new.token = true)
    (samePath : new.path = path) : (service host oracle state call).2.rv ≠ .ok := by
  unfold Call.newKey at isNew
  split at isNew
  · rename_i object isToken request
    obtain ⟨slot, _, rfl⟩ := Option.map_eq_some_iff.mp isNew
    change isToken = true at token
    change object.path = path at samePath
    subst token samePath
    rw [service_secret request]
    exact Leftover.storeSecretKey (by exact leftover)
  · obtain ⟨⟨request, output⟩, isRequest, rfl⟩ := Option.map_eq_some_iff.mp isNew
    change request.token = true at token
    change request.path = path at samePath
    subst samePath
    obtain ⟨handles, stores⟩ := service_pair isRequest
    rw [stores]
    exact Leftover.storeKeyPair leftover token

/-! ## Leftovers stay -/

theorem temporaryPath_ne_of_ne {directory other first second : Path}
    (keyPath : IsKeyPath directory first) (otherPath : IsKeyPath other second)
    (different : first ≠ second) :
    Metadata.temporaryPath first ≠ Metadata.temporaryPath second := by
  intro same
  have nonempty {key : Path} {parent : Path} (isKey : IsKeyPath parent key) :
      Metadata.path key ≠ [] := by
    intro empty
    have depth := isKey.metadata_stored.length_eq
    rw [empty] at depth
    simp at depth
  have samePath := Path.extend_inj (nonempty keyPath) (nonempty otherPath) same
  exact different (keyPath.metadata_inj otherPath samePath)

/-- No PIN file is the temporary file of metadata. -/
theorem temporaryPath_ne_pin (path : Path) (slot : Slot) (role : UserType) :
    Metadata.temporaryPath path ≠ slot.pinPath role ∧
      Metadata.temporaryPath path ≠ slot.pinTemporary role := by
  constructor
  · intro same
    have names := congrArg (fun path => (Path.filename path).getLast?) same
    rw [Metadata.temporaryPath, Path.filename_extend, Slot.pinPath, Path.filename_child] at names
    revert names
    cases role <;> simp [ascii, pinFile, soPinFile, userPinFile]
  · intro same
    have names := congrArg Path.filename same
    rw [Metadata.temporaryPath, Path.filename_extend, Metadata.path, Path.filename_extend,
      Slot.pinTemporary, Path.filename_extend, Slot.pinPath, Path.filename_child] at names
    have stems := List.append_cancel_right names
    have lasts := congrArg List.getLast? stems
    revert lasts
    cases role <;> simp [ascii, pinFile, soPinFile, userPinFile]

/-- No call removes or replaces what is left. -/
theorem Leftover.step {left : Bytes} (leftover : Leftover path left state.disk)
    (wellFormed : WellFormed state) {directory : Path} (keyPath : IsKeyPath directory path)
    (input : Call × Oracle) :
    Leftover path left (HsmSimulator.step host state input).1.disk := by
  obtain ⟨call, oracle⟩ := input
  by_cases creates : call.creates = true
  · exact leftover.keeps (step_keepsFiles host state oracle creates)
  have effect : TokenEffect host oracle state call (HsmSimulator.step host state (call, oracle)) :=
    step_token wellFormed call
  have other {sessionHandle handle : Nat} {object : Object}
      (found : state.findObject sessionHandle handle = some object)
      (token : object.ownerSession = 0) : ∃ parent, IsKeyPath parent object.path := by
    obtain ⟨_, _, stored, _⟩ := State.findObject_eq_some_iff.mp found
    obtain ⟨_, _, slot, _, objectPath⟩ := wellFormed.tokenObject handle object stored token
    exact ⟨slot.directory, objectPath⟩
  have elsewhere {disk : FileSystem} {touched : List Path}
      (agrees : AgreesOutside touched state.disk disk)
      (untouched : Metadata.temporaryPath path ∉ touched) : Leftover path left disk :=
    (agrees.content _ untouched).trans leftover
  generalize isResult : HsmSimulator.step host state (call, oracle) = result at effect
  cases effect with
  | kept _ sameDisk =>
      rw [sameDisk]
      exact leftover
  | @pinWritten _ slot role pin content _ _ isPin _ written =>
      have notPin := temporaryPath_ne_pin path slot role
      have different : Metadata.temporaryPath path ≠ pin := by
        rcases isPin with rfl | ⟨rfl, _⟩
        · exact notPin.1
        · exact notPin.2
      rw [written, Leftover, content_writeFile, if_neg different]
      exact leftover
  | altered _ _ _ _ =>
      rw [Leftover, content_writeFile, if_neg (Metadata.temporaryPath_ne_metadata _ _)]
      exact leftover
  | @metadataLeft sessionHandle handle attributes object _ _ change token _ =>
      by_cases samePath : object.path = path
      · have unchanged := (@Leftover.setAttributeValue oracle state path left leftover sessionHandle
          handle attributes object change.found token samePath).1
        obtain ⟨_, _, stored, _⟩ := State.findObject_eq_some_iff.mp change.found
        rw [step_of_open (wellFormed.initialized_of_object stored)] at isResult
        change HsmSimulator.setAttributeValue state oracle sessionHandle handle attributes = _
          at isResult
        rw [isResult] at unchanged
        rw [unchanged]
        exact leftover
      · obtain ⟨parent, objectPath⟩ := other change.found token
        have different := temporaryPath_ne_of_ne keyPath objectPath (Ne.symm samePath)
        rw [Leftover, content_writeFile, if_neg different]
        exact leftover
  | @destroyed _ _ object disk _ destruction token removed =>
      obtain ⟨parent, objectPath⟩ := other destruction.found token
      have agrees : AgreesOutside [object.path, Metadata.path object.path] state.disk disk :=
        keyFileRemoval_agrees removed (by simp) (by simp)
      refine elsewhere agrees ?_
      simp only [List.mem_cons, List.not_mem_nil, or_false, not_or]
      exact ⟨(objectPath.ne_temporary path).symm, Metadata.temporaryPath_ne_metadata _ _⟩
  | creation isCreation _ _ _ _ _ => exact (creates isCreation).elim
  | finalized => exact leftover
  | initializing _ initialization =>
      cases initialization with
      | failed _ _ _ _ _ _ prepared _ => exact (prepared.content _).trans leftover
      | succeeded prepared _ loaded =>
          exact ((loaded.prepared.content _).trans (prepared.content _)).trans leftover

theorem leftover_run {left : Bytes} {directory : Path} (keyPath : IsKeyPath directory path)
    (wellFormed : WellFormed state) (leftover : Leftover path left state.disk)
    (inputs : List (Call × Oracle)) :
    WellFormed (Runs.final (HsmSimulator.step host) state inputs) ∧
      Leftover path left (Runs.final (HsmSimulator.step host) state inputs).disk :=
  @Runs.invariant_run _ _ _ (HsmSimulator.step host)
    (fun state => WellFormed state ∧ Leftover path left state.disk)
    (fun _ input valid => ⟨valid.1.step input, valid.2.step valid.1 keyPath input⟩)
    state ⟨wellFormed, leftover⟩ inputs

end

/-- A temporary metadata file that is left beside a key file is there for ever, through
destructions of the key and restarts; and as long as it is, no attribute of an object of that
key file can be set, and no key of the token can be created there. -/
theorem leftover_for_ever (host : Host) (state : State) (reachable : Reachable host state)
    {directory path : Path} (keyPath : IsKeyPath directory path) {left : Bytes}
    (leftover : Leftover path left state.disk) (inputs : List (Call × Oracle)) :
    let later := Runs.final (step host) state inputs
    Leftover path left later.disk ∧
      (∀ oracle sessionHandle handle attributes object,
        later.findObject sessionHandle handle = some object → object.ownerSession = 0 →
        object.path = path →
        (step host later (.setAttributeValue sessionHandle handle attributes, oracle)).2.rv ≠
          .ok) ∧
      ∀ oracle call new, call.newKey host oracle later = some new → new.token = true →
        new.path = path → (step host later (call, oracle)).2.rv ≠ .ok := by
  intro later
  have invariant : WellFormed later ∧ Leftover path left later.disk :=
    leftover_run keyPath reachable.wellFormed leftover inputs
  obtain ⟨wellFormed, stillLeft⟩ := invariant
  refine ⟨stillLeft, ?_, ?_⟩
  · intro oracle sessionHandle handle attributes object found token samePath
    obtain ⟨_, _, stored, _⟩ := State.findObject_eq_some_iff.mp found
    rw [step_of_open (wellFormed.initialized_of_object stored)]
    exact (stillLeft.setAttributeValue found token samePath).2
  · intro oracle call new isNew token samePath
    cases isOpen : later.initialized with
    | true =>
        rw [step_of_open isOpen]
        exact stillLeft.creation isNew token samePath
    | false =>
        obtain ⟨_, failed⟩ | ⟨rfl, _⟩ := @step_closed_cases host oracle later isOpen call
        · exact failed
        · simp [Call.newKey, Call.secretRequest, Call.pairRequest] at isNew

/-- A change of attributes left its temporary file; the key was destroyed and the module was
restarted, and no key can get the label again. -/
theorem leftover_for_ever_label :
    let failing : Oracle := { Oracle.plain with
      renameFails := fun _ => true, removeFails := fun _ => true }
    let state := Runs.final (step .plain) (.loaded ⟨∅, ∅⟩)
      (plainRun [.cInitialize false, .openSession 1 6 true, aesKey 1] ++
        [(.setAttributeValue 1 1 (.entries [⟨ckaSensitive, .bytes [1]⟩]), failing)])
    let later := Runs.final (step .plain) state (plainRun [.destroyObject 1 1, .cFinalize false,
      .cInitialize false, .openSession 1 6 true])
    later.objects.get? 1 = none ∧ (step .plain later (aesKey 2, .plain)).2.rv ≠ .ok := by
  intro failing state later
  let path : Path := [ascii "data", ascii "symmetric", ascii "aes-key.key"]
  have keyPath : IsKeyPath [ascii "data"] path :=
    ⟨symmetricDirectory, ascii "aes-key.key", Or.inr rfl, by decide, rfl⟩
  have isLeft : (state.disk.content (Metadata.temporaryPath path)).isSome = true := by
    decide +kernel
  obtain ⟨left, leftover⟩ := Option.isSome_iff_exists.mp isLeft
  have asks : ((aesKey 2).newKey .plain .plain later).map (fun new => (new.token, new.path)) =
      some (true, path) := by
    decide +kernel
  obtain ⟨new, isNew, fields⟩ := Option.map_eq_some_iff.mp asks
  rw [Prod.mk.injEq] at fields
  let calls := plainRun
    [.destroyObject 1 1, .cFinalize false, .cInitialize false, .openSession 1 6 true]
  have isLater : Runs.final (step .plain) state calls = later := rfl
  have remains := leftover_for_ever .plain state ⟨_, _, rfl⟩ keyPath leftover calls
  rw [isLater] at remains
  exact ⟨by decide +kernel, remains.2.2 .plain (aesKey 2) new isNew fields.1 fields.2⟩

end HsmSimulator
