import HsmSimulator.Objects.Correctness
import HsmSimulator.Pkcs11.Effects

/-!
# Destroying an object

A destruction removes one session object, or a key file with its metadata file and all
its objects.  It fails as a whole, except that the removal of the metadata file comes
after that of the key file: where it fails, the key and its objects are gone.
-/

namespace HsmSimulator

open FileSystem

/-- Nothing has one of the names that a new key file of this path needs. -/
structure NameFree (disk : FileSystem) (path : Path) : Prop where
  keyFile : disk.hasPath path = false
  metadata : disk.hasPath (Metadata.path path) = false
  temporary : disk.hasPath (Metadata.temporaryPath path) = false

/-- The session object is gone, and nothing else changed. -/
structure SessionObjectGone (before after : State) (handle : Nat) : Prop where
  objects : ∀ other object, after.objects.get? other = some object ↔
    before.objects.get? other = some object ∧ other ≠ handle
  rest : after = { before with objects := after.objects }

/-- The key file and its metadata file are gone with the objects of the path, and
nothing else changed. -/
structure KeyFileGone (before after : State) (path : Path) : Prop where
  objects : ∀ other object, after.objects.get? other = some object ↔
    before.objects.get? other = some object ∧ object.path ≠ path
  keyFile : after.disk.content path = none
  metadata : after.disk.content (Metadata.path path) = none
  files : ∀ other, other ≠ path → other ≠ Metadata.path path →
    after.disk.content other = before.disk.content other
  directories : after.disk.directories = before.disk.directories
  rest : after = { before with objects := after.objects, disk := after.disk }

/-- All or nothing: an error leaves everything, a success removes the whole key, and its
name can be given to a new one. -/
structure DestroysWhole (before : State) (sessionHandle handle : Nat)
    (result : State × Response) : Prop where
  failed : result.2.rv ≠ .ok → result.1 = before
  destroyed : result.2.rv = .ok → ∃ object, before.findObject sessionHandle handle = some object ∧
    ((object.ownerSession ≠ 0 ∧ SessionObjectGone before result.1 handle) ∨
      (object.ownerSession = 0 ∧ KeyFileGone before result.1 object.path ∧
        NameFree result.1.disk object.path))

/-- The call removes the key file of a token object. -/
structure RemovesKeyFile (state : State) (oracle : Oracle) (sessionHandle handle : Nat)
    (object : Object) : Prop where
  passes : destroyableObject state sessionHandle handle = .ok object
  token : object.ownerSession = 0
  removed : oracle.removeFails object.path = false

/-- The metadata file can be removed, and but for the two files nothing has one of the
names of the key. -/
structure CleanRemoval (disk : FileSystem) (oracle : Oracle) (path : Path) : Prop where
  metadata : oracle.removeFails (Metadata.path path) = false
  keyDirectory : disk.isDirectory path = false
  metadataDirectory : disk.isDirectory (Metadata.path path) = false
  temporary : disk.hasPath (Metadata.temporaryPath path) = false

section

variable {state : State} {oracle : Oracle} {sessionHandle handle : Nat} {object : Object}

/-- The disk after both removals. -/
def FileSystem.withoutKey (disk : FileSystem) (path : Path) : FileSystem :=
  (disk.removeFile path).removeFile (Metadata.path path)

theorem content_withoutKey (disk : FileSystem) (path other : Path) :
    (disk.withoutKey path).content other =
      if other = Metadata.path path ∨ other = path then none else disk.content other := by
  rw [FileSystem.withoutKey, content_removeFile, content_removeFile]
  by_cases isMetadata : other = Metadata.path path
  · simp [isMetadata]
  · by_cases isKey : other = path
    · simp [isKey]
    · simp [isMetadata, isKey]

theorem keyFileGone (state : State) (path : Path) :
    KeyFileGone state { state with
      disk := state.disk.withoutKey path
      objects := state.objects.eraseIf fun _ object => object.path = path } path where
  objects other object := by
    rw [OrderedMap.get?_eraseIf_eq_some_iff, decide_eq_false_iff_not]
  keyFile := by simp [content_withoutKey]
  metadata := by simp [content_withoutKey]
  files other notKey notMetadata := by simp [content_withoutKey, notKey, notMetadata]
  directories := rfl
  rest := rfl

theorem hasPath_eq_false_iff {disk : FileSystem} {path : Path} :
    disk.hasPath path = false ↔ disk.content path = none ∧ disk.isDirectory path = false := by
  simp [hasPath, content, isDirectory]

/-- After both removals the names are free unless something else had one of them. -/
theorem nameFree_withoutKey_iff (disk : FileSystem) (path : Path) :
    NameFree (disk.withoutKey path) path ↔
      disk.isDirectory path = false ∧ disk.isDirectory (Metadata.path path) = false ∧
        disk.hasPath (Metadata.temporaryPath path) = false := by
  have sameDirectory (other : Path) :
      (disk.withoutKey path).isDirectory other = disk.isDirectory other := rfl
  have notMetadata : Metadata.temporaryPath path ≠ Metadata.path path :=
    Metadata.temporaryPath_ne_path path
  have notKey : Metadata.temporaryPath path ≠ path := Metadata.temporaryPath_ne path
  constructor
  · rintro ⟨keyFile, metadata, temporary⟩
    rw [hasPath_eq_false_iff, sameDirectory] at keyFile metadata temporary
    rw [content_withoutKey] at temporary
    rw [hasPath_eq_false_iff]
    simp only [notMetadata, notKey, or_self, if_false] at temporary
    exact ⟨keyFile.2, metadata.2, temporary⟩
  · rintro ⟨keyFile, metadata, temporary⟩
    rw [hasPath_eq_false_iff] at temporary
    constructor
    · rw [hasPath_eq_false_iff, content_withoutKey, sameDirectory]
      simp [keyFile]
    · rw [hasPath_eq_false_iff, content_withoutKey, sameDirectory]
      simp [metadata]
    · rw [hasPath_eq_false_iff, content_withoutKey, sameDirectory]
      simpa [notMetadata, notKey] using temporary

theorem destroyableObject_ne_ok (state : State) (sessionHandle handle : Nat) :
    destroyableObject state sessionHandle handle ≠ .error .ok := by
  simp [destroyableObject, Checks.bind_eq_error_iff, alterableObject_ne_ok]

/-- The three ways a destruction goes once its checks have passed for a token object. -/
theorem destroyObject_token (passes : destroyableObject state sessionHandle handle = .ok object)
    (token : object.ownerSession = 0) :
    destroyObject state oracle sessionHandle handle =
      if oracle.removeFails object.path then (state, .plain .deviceError)
      else
        ({ state with
            disk := if oracle.removeFails (Metadata.path object.path) then
                state.disk.removeFile object.path
              else state.disk.withoutKey object.path
            objects := state.objects.eraseIf fun _ other => other.path = object.path },
          .plain
            (if oracle.removeFails (Metadata.path object.path) then .deviceError else .ok)) := by
  simp only [destroyObject, passes, token, if_true]
  unfold destroyKeyFile FileSystem.remove FileSystem.withoutKey
  cases oracle.removeFails object.path with
  | true => rfl
  | false => cases oracle.removeFails (Metadata.path object.path) <;> rfl

theorem destroyObject_session (passes : destroyableObject state sessionHandle handle = .ok object)
    (notToken : object.ownerSession ≠ 0) :
    destroyObject state oracle sessionHandle handle =
      ({ state with objects := state.objects.erase handle }, .plain .ok) := by
  simp only [destroyObject, passes, if_neg notToken]

theorem destroyObject_refused {code : Rv}
    (fails : destroyableObject state sessionHandle handle = .error code) :
    destroyObject state oracle sessionHandle handle = (state, .plain code) := by
  simp only [destroyObject, fails]

theorem sessionObjectGone (state : State) (handle : Nat) :
    SessionObjectGone state { state with objects := state.objects.erase handle } handle where
  objects other object := by
    rw [OrderedMap.get?_erase]
    by_cases same : other = handle
    · simp [same]
    · simp [same]
  rest := rfl

/-- A removed key file leaves the object nowhere. -/
theorem eraseIf_ne (found : state.findObject sessionHandle handle = some object)
    {next : State}
    (erased : next.objects = state.objects.eraseIf fun _ other => other.path = object.path) :
    next ≠ state := by
  rintro rfl
  rcases State.findObject_eq_some_iff.mp found with ⟨_, _, stored, _⟩
  have gone := stored
  rw [erased, OrderedMap.get?_eraseIf_eq_some_iff, decide_eq_false_iff_not] at gone
  exact gone.2 rfl

theorem destroysWhole_token_iff (passes : destroyableObject state sessionHandle handle = .ok object)
    (token : object.ownerSession = 0) :
    DestroysWhole state sessionHandle handle (destroyObject state oracle sessionHandle handle) ↔
      (oracle.removeFails object.path = false → CleanRemoval state.disk oracle object.path) := by
  have found := (destroyableObject_eq_ok passes).found
  rw [destroyObject_token passes token]
  cases removed : oracle.removeFails object.path with
  | true =>
      constructor
      · intro _ notRemoved
        contradiction
      · intro _
        exact ⟨fun _ => rfl, fun isOk => by contradiction⟩
  | false =>
      cases left : oracle.removeFails (Metadata.path object.path) with
      | true =>
          constructor
          · intro whole
            have same := whole.failed (by simp)
            exact absurd same (eraseIf_ne found rfl)
          · intro clean
            have notLeft := (clean rfl).metadata
            rw [left] at notLeft
            contradiction
      | false =>
          simp only [Bool.false_eq_true, if_false]
          constructor
          · intro whole _
            rcases whole.destroyed rfl with ⟨stored, storedFound, ⟨notToken, _⟩ | ⟨_, _, free⟩⟩
            · rw [found, Option.some.injEq] at storedFound
              rw [← storedFound] at notToken
              exact absurd token notToken
            · rw [found, Option.some.injEq] at storedFound
              rw [← storedFound, nameFree_withoutKey_iff] at free
              exact ⟨left, free.1, free.2.1, free.2.2⟩
          · intro clean
            have isClean := clean trivial
            refine ⟨fun failed => absurd rfl failed, fun _ => ⟨object, found, Or.inr ⟨token, ?_⟩⟩⟩
            constructor
            · exact keyFileGone state object.path
            · rw [nameFree_withoutKey_iff]
              exact ⟨isClean.keyDirectory, isClean.metadataDirectory, isClean.temporary⟩

end

/-- A destruction is all or nothing exactly where the metadata file can be removed once
the key file is, and nothing else has one of the names of the key. -/
theorem destroyObject_whole_iff (state : State) (oracle : Oracle) (sessionHandle handle : Nat) :
    DestroysWhole state sessionHandle handle (destroyObject state oracle sessionHandle handle) ↔
      ∀ object, RemovesKeyFile state oracle sessionHandle handle object →
        CleanRemoval state.disk oracle object.path := by
  cases passes : destroyableObject state sessionHandle handle with
  | error code =>
      have nothing (object : Object) :
          ¬RemovesKeyFile state oracle sessionHandle handle object := by
        intro removes
        have same := passes.symm.trans removes.passes
        contradiction
      rw [destroyObject_refused passes]
      constructor
      · intro _ object removes
        exact absurd removes (nothing object)
      · intro _
        refine ⟨fun _ => rfl, ?_⟩
        rintro rfl
        exact absurd passes (destroyableObject_ne_ok state sessionHandle handle)
  | ok object =>
      have only {other : Object}
          (removes : RemovesKeyFile state oracle sessionHandle handle other) :
          other = object := Except.ok.inj (removes.passes.symm.trans passes)
      by_cases token : object.ownerSession = 0
      · rw [destroysWhole_token_iff passes token]
        constructor
        · intro clean other removes
          rcases only removes with rfl
          exact clean removes.removed
        · intro clean removed
          exact clean object ⟨passes, token, removed⟩
      · rw [destroyObject_session passes token]
        have found := (destroyableObject_eq_ok passes).found
        constructor
        · intro _ other removes
          rcases only removes with rfl
          exact absurd removes.token token
        · intro _
          refine ⟨fun failed => absurd rfl failed, fun _ => ⟨object, found, Or.inl ⟨token, ?_⟩⟩⟩
          exact sessionObjectGone state handle

/-- The plain environment, in which the metadata file of the first AES key cannot be
removed. -/
def Oracle.keepsMetadata : Oracle :=
  { Oracle.plain with
    removeFails := fun path =>
      path = [ascii "data", ascii "symmetric", ascii "aes-key.key.meta"] }

/-- The error of the second removal: the key and its file are gone, the metadata file is
left, and a new key cannot take the name. -/
theorem destroyObject_whole_iff_metadataKept :
    let state := (step .plain plainSession (aesKey 1, .plain)).1
    let result := step .plain state (.destroyObject 1 1, .keepsMetadata)
    let key := [ascii "data", ascii "symmetric", ascii "aes-key.key"]
    result.2.rv = .deviceError ∧ (state.objects.get? 1).isSome = true ∧
      result.1.objects.get? 1 = none ∧ result.1.disk.content key = none ∧
      result.1.disk.hasPath (Metadata.path key) = true ∧
      (step .plain result.1 (aesKey 1, .plain)).2.rv = .deviceError := by
  decide

end HsmSimulator
