import HsmSimulator.Pkcs11.PathEffects
import HsmSimulator.Pkcs11.SlotPlaces

/-!
# Following an object

An object is registered under a handle, and a token object is stored under its path and
its class while the module is closed or its file was passed over.  What its metadata
record says stays said wherever it is, as long as no half of a session key pair is put
beside it.
-/

namespace HsmSimulator

open FileSystem

/-- Where an object is. -/
inductive Whereabouts
  | registered (handle : Nat)
  | stored (path : Path) (objectClass : Nat)
  deriving DecidableEq

/-- Handles of the token objects of a path and a class. -/
def State.tokenHandles (state : State) (path : Path) (objectClass : Nat) : List Nat :=
  (state.objects.filter fun _ object => object.ownerSession = 0 && object.path = path &&
    object.objectClass = objectClass).keys

/-- Some token object has the path. -/
def State.registers (state : State) (path : Path) : Bool :=
  state.objects.values.any fun object => object.ownerSession = 0 && object.path = path

/-- Where an object is after a call, if it still exists.  A session object ends with its
session or with the registry; a token object is found again by path and class, unless its
file is passed over. -/
def follow (host : Host) (place : Option Whereabouts) (state : State) (input : Call × Oracle) :
    Option Whereabouts :=
  let next := (step host state input).1
  match place with
  | none => none
  | some (.registered handle) =>
      if next.initialized then
        if (next.objects.get? handle).isSome then some (.registered handle) else none
      else
        (state.objects.get? handle).bind fun object =>
          if object.ownerSession = 0 then some (.stored object.path object.objectClass) else none
  | some (.stored path objectClass) =>
      if state.initialized = false ∧ next.initialized = true then
        match next.tokenHandles path objectClass with
        | handle :: _ => some (.registered handle)
        | [] => if next.registers path then none else some (.stored path objectClass)
      else some (.stored path objectClass)

/-- A call puts no half of a session key pair at the path. -/
def NoHalfAt (host : Host) (path : Path) (state : State) (input : Call × Oracle) : Prop :=
  ∀ new key, input.1.newKey host input.2 state = some new → new.token = false →
    new.key = some key → objectIdForFilename host new.path.filename ≠ none →
    publicKeyOnly input.2 key = none → new.path ≠ path

/-- The key file is there, its name is such, and its metadata says this of the class. -/
structure Kept (disk : FileSystem) (path : Path) (objectClass : Nat) (named : Path → Prop)
    (fact : Metadata.Attributes → Prop) : Prop where
  keyPath : ∃ directory, IsKeyPath directory path
  name : named path
  file : ∃ bytes, disk.content path = some bytes
  recorded : MetadataSays disk path objectClass fact

/-- The object of a class is where it is said to be, the key file of a token object has
such a name, and its record says this, in memory and in its metadata. -/
def Held (objectClass : Nat) (named : Path → Prop) (fact : Metadata.Attributes → Prop)
    (state : State) :
    Whereabouts → Prop
  | .registered handle => ∃ object, state.objects.get? handle = some object ∧
      object.objectClass = objectClass ∧ fact object.record ∧
      (object.ownerSession = 0 → Kept state.disk object.path objectClass named fact ∧
        DistinctRecords state.objects object.path none)
  | .stored path cls => cls = objectClass ∧ Kept state.disk path objectClass named fact ∧
      ∀ handle object, ¬FileObject state.objects path handle object

section

variable {host : Host} {oracle : Oracle} {state next : State} {call : Call} {path : Path}
  {objectClass : Nat} {named : Path → Prop} {fact : Metadata.Attributes → Prop}

theorem mem_tokenHandles {handle : Nat} :
    handle ∈ state.tokenHandles path objectClass ↔
      ∃ object, FileObject state.objects path handle object ∧ object.objectClass = objectClass := by
  simp only [State.tokenHandles, OrderedMap.mem_keys_iff, OrderedMap.get?_filter,
    Option.filter_eq_some_iff, Bool.and_eq_true, decide_eq_true_eq]
  constructor
  · rintro ⟨object, found, ⟨token, samePath⟩, sameClass⟩
    exact ⟨object, ⟨found, token, samePath⟩, sameClass⟩
  · rintro ⟨object, ⟨found, token, samePath⟩, sameClass⟩
    exact ⟨object, found, ⟨token, samePath⟩, sameClass⟩

theorem registers_eq_false_iff :
    state.registers path = false ↔
      ∀ handle object, ¬FileObject state.objects path handle object := by
  rw [State.registers, List.any_eq_false]
  constructor
  · rintro none handle object ⟨found, token, samePath⟩
    have absent := none object (OrderedMap.mem_values_iff.mpr ⟨handle, found⟩)
    simp [token, samePath] at absent
  · intro none object member
    rcases OrderedMap.mem_values_iff.mp member with ⟨handle, found⟩
    simp only [Bool.and_eq_true, decide_eq_true_eq, not_and]
    exact fun token samePath => none handle object ⟨found, token, samePath⟩

namespace Kept

theorem congr {before after : FileSystem} (kept : Kept before path objectClass named fact)
    (content : after.content path = before.content path)
    (metadata : after.content (Metadata.path path) = before.content (Metadata.path path)) :
    Kept after path objectClass named fact := by
  rcases kept.file with ⟨bytes, stored⟩
  exact ⟨kept.keyPath, kept.name, ⟨bytes, content.trans stored⟩, kept.recorded.congr metadata⟩

theorem prepared {before after : FileSystem} {directories : List Path}
    (kept : Kept before path objectClass named fact)
    (prepared : Prepared before after directories) :
    Kept after path objectClass named fact :=
  kept.congr (prepared.content _) (prepared.content _)

end Kept

theorem DistinctRecords.congr {objects others : OrderedMap Nat Object}
    (distinct : DistinctRecords objects path none)
    (same : ∀ handle object, FileObject others path handle object →
      FileObject objects path handle object) : DistinctRecords others path none :=
  fun handle other object sibling isObject isSibling sameClass =>
    distinct handle other object sibling (same handle object isObject)
    (same other sibling isSibling)
      sameClass

/-! ## Creations -/

/-- A creation at the path of an existing key file changes nothing there. -/
theorem Creation.sameAt_of_file {sessionHandle : Nat} {session : Session} {slot : Slot}
    {new : NewKey} {result : State × Response} (wellFormed : WellFormed state)
    (guard : CreationGuard state sessionHandle session slot new.token)
    (made : new.MadeBy host oracle call sessionHandle session slot)
    (creation : Creation host oracle state new result) (samePath : new.path = path)
    (file : ∃ bytes, state.disk.content path = some bytes)
    (whole : ∀ key, new.token = false → new.key = some key →
      objectIdForFilename host new.path.filename ≠ none → publicKeyOnly oracle key = none →
        new.path ≠ path) : SameAt state result.1 path := by
  subst samePath
  have there (absent : state.disk.hasPath new.path = false) : False := by
    rcases file with ⟨bytes, stored⟩
    rw [content_of_absent absent] at stored
    contradiction
  cases creation with
  | refused _ _ => exact .of_sameToken (SameToken.withSessions _ _ _ _) rfl rfl
  | broken _ _ _ opened _ => exact (there opened.absent).elim
  | withdrawn _ _ absent _ _ => exact (there absent).elim
  | created _ _ _ _ opened _ _ _ _ _ => exact (there opened.absent).elim
  | kept token _ handles _ =>
      exact .of_sameToken (made.sameToken wellFormed guard.sessionFound token handles) rfl rfl
  | half isKey digest noHalf _ _ _ _ _ _ files =>
      rcases files with ⟨noToken, _⟩ | ⟨_, opened, _⟩
      · exact (whole _ noToken isKey digest noHalf rfl).elim
      · exact (there opened.absent).elim

/-! ## One step -/

/-- A token object that is still registered keeps its record in the metadata. -/
theorem Held.registered {handle : Nat} {object changed : Object} {result : State × Response}
    (wellFormed : WellFormed state) (nextWellFormed : WellFormed result.1)
    (words : EveryPolicy WordPolicies result.1) (few : EveryPolicy FewPolicies result.1)
    (effect : TokenEffect host oracle state call result) (stays : state.initialized = true)
    (opened : result.1.initialized = true)
    (token : object.ownerSession = 0)
    (kept : Kept state.disk object.path object.objectClass named fact)
    (distinct : DistinctRecords state.objects object.path none)
    (changedFound : result.1.objects.get? handle = some changed)
    (same : changed.core = object.core) (holds : fact changed.record)
    (noHalf : NoHalfAt host object.path state (call, oracle)) :
    Kept result.1.disk object.path object.objectClass named fact ∧
      DistinctRecords result.1.objects object.path none := by
  rcases kept.keyPath with ⟨directory, keyPath⟩
  have isChanged : FileObject result.1.objects object.path handle changed :=
    ⟨changedFound, (ownerSession_eq_of_core same).trans token, path_eq_of_core same⟩
  cases effect.at wellFormed keyPath stays opened with
  | same unchanged =>
      exact ⟨kept.congr unchanged.content unchanged.metadata,
        distinct.congr fun other stored => (unchanged.objects other stored).mp⟩
  | @altered sessionHandle target attributes targetObject targetChanged records _ change isTarget
      isRecords complete isNext =>
      have targetPath := isTarget.samePath
      have records : ∀ cls record, records.get? cls = some record ↔ ∃ other sibling,
          FileObject (state.objects.insert target targetChanged) object.path other sibling ∧
            sibling.objectClass = cls ∧ sibling.record = record := by
        intro cls record
        have published := @change.records _ oracle _ _ _ _ _ wellFormed
          (by rw [targetPath]; exact distinct) isTarget.token cls record
        rw [targetPath] at published
        rw [isRecords]
        exact published
      rw [isNext] at nextWellFormed words few isChanged ⊢
      constructor
      · refine ⟨kept.keyPath, kept.name, ?_, ?_⟩
        · rcases kept.file with ⟨bytes, stored⟩
          refine ⟨bytes, ?_⟩
          dsimp only
          rw [content_writeFile, if_neg (Metadata.path_ne _).symm]
          exact stored
        · rw [← objectClass_eq_of_core same]
          refine MetadataSays.published nextWellFormed words few records complete ?_ isChanged holds
          dsimp only
          rw [content_writeFile, if_pos rfl]
      · intro first second left right isLeft isRight sameClass
        rcases change.origin isLeft with ⟨oldLeft, wasLeft, leftCore, _⟩
        rcases change.origin isRight with ⟨oldRight, wasRight, rightCore, _⟩
        change left.objectClass = right.objectClass at sameClass
        rw [objectClass_eq_of_core leftCore, objectClass_eq_of_core rightCore] at sameClass
        exact distinct first second oldLeft oldRight wasLeft wasRight sameClass
  | emptied _ none _ _ => exact (none handle changed isChanged).elim
  | created isNew samePath guard made creation =>
      have unchanged := creation.sameAt_of_file wellFormed guard made samePath kept.file
        fun key noToken isKey digest noHalves =>
          noHalf _ key isNew noToken isKey digest noHalves
      exact ⟨kept.congr unchanged.content unchanged.metadata,
        distinct.congr fun other stored => (unchanged.objects other stored).mp⟩

/-- Where no object is registered, the files of a key stay. -/
theorem Held.unregistered {result : State × Response} (wellFormed : WellFormed state)
    (effect : TokenEffect host oracle state call result) (stays : state.initialized = true)
    (opened : result.1.initialized = true) (kept : Kept state.disk path objectClass named fact)
    (none : ∀ handle object, ¬FileObject state.objects path handle object)
    (noHalf : NoHalfAt host path state (call, oracle)) :
    Kept result.1.disk path objectClass named fact ∧
      ∀ handle object, ¬FileObject result.1.objects path handle object := by
  rcases kept.keyPath with ⟨directory, keyPath⟩
  cases effect.at wellFormed keyPath stays opened with
  | same unchanged =>
      exact ⟨kept.congr unchanged.content unchanged.metadata,
        fun handle object isObject => none handle object ((unchanged.objects _ _).mp isObject)⟩
  | altered _ _ isTarget _ _ _ => exact (none _ _ isTarget).elim
  | emptied isObject _ _ _ => exact (none _ _ isObject).elim
  | created isNew samePath guard made creation =>
      have unchanged := creation.sameAt_of_file wellFormed guard made samePath kept.file
        fun key noToken isKey digest noHalves =>
          noHalf _ key isNew noToken isKey digest noHalves
      exact ⟨kept.congr unchanged.content unchanged.metadata,
        fun handle object isObject => none handle object ((unchanged.objects _ _).mp isObject)⟩

/-- A token object that is loaded has the record its metadata has for its class. -/
theorem TokenLoaded.recorded {before after : State} (loaded : TokenLoaded host oracle before after)
    {handle : Nat} {object : Object} (found : after.objects.get? handle = some object)
    (recorded : MetadataSays after.disk object.path object.objectClass fact) :
    fact object.record := by
  rcases (loaded.objects handle object).mp found with ⟨index, raw, listed, rfl, rfl⟩
  rcases loaded.readable raw (List.mem_of_getElem? listed) with ⟨records, isRead⟩
  rw [(withMetadata_core _ _).1, (withMetadata_core _ _).2.2.2.1] at recorded
  rcases MetadataSays.read recorded isRead with ⟨record, stored, holds⟩
  rw [isRead, Option.getD_some]
  unfold Object.withMetadata
  split
  · rename_i other otherStored
    rw [stored] at otherStored
    cases otherStored
    exact holds
  · rename_i absent
    rw [stored] at absent
    contradiction

/-- What is stored is registered again when the module is opened, passed over or gone. -/
theorem Held.loaded {result : State × Response} (held : Held objectClass named fact state
      (.stored path objectClass))
    (initialization : Initialization host oracle state result) :
    (result.1.initialized = false →
        Held objectClass named fact result.1 (.stored path objectClass)) ∧
      (∀ handle ∈ result.1.tokenHandles path objectClass,
        Held objectClass named fact result.1 (.registered handle)) ∧
      (result.1.registers path = false →
        Held objectClass named fact result.1 (.stored path objectClass)) := by
  rcases held with ⟨_, kept, _⟩
  have unique := (TokenFiles.initialization initialization).unique
  cases initialization with
  | @failed next _ _ _ objects _ _ _ prepared _ =>
      have none : ∀ handle object, ¬FileObject next.objects path handle object := by
        rintro handle object ⟨found, _, _⟩
        rw [objects] at found
        contradiction
      have stays : Held objectClass named fact next (.stored path objectClass) :=
        ⟨rfl, kept.prepared prepared, none⟩
      refine ⟨fun _ => stays, ?_, fun _ => stays⟩
      intro handle member
      rcases mem_tokenHandles.mp member with ⟨object, isObject, _⟩
      exact (none handle object isObject).elim
  | succeeded prepared discovered loaded =>
      have stays := (kept.prepared prepared).prepared loaded.prepared
      refine ⟨fun closed => by contradiction, ?_, ?_⟩
      · intro handle member
        rcases mem_tokenHandles.mp member with ⟨object, isObject, rfl⟩
        have isKept := stays
        rw [← isObject.samePath] at isKept
        exact ⟨object, isObject.found, rfl, loaded.recorded isObject.found isKept.recorded,
          fun _ => ⟨isKept, unique.distinctRecords _⟩⟩
      · intro absent
        exact ⟨rfl, stays, registers_eq_false_iff.mp absent⟩

/-- Closing the registry empties it and leaves the files. -/
theorem TokenEffect.closing {result : State × Response}
    (effect : TokenEffect host oracle state call result) (stays : state.initialized = true)
    (closes : result.1.initialized = false) :
    result.1.disk = state.disk ∧ result.1.objects = ∅ := by
  have unchanged (same : result.1.initialized = state.initialized) : False := by
    rw [closes, stays] at same
    contradiction
  cases effect with
  | kept same _ => exact (unchanged same.initialized).elim
  | pinWritten _ _ same _ => exact (unchanged same.initialized).elim
  | creation _ _ _ _ _ creation => cases creation <;> exact (unchanged rfl).elim
  | finalized => exact ⟨rfl, rfl⟩
  | initializing closed _ =>
      rw [stays] at closed
      contradiction
  | _ => exact (unchanged rfl).elim

/-- What was kept of a key is kept when the registry closes. -/
theorem Held.closing {result : State × Response}
    (effect : TokenEffect host oracle state call result) (stays : state.initialized = true)
    (closes : result.1.initialized = false) (kept : Kept state.disk path objectClass named fact) :
    Held objectClass named fact result.1 (.stored path objectClass) := by
  rcases effect.closing stays closes with ⟨sameDisk, noObjects⟩
  refine ⟨rfl, kept.congr (by rw [sameDisk]) (by rw [sameDisk]), ?_⟩
  rintro other stored ⟨storedFound, _, _⟩
  rw [noObjects] at storedFound
  contradiction

/-- Where an object is followed to, what was said of it still holds: if it holds of the
object where the call changes it, and no half of a session key pair is put beside it. -/
theorem Held.step {place after : Whereabouts} {input : Call × Oracle}
    (wellFormed : WellFormed state)
    (words : EveryPolicy WordPolicies (step host state input).1)
    (few : EveryPolicy FewPolicies (step host state input).1)
    (held : Held objectClass named fact state place)
    (keeps : ∀ handle object changed, place = .registered handle →
      state.objects.get? handle = some object →
      (step host state input).1.objects.get? handle = some changed →
      fact object.record → fact changed.record)
    (noHalf : ∀ path, (place = .stored path objectClass ∨ ∃ handle object,
        place = .registered handle ∧ FileObject state.objects path handle object) →
      NoHalfAt host path state input)
    (followed : follow host (some place) state input = some after) :
    Held objectClass named fact (step host state input).1 after := by
  rcases input with ⟨call, oracle⟩
  have effect := @step_token host oracle state wellFormed call
  have nextWellFormed := @WellFormed.step host state wellFormed (call, oracle)
  generalize isResult : HsmSimulator.step host state (call, oracle) = result at *
  unfold follow at followed
  rw [isResult] at followed
  cases place with
  | registered handle =>
      rcases held with ⟨object, found, isClass, holds, token⟩
      have stays : state.initialized = true := wellFormed.initialized_of_object found
      have advance : ObjectsAdvance state result.1 := by
        have advance :=
          (@step_effect host oracle state wellFormed call).objectsAdvance wellFormed stays
        rw [isResult] at advance
        exact advance
      dsimp only at followed
      split at followed
      · rename_i opened
        split at followed
        · rename_i isThere
          cases followed
          rcases Option.isSome_iff_exists.mp isThere with ⟨changed, changedFound⟩
          have same : changed.core = object.core := by
            rcases advance.entered handle changed changedFound with ⟨old, oldFound, same⟩ | fresh
            · rw [found] at oldFound
              cases oldFound
              exact same.core
            · have below := (wellFormed.objectKey handle object found).2.2
              omega
          have changedHolds := keeps handle object changed rfl found changedFound holds
          refine ⟨changed, changedFound, (objectClass_eq_of_core same).trans isClass,
            changedHolds, ?_⟩
          intro isToken
          rw [ownerSession_eq_of_core same] at isToken
          rcases token isToken with ⟨kept, distinct⟩
          rw [path_eq_of_core same, ← isClass]
          exact Held.registered wellFormed nextWellFormed words few effect stays opened isToken
            (isClass ▸ kept) distinct changedFound same changedHolds
            (noHalf _ (Or.inr ⟨handle, object, rfl, found, isToken, rfl⟩))
        · contradiction
      · rename_i closes
        rw [found, Option.bind_some] at followed
        split at followed
        · rename_i isToken
          cases followed
          rcases token isToken with ⟨kept, _⟩
          rw [isClass]
          exact Held.closing effect stays (by simpa using closes) kept
        · contradiction
  | stored path cls =>
      have isClass := held.1
      subst isClass
      dsimp only at followed
      split at followed
      · rename_i opens
        have initialization : Initialization host oracle state result := by
          rcases @step_closed_cases host oracle state opens.1 call with
            ⟨same, _⟩ | ⟨_, initialization⟩
          · rw [isResult] at same
            rw [same, opens.1] at opens
            exact absurd opens.2 (by simp)
          · rw [isResult] at initialization
            exact initialization
        rcases held.loaded initialization with ⟨_, found, absent⟩
        split at followed
        · rename_i handle rest handles
          cases followed
          exact found handle (by rw [handles]; exact List.mem_cons_self)
        · split at followed
          · contradiction
          · rename_i unregistered
            cases followed
            exact absent (by simpa using unregistered)
      · rename_i notOpening
        cases followed
        cases isOpen : state.initialized with
        | false =>
            rcases @step_closed_cases host oracle state isOpen call with
              ⟨same, _⟩ | ⟨_, initialization⟩
            · rw [isResult] at same
              rw [same]
              exact held
            · rw [isResult] at initialization
              exact (held.loaded initialization).1 (by simpa [isOpen] using notOpening)
        | true =>
            rcases held with ⟨_, kept, none⟩
            cases closes : result.1.initialized with
            | true =>
                exact ⟨rfl, Held.unregistered wellFormed effect isOpen closes kept none
                  (noHalf path (Or.inl rfl))⟩
            | false => exact Held.closing effect isOpen closes kept

end

end HsmSimulator
