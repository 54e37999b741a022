import HsmSimulator.Pkcs11.Containment
import HsmSimulator.Pkcs11.Searches
import HsmSimulator.Pkcs11.Whereabouts

/-!
# Default identifiers

A secret key that is created without an id gets the text of a number from the counter of
object handles: `GenerateKey` and `DeriveKey` show the handle of the key, `UnwrapKey` the
handle after it.  The counter only grows while the module is initialised, and the id of a
key stays with it, also in its metadata file.
-/

namespace HsmSimulator

open Checks FileSystem

/-- Which handle a default id shows: that of the key, or the one after it. -/
inductive IdSource
  | ownHandle
  | nextHandle

def IdSource.number : IdSource → Nat → Nat
  | .ownHandle, handle => handle
  | .nextHandle, handle => handle + 1

/-- How a call that creates a secret key chooses its default id, and the template that may
give another one. -/
def Call.idSource : Call → Option (IdSource × Template)
  | .generateKey _ _ attributes _ => some (.ownHandle, attributes)
  | .deriveKey _ _ _ attributes _ => some (.ownHandle, attributes)
  | .unwrapKey _ _ _ _ attributes _ =>
      if (templateUnsigned attributes ckaClass).getD ckoSecretKey = ckoSecretKey then
        some (.nextHandle, attributes)
      else none
  | _ => none

/-- The call creates a secret key without an id in its template. -/
def CreatesByDefault (host : Host) (state : State) (input : Call × Oracle) (source : IdSource)
    (handle : Nat) : Prop :=
  ∃ attributes, input.1.idSource = some (source, attributes) ∧
    (∀ entry ∈ attributes.toList, entry.type ≠ ckaId) ∧
    (step host state input).2 = .success (.handle handle)

/-- The path is one of a secret key. -/
def IsSymmetric (path : Path) : Prop := Path.extension path.filename = ascii ".key"

/-- The key file of every secret key of the token exists. -/
def SymmetricFiles (state : State) : Prop :=
  ∀ handle object, state.objects.get? handle = some object → object.ownerSession = 0 →
    IsSymmetric object.path → ∃ bytes, state.disk.content object.path = some bytes

/-- What the metadata files of secret keys rest on. -/
structure SymmetricOrder (state : State) : Prop where
  wellFormed : WellFormed state
  files : SymmetricFiles state
  words : EveryPolicy WordPolicies state
  few : EveryPolicy FewPolicies state

/-! ## Numbers as texts -/

theorem templateString_default {attributes : Template} {type : Nat} (fallback : Bytes)
    (absent : ∀ entry ∈ attributes.toList, entry.type ≠ type) :
    templateString attributes type fallback = fallback := by
  have none : (attributes.toList.find? fun entry => entry.type = type) = none := by
    simpa using absent
  rw [templateString, templateBytes, none]
  rfl

/-! ## The key a call creates -/

section

variable {host : Host} {oracle : Oracle} {state : State} {call : Call} {path : Path}

/-- The secret object of a call without an id is named after the counter. -/
theorem secretRequest_default {source : IdSource} {attributes : Template} {object : Object}
    {token : Bool} (isSource : call.idSource = some (source, attributes))
    (absent : ∀ entry ∈ attributes.toList, entry.type ≠ ckaId)
    (asked : call.secretRequest host oracle state = some (object, token)) :
    object.handle = state.nextObjectHandle ∧ object.objectClass = ckoSecretKey ∧
      object.id = decimal (source.number state.nextObjectHandle) := by
  cases call with
  | generateKey handle mechanism template hasHandle =>
      cases isSource
      simp only [Call.secretRequest, Option.bind_eq_bind, Option.bind_eq_some_iff,
        toOption_eq_some_iff, Option.pure_def, Option.some.injEq, Prod.mk.injEq] at asked
      rcases asked with ⟨_, _, made, passes, rfl, _⟩
      simp only [generatedKey, bind_eq_ok_iff, fetch_eq_ok_iff, pure_eq_ok, Except.ok.injEq]
        at passes
      rcases passes with ⟨_, _, _, applies, _, _, rfl⟩
      rcases applyCreationTemplate_eq_ok applies with ⟨_, _, _, rfl⟩
      exact ⟨rfl, rfl, templateString_default _ absent⟩
  | unwrapKey handle mechanism wrappingHandle input template hasHandle =>
      simp only [Call.idSource] at isSource
      split at isSource
      · cases isSource
        simp only [Call.secretRequest, Option.bind_eq_bind, Option.bind_eq_some_iff] at asked
        rcases asked with ⟨raw, _, asked⟩
        split at asked
        · simp only [Option.bind_eq_some_iff, toOption_eq_some_iff, Option.pure_def,
            Option.some.injEq, Prod.mk.injEq] at asked
          rcases asked with ⟨made, passes, rfl, _⟩
          simp only [unwrappedSecret, bind_eq_ok_iff, fetch_eq_ok_iff, require_eq_ok_iff,
            pure_eq_ok, Except.ok.injEq] at passes
          rcases passes with ⟨_, _, _, applies, _, _, rfl⟩
          rcases applyCreationTemplate_eq_ok applies with ⟨_, _, _, rfl⟩
          exact ⟨rfl, rfl, templateString_default _ absent⟩
        · contradiction
      · contradiction
  | deriveKey handle mechanism baseKey template hasHandle =>
      cases isSource
      simp only [Call.secretRequest, Option.bind_eq_bind, Option.bind_eq_some_iff,
        toOption_eq_some_iff, Option.pure_def, Option.some.injEq, Prod.mk.injEq] at asked
      rcases asked with ⟨⟨session, slot, value⟩, _, rfl, _⟩
      exact ⟨rfl, rfl, templateString_default _ absent⟩
  | _ => contradiction

/-- A call with a default id asks for no key pair. -/
theorem pairRequest_of_idSource {source : IdSource} {attributes : Template}
    (isSource : call.idSource = some (source, attributes)) :
    call.pairRequest host oracle state = none := by
  cases call with
  | unwrapKey handle mechanism wrappingHandle input template hasHandle =>
      simp only [Call.idSource] at isSource
      split at isSource
      · rename_i isSecret
        have notPrivate : ckoSecretKey ≠ ckoPrivateKey := by decide
        simp [Call.pairRequest, isSecret, notPrivate]
      · contradiction
  | generateKey => rfl
  | deriveKey => rfl
  | _ => contradiction

theorem creates_of_idSource {source : IdSource} {attributes : Template}
    (isSource : call.idSource = some (source, attributes)) :
    call.creates = true ∧ ∃ sessionHandle, call.session? = some sessionHandle := by
  cases call with
  | generateKey handle => exact ⟨rfl, handle, rfl⟩
  | unwrapKey handle => exact ⟨rfl, handle, rfl⟩
  | deriveKey handle => exact ⟨rfl, handle, rfl⟩
  | _ => contradiction

/-- A token key of a pair is not stored as a secret key. -/
theorem newKey_not_symmetric {new : NewKey} (isNew : call.newKey host oracle state = some new)
    (isPair : new.key ≠ none) : ¬IsSymmetric new.path := by
  unfold Call.newKey at isNew
  split at isNew
  · rcases Option.map_eq_some_iff.mp isNew with ⟨_, _, rfl⟩
    exact (isPair rfl).elim
  · rcases Option.map_eq_some_iff.mp isNew with ⟨⟨request, output⟩, pair, rfl⟩
    rcases pairRequest_madeBy pair with ⟨_, slot, _, made⟩
    have extension : Path.extension (safeFilename request.label ++ 46 :: ascii "p12") =
        46 :: ascii "p12" :=
      Path.extension_append (safeFilename_ne_nil _) (by simp [ascii])
    change ¬Path.extension (Path.filename request.path) = ascii ".key"
    rw [made.path, asymmetricKeyPath, Path.filename_child]
    change ¬Path.extension (safeFilename request.label ++ 46 :: ascii "p12") = ascii ".key"
    rw [extension]
    decide

theorem isSymmetric_symmetricKeyPath (slot : Slot) (label : Bytes) :
    IsSymmetric (symmetricKeyPath slot label) := by
  have extension : Path.extension (safeFilename label ++ 46 :: ascii "key") = 46 :: ascii "key" :=
    Path.extension_append (safeFilename_ne_nil _) (by simp [ascii])
  rw [IsSymmetric, symmetricKeyPath, Path.filename_child]
  exact extension

/-- A creation leaves no secret key of the token without its file. -/
theorem SymmetricFiles.creation {sessionHandle : Nat} {session : Session} {slot : Slot}
    {new : NewKey} {next : State} {rv : Response} (wellFormed : WellFormed state)
    (files : SymmetricFiles state) (isNew : call.newKey host oracle state = some new)
    (guard : CreationGuard state sessionHandle session slot new.token)
    (made : new.MadeBy host oracle call sessionHandle session slot)
    (creation : Creation host oracle state new (next, rv)) (symmetric : IsSymmetric new.path)
    {handle : Nat} {object : Object} (isObject : FileObject next.objects new.path handle object) :
    ∃ bytes, next.disk.content new.path = some bytes := by
  have old (isOld : FileObject state.objects new.path handle object) :
      ∃ bytes, state.disk.content new.path = some bytes := by
    have stored := files handle object isOld.found isOld.token
    rw [isOld.samePath] at stored
    exact stored symmetric
  cases creation with
  | refused _ _ => exact old isObject
  | @broken _ stored _ _ _ _ _ _ => exact ⟨stored, (content_writeFile _ _ _).trans (if_pos rfl)⟩
  | withdrawn _ _ _ _ _ =>
      rcases OrderedMap.get?_eraseIf_eq_some_iff.mp isObject.found with ⟨_, otherPath⟩
      exact absurd isObject.samePath (by simpa using otherPath)
  | @created _ _ stored _ _ _ _ _ _ _ _ _ _ _ =>
      refine ⟨stored, ?_⟩
      dsimp only
      rw [content_writeFile, if_neg (Metadata.path_ne new.path).symm, content_writeFile, if_pos rfl]
  | kept token _ handles _ =>
      rcases (get?_registerAll made.distinct handle object).mp isObject.found with
        ⟨isNewObject, _⟩ | ⟨_, found⟩
      · have owner := (made.sessionObjects token object isNewObject).1
        rw [isObject.token] at owner
        exact (wellFormed.sessionHandle_ne_zero guard.sessionFound owner.symm).elim
      · exact old ⟨found, isObject.token, isObject.samePath⟩
  | half isKey _ _ _ _ _ _ _ _ _ =>
      exact (newKey_not_symmetric isNew (by simp [isKey]) symmetric).elim

theorem SymmetricFiles.step (wellFormed : WellFormed state) (files : SymmetricFiles state)
    (input : Call × Oracle) : SymmetricFiles (HsmSimulator.step host state input).1 := by
  rcases input with ⟨call, oracle⟩
  have nextWellFormed := @WellFormed.step host state wellFormed (call, oracle)
  have effect := @step_token host oracle state wellFormed call
  have closing := @step_closed_cases host oracle state
  generalize isResult : HsmSimulator.step host state (call, oracle) = result at *
  intro handle object found token symmetric
  have opened := nextWellFormed.initialized_of_object found
  by_cases stays : state.initialized = true
  · rcases nextWellFormed.tokenObject handle object found token with ⟨_, _, slot, _, keyPath⟩
    cases effect.at wellFormed keyPath stays opened with
    | same unchanged =>
        have isObject := (unchanged.objects handle object).mp ⟨found, token, rfl⟩
        rcases files handle object isObject.found token symmetric with ⟨bytes, stored⟩
        exact ⟨bytes, unchanged.content.trans stored⟩
    | altered _ _ isTarget _ _ isNext =>
        rw [← isTarget.samePath] at symmetric ⊢
        rcases files _ _ isTarget.found isTarget.token symmetric with ⟨bytes, stored⟩
        refine ⟨bytes, ?_⟩
        rw [isNext]
        dsimp only
        rw [← isTarget.samePath, content_writeFile, if_neg (Metadata.path_ne _).symm]
        exact stored
    | emptied _ none _ _ => exact (none handle object ⟨found, token, rfl⟩).elim
    | created isNew samePath guard made creation =>
        rw [← samePath] at symmetric ⊢
        exact files.creation wellFormed isNew guard made creation symmetric
          ⟨found, token, samePath.symm⟩
  · have isClosed : state.initialized = false := by simpa using stays
    rcases closing isClosed call with ⟨same, _⟩ | ⟨_, initialization⟩
    · rw [isResult] at same
      rw [same] at opened
      exact (stays opened).elim
    · rw [isResult] at initialization
      exact (TokenFiles.initialization initialization).exist handle object found token

theorem SymmetricOrder.step (order : SymmetricOrder state) (input : Call × Oracle) :
    SymmetricOrder (HsmSimulator.step host state input).1 := by
  have effect := @step_token host input.2 state order.wellFormed input.1
  exact ⟨order.wellFormed.step input, order.files.step order.wellFormed input,
    wordPolicies_stable.effect order.words effect, fewPolicies_stable.effect order.few effect⟩

end

/-- The secret key that a creation by default makes. -/
structure DefaultKey (host : Host) (state : State) (input : Call × Oracle) (source : IdSource)
    (sessionHandle : Nat) (session : Session) (slot : Slot) (object : Object) (token : Bool) :
    Prop where
  handle : object.handle = state.nextObjectHandle
  objectClass : object.objectClass = ckoSecretKey
  id : object.id = decimal (source.number state.nextObjectHandle)
  symmetric : token = true → IsSymmetric object.path
  guard : CreationGuard state sessionHandle session slot token
  made : (secretKey slot object token).MadeBy host input.2 input.1 sessionHandle session slot
  creation : Creation host input.2 state (secretKey slot object token) (step host state input)

section

variable {host : Host} {state : State} {input : Call × Oracle} {source : IdSource} {handle : Nat}

theorem CreatesByDefault.defaultKey (wellFormed : WellFormed state)
    (creates : CreatesByDefault host state input source handle) :
    ∃ sessionHandle session slot object token,
      DefaultKey host state input source sessionHandle session slot object token := by
  rcases input with ⟨call, oracle⟩
  rcases creates with ⟨attributes, isSource, absent, returned⟩
  change call.idSource = _ at isSource
  rcases creates_of_idSource isSource with ⟨creates, sessionHandle, onSession⟩
  have isOpen : state.initialized = true := by
    by_contra isClosed
    rcases @step_closed_cases host oracle state (by simpa using isClosed) call with
      ⟨_, notOk⟩ | ⟨rfl, _⟩
    · rw [returned] at notOk
      exact notOk rfl
    · contradiction
  have ends := @service_creationCall host oracle state call sessionHandle wellFormed creates
    onSession
  have isService : step host state (call, oracle) = service host oracle state call :=
    step_of_open isOpen call
  rw [isService] at returned
  generalize service host oracle state call = result at ends isService returned
  cases ends with
  | rejected _ _ => simp [Response.plain, Response.success] at returned
  | @performed session slot new _ isNew guard made creation =>
      have request := isNew
      unfold Call.newKey at request
      split at request
      · rename_i object token asked
        rcases Option.map_eq_some_iff.mp request with ⟨slotOfNew, slotOfSession, rfl⟩
        rcases secretRequest_default isSource absent asked with ⟨isHandle, isClass, isId⟩
        have sameSlot : slotOfNew = slot := made.sameSlot
        subst sameSlot
        refine ⟨sessionHandle, session, slotOfNew, object, token, isHandle, isClass, isId, ?_,
          guard,
          made, by rw [isService]; exact creation⟩
        rintro rfl
        rcases secretRequest_named onSession asked with ⟨named, _, path⟩
        rw [path]
        exact isSymmetric_symmetricKeyPath named object.label
      · rw [pairRequest_of_idSource isSource] at request
        contradiction

/-- The handle that is returned is the next one, and the key is held to its id. -/
theorem CreatesByDefault.held (order : SymmetricOrder state)
    (creates : CreatesByDefault host state input source handle) :
    handle = state.nextObjectHandle ∧ handle < (step host state input).1.nextObjectHandle ∧
      Held ckoSecretKey IsSymmetric
        (fun record => record.id = decimal (source.number handle)) (step host state input).1
        (.registered handle) := by
  have wellFormed := order.wellFormed
  have next := @SymmetricOrder.step host state order input
  rcases creates.defaultKey wellFormed with
    ⟨sessionHandle, session, slot, object, token, isHandle, isClass, isId, symmetric, guard, made,
      creation⟩
  rcases creates with ⟨_, _, _, returned⟩
  generalize step host state input = result at creation returned next
  have isMember : object ∈ (secretKey slot object token).objects := List.mem_singleton_self object
  cases creation with
  | @created counter _ stored _ isToken _ handles _ opened _ _ _ isRecords complete =>
      cases returned
      have fresh := handles object isMember
      have new : (registerAll state.objects [object]).get? object.handle = some object :=
        (get?_registerAll made.distinct _ _).mpr (Or.inl ⟨isMember, rfl⟩)
      have owned := (made.tokenObjects isToken object isMember).1
      have isObject : FileObject (registerAll state.objects [object]) object.path object.handle
          object := ⟨new, owned, rfl⟩
      -- An older object of the path would have its file.
      have only : ∀ other sibling,
          FileObject (registerAll state.objects [object]) object.path other sibling →
            other = object.handle := by
        intro other sibling isSibling
        rcases (get?_registerAll made.distinct other sibling).mp isSibling.found with
          ⟨isNew, same⟩ | ⟨_, old⟩
        · rw [← same, List.mem_singleton.mp isNew]
        · have absent : state.disk.content object.path = none := content_of_absent opened.absent
          have file := order.files other sibling old isSibling.token
          rw [isSibling.samePath, absent] at file
          rcases file (symmetric isToken) with ⟨_, found⟩
          contradiction
      have distinct : DistinctRecords (registerAll state.objects [object]) object.path none := by
        intro first second left right isLeft isRight _
        rw [only first left isLeft, only second right isRight]
      refine ⟨isHandle, fresh.2, object, new, isClass, by rw [isHandle]; exact isId, fun _ => ?_⟩
      refine ⟨⟨⟨_, made.keyPath (Or.inl isToken)⟩, symmetric isToken, ⟨stored, ?_⟩, ?_⟩, distinct⟩
      · change ((state.disk.writeFile object.path stored).writeFile (Metadata.path object.path)
          _).content object.path = _
        rw [content_writeFile, if_neg (Metadata.path_ne _).symm, content_writeFile, if_pos rfl]
      · rw [← isClass]
        refine MetadataSays.published next.wellFormed next.words next.few ?_ complete ?_ isObject
          (by rw [isHandle]; exact isId)
        · rw [isRecords]
          exact get?_collectMetadata distinct
        · exact (content_writeFile _ _ _).trans (if_pos rfl)
  | kept noToken _ handles _ =>
      cases returned
      have fresh := handles object isMember
      have new : (registerAll state.objects [object]).get? object.handle = some object :=
        (get?_registerAll made.distinct _ _).mpr (Or.inl ⟨isMember, rfl⟩)
      refine ⟨isHandle, fresh.2, object, new, isClass, by rw [isHandle]; exact isId,
        fun token => ?_⟩
      have owner := (made.sessionObjects noToken object isMember).1
      rw [token] at owner
      exact (wellFormed.sessionHandle_ne_zero guard.sessionFound owner.symm).elim
  | refused _ _ => simp [Response.plain, Response.success] at returned
  | broken _ _ _ _ _ => simp [Response.plain, Response.success] at returned
  | withdrawn _ _ _ _ _ => simp [Response.plain, Response.success] at returned
  | half _ _ _ _ _ _ _ _ _ _ => simp [Response.plain, Response.success] at returned

/-! ## One step -/

end

/-! ## Searches by id -/

end HsmSimulator
