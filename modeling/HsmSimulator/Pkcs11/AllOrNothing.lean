import HsmSimulator.Pkcs11.Handles
import HsmSimulator.Storage.Records

/-!
# Creation is all or nothing

A creating call that fails leaves the registry and the files as they were, and one that
succeeds stores the whole key, as long as the defects of the creation paths are not
reached: a key file whose stream fails after it was opened, a digest that fails after the
container was saved, and a pair that does not get its public half.  The policies of the
template are applied to every new object but the public half of an unwrapped key.
-/

namespace HsmSimulator

open FileSystem

/-- The defects of the creation paths are not reached: a key file that is opened is
written and closed completely, a container that was saved gets its digest, and a pair
that is registered gets its public half. -/
structure NewKey.Unbroken (host : Host) (oracle : Oracle) (state : State) (new : NewKey) :
    Prop where
  stream : new.token = true → StreamOpened oracle state.disk new.path new.content →
    oracle.writeResult new.path = .complete
  digest : ∀ key, new.key = some key → new.token = true →
    StreamOpened oracle state.disk new.path new.content →
    objectIdForFilename host new.path.filename ≠ none
  half : ∀ key, new.key = some key →
    (new.token = true → StreamOpened oracle state.disk new.path new.content) →
    objectIdForFilename host new.path.filename ≠ none → publicKeyOnly oracle key ≠ none

def CreationUnbroken (host : Host) (state : State) (input : Call × Oracle) : Prop :=
  ∀ new, input.1.newKey host input.2 state = some new → new.Unbroken host input.2 state

/-- The content of a key file is the complete encoding of the key of an object. -/
inductive EncodesKey (host : Host) (oracle : Oracle) (slot : Slot) (object : Object) :
    Bytes → Prop
  | secret : object.objectClass = ckoSecretKey →
      EncodesKey host oracle slot object (encodeHex object.secretValue ++ [10])
  | pair {key publicKey : EvpKey} {label content : Bytes} :
      publicKeyOnly oracle key = some publicKey →
      (object.objectClass = ckoPrivateKey ∧ object.asymmetricKey = some key ∨
        object.objectClass = ckoPublicKey ∧ object.asymmetricKey = some publicKey) →
      oracle.createPkcs12 (cString slot.p12Password) (cString label) key = some content →
      EncodesKey host oracle slot object content

/-- The template gives its policies to an object of this class: only the public half of an
unwrapped key gets none. -/
def Call.AppliesPolicies (call : Call) (objectClass : Nat) : Prop :=
  match call with
  | .unwrapKey _ _ _ _ attributes _ => objectClass = ckoPublicKey →
      ∀ entry ∈ attributes.toList, isPolicyAttribute entry.type = false
  | _ => True

/-- A new token object is stored: its key file holds its whole key, and the metadata file the
records of the objects of the key file.  It has the policies of its template if the call applies
them. -/
structure TokenKeyStored (host : Host) (oracle : Oracle) (call : Call) (slot : Slot)
    (after : State) (object : Object) : Prop where
  policy : object.policy = applyPolicyTemplate ∅ (call.templateFor object.objectClass) ↔
    call.AppliesPolicies object.objectClass
  keyFile : ∃ content, after.disk.content object.path = some content ∧
    EncodesKey host oracle slot object content
  metadata : ∃ records, after.disk.content (Metadata.path object.path) =
      some (Metadata.encode records).bytes ∧ (Metadata.encode records).complete = true ∧
    ∀ cls record, records.get? cls = some record ↔ ∃ handle sibling,
      FileObject after.objects object.path handle sibling ∧ sibling.objectClass = cls ∧
        sibling.record = record

theorem applyPolicyTemplate_eq_empty_iff (attributes : Template) :
    applyPolicyTemplate ∅ attributes = ∅ ↔
      ∀ entry ∈ attributes.toList, isPolicyAttribute entry.type = false := by
  have named (entry : Attribute) : ∀ (entries : List Attribute) (policy : OrderedMap Nat Bool),
      (entry ∈ entries ∧ isPolicyAttribute entry.type = true) ∨ policy.get? entry.type ≠ none →
      (applyPolicyTemplate policy (.entries entries)).get? entry.type ≠ none := by
    intro entries
    induction entries with
    | nil =>
        rintro policy (⟨member, _⟩ | there)
        · contradiction
        · exact there
    | cons other rest ih =>
        intro policy given
        refine ih (if isPolicyAttribute other.type then policy.insert other.type other.boolean
          else policy) ?_
        rcases given with ⟨member, isPolicy⟩ | there
        · rcases List.mem_cons.mp member with rfl | inRest
          · right
            rw [if_pos isPolicy, OrderedMap.get?_insert_self]
            exact Option.some_ne_none _
          · exact Or.inl ⟨inRest, isPolicy⟩
        · right
          split
          · rw [OrderedMap.get?_insert]
            split
            · exact Option.some_ne_none _
            · exact there
          · exact there
  constructor
  · intro empty entry member
    by_contra isPolicy
    rw [Bool.not_eq_false] at isPolicy
    refine named entry attributes.toList ∅ (Or.inl ⟨member, isPolicy⟩) ?_
    have same : applyPolicyTemplate ∅ (.entries attributes.toList) =
        applyPolicyTemplate ∅ attributes := by
      cases attributes <;> rfl
    rw [same, empty]
    rfl
  · intro none
    unfold applyPolicyTemplate
    generalize attributes.toList = entries at none ⊢
    induction entries with
    | nil => rfl
    | cons entry rest ih =>
        rw [List.foldl_cons, none entry List.mem_cons_self]
        exact ih fun other inRest => none other (List.mem_cons_of_mem _ inRest)

/-- The policies that an object gets are those of its own template where they are applied. -/
theorem Call.policies_iff (call : Call) (objectClass : Nat) :
    applyPolicyTemplate ∅ (call.policyTemplate objectClass) =
      applyPolicyTemplate ∅ (call.templateFor objectClass) ↔ call.AppliesPolicies objectClass := by
  cases call with
  | unwrapKey _ _ _ _ attributes _ =>
      simp only [Call.policyTemplate, Call.templateFor, Call.AppliesPolicies]
      by_cases isPublic : objectClass = ckoPublicKey
      · rw [if_pos isPublic, ← applyPolicyTemplate_eq_empty_iff]
        exact ⟨fun same _ => same.symm, fun empty => (empty isPublic).symm⟩
      · rw [if_neg isPublic]
        exact ⟨fun _ isIt => (isPublic isIt).elim, fun _ => rfl⟩
  | _ => exact iff_of_true rfl trivial

theorem CreationUnbroken.sessionPairsWhole {host : Host} {state : State} {input : Call × Oracle}
    (unbroken : CreationUnbroken host state input) : SessionPairsWhole host state input := by
  intro new key isNew notToken isKey digest
  apply (unbroken new isNew).half key isKey _ digest
  intro isToken
  rw [notToken] at isToken
  contradiction

section

variable {host : Host} {oracle : Oracle} {state : State} {call : Call} {sessionHandle : Nat}
  {session : Session} {slot : Slot} {new : NewKey} {result : State × Response}

/-- No object has a path that is free and is none of a session object. -/
theorem TokenFiles.eraseIf_free (files : TokenFiles state) (wellFormed : WellFormed state)
    {path : Path} (nonempty : path ≠ []) (absent : state.disk.hasPath path = false) :
    (state.objects.eraseIf fun _ object => object.path = path) = state.objects := by
  apply OrderedMap.ext_get?
  intro handle
  ext object
  rw [OrderedMap.get?_eraseIf_eq_some_iff, decide_eq_false_iff_not]
  constructor
  · exact And.left
  · intro found
    refine ⟨found, ?_⟩
    rintro rfl
    by_cases token : object.ownerSession = 0
    · rcases files.exist handle object found token with ⟨bytes, stored⟩
      rw [content_of_absent absent] at stored
      contradiction
    · exact nonempty (wellFormed.sessionObject handle object found token).1

/-- A creation that fails has taken a handle at most. -/
theorem Creation.unchanged (files : TokenFiles state) (wellFormed : WellFormed state)
    (made : new.MadeBy host oracle call sessionHandle session slot)
    (unbroken : new.Unbroken host oracle state) (removes : ∀ file, oracle.removeFails file = false)
    (creation : Creation host oracle state new result) (failed : result.2.rv ≠ .ok) :
    ∃ next, state.nextObjectHandle ≤ next ∧
      result.1 = { state with nextObjectHandle := next } := by
  cases creation with
  | @refused next _ advanced _ => exact ⟨next, advanced, rfl⟩
  | broken token _ _ opened cause =>
      rcases cause with ⟨kept, atWrite | atClose⟩ | ⟨isPair, noDigest⟩
      · rw [unbroken.stream token opened] at atWrite
        contradiction
      · rw [unbroken.stream token opened] at atClose
        contradiction
      · rcases Option.ne_none_iff_exists'.mp isPair with ⟨key, isKey⟩
        exact (unbroken.digest key isKey token opened noDigest).elim
  | @withdrawn next disk token advanced absent _ restored =>
      refine ⟨next, advanced, ?_⟩
      have keyPath := made.keyPath (Or.inl token)
      rw [restored removes, files.eraseIf_free wellFormed keyPath.ne_nil absent]
  | created _ _ _ _ _ _ _ _ _ _ => exact (failed rfl).elim
  | kept _ _ _ _ => exact (failed rfl).elim
  | half isKey digest noHalf _ _ _ _ _ _ file =>
      refine (unbroken.half _ isKey ?_ digest noHalf).elim
      intro isToken
      rcases file with ⟨notToken, _⟩ | ⟨_, opened, _⟩
      · rw [isToken] at notToken
        contradiction
      · exact opened

/-- The objects of a new key are encoded in its key file. -/
theorem NewKey.Encodes.object {full : Bytes} (encodes : new.Encodes host oracle)
    (content : new.content = some full) {object : Object} (member : object ∈ new.objects) :
    EncodesKey host oracle new.slot object full := by
  cases encodes with
  | secret stored _ objects core _ hex =>
      rw [objects, List.mem_singleton] at member
      subst member
      rw [content] at hex
      cases hex
      exact .secret (objectClass_eq_of_core core)
  | pair key label _ container objects =>
      rcases objects (List.ne_nil_of_mem member) with ⟨publicKey, half, cores⟩
      rw [content, pairContent, eq_comm, Option.filter_eq_some_iff] at container
      have listed : object.core ∈ new.objects.map Object.core := List.mem_map_of_mem member
      rw [cores, List.mem_cons, List.mem_singleton] at listed
      refine .pair half ?_ container.1
      rcases listed with isPrivate | isPublic
      · exact Or.inl ⟨objectClass_eq_of_core isPrivate, congrArg Object.asymmetricKey isPrivate⟩
      · exact Or.inr ⟨objectClass_eq_of_core isPublic, congrArg Object.asymmetricKey isPublic⟩

/-- The token objects of a creation that succeeds are stored. -/
theorem Creation.stored (files : TokenFiles state) (wellFormed : WellFormed state)
    (guard : CreationGuard state sessionHandle session slot new.token)
    (made : new.MadeBy host oracle call sessionHandle session slot)
    (unbroken : new.Unbroken host oracle state)
    (creation : Creation host oracle state new result) (succeeded : result.2.rv = .ok)
    {handle : Nat} {object : Object} (found : result.1.objects.get? handle = some object)
    (entered : state.objects.get? handle = none) (token : object.ownerSession = 0) :
    TokenKeyStored host oracle call slot result.1 object := by
  have isNew (found : (registerAll state.objects new.objects).get? handle = some object) :
      object ∈ new.objects := by
    rcases (get?_registerAll made.distinct handle object).mp found with ⟨member, _⟩ | ⟨_, old⟩
    · exact member
    · rw [entered] at old
      contradiction
  have tokenFiles : TokenFiles result.1 := by
    refine files.creation wellFormed guard made ?_ creation
    intro key notToken isKey digest
    refine unbroken.half key isKey ?_ digest
    intro isToken
    rw [notToken] at isToken
    contradiction
  cases creation with
  | refused _ failed => exact (failed succeeded).elim
  | broken _ _ failed _ _ => exact (failed succeeded).elim
  | withdrawn _ _ _ _ _ => contradiction
  | half _ _ _ _ _ _ _ _ _ _ => contradiction
  | kept notToken _ _ _ =>
      have owner := (made.sessionObjects notToken object (isNew found)).1
      rw [token] at owner
      exact (wellFormed.sessionHandle_ne_zero guard.sessionFound owner.symm).elim
  | @created next full stored records isToken _ _ _ opened _ content saved isRecords complete =>
      have member := isNew found
      have samePath := (made.tokenObjects isToken object member).2
      have whole : stored = full := by
        rcases saved with ⟨_, same⟩ | ⟨kept, atClose, _⟩
        · exact same
        · rw [unbroken.stream isToken opened] at atClose
          contradiction
      constructor
      · rw [made.policies object member]
        exact call.policies_iff object.objectClass
      · refine ⟨full, ?_, ?_⟩
        · rw [samePath, content_writeFile, if_neg (Metadata.path_ne new.path).symm,
            content_writeFile, if_pos rfl, whole]
        · rw [← made.sameSlot]
          exact (made.encodes isToken).object content member
      · refine ⟨records, ?_, complete, ?_⟩
        · rw [samePath, content_writeFile, if_pos rfl]
        · intro cls record
          rw [isRecords, samePath]
          apply get?_collectMetadata
          intro first second left right isLeft isRight sameClass
          exact tokenFiles.unique first second left right isLeft.found isRight.found isLeft.token
            isRight.token (isLeft.samePath.trans isRight.samePath.symm) sameClass

end

/-- A creation that succeeds returns a handle. -/
theorem Creation.returns {host : Host} {oracle : Oracle} {state : State} {call : Call}
    {new : NewKey} {result : State × Response} (isNew : call.newKey host oracle state = some new)
    (creation : Creation host oracle state new result) (succeeded : result.2.rv = .ok) :
    result.2.output.handles ≠ [] := by
  cases creation with
  | refused _ failed => exact (failed succeeded).elim
  | broken _ _ failed _ _ => exact (failed succeeded).elim
  | withdrawn _ _ _ _ _ => contradiction
  | half _ _ _ _ _ _ _ _ _ _ => contradiction
  | kept _ _ _ _ => exact Call.newKey_handles isNew
  | created _ _ _ _ _ _ _ _ _ _ => exact Call.newKey_handles isNew

/-- What a creating call returns are object handles. -/
theorem created_entered {host : Host} {state : State} {call : Call} {sessionHandle : Nat}
    {oracle : Oracle} (wellFormed : WellFormed state)
    (ends : CreationCall host oracle state call sessionHandle (step host state (call, oracle)))
    (handle : Nat) (returned : handle ∈ (step host state (call, oracle)).2.output.handles) :
    handle ∈ enteredObjects host state (call, oracle) := by
  rcases returned_entered wellFormed (call, oracle) handle returned with isSession | isObject
  · rcases mem_enteredSessions.mp isSession with ⟨⟨session, found⟩, absent⟩
    rw [ends.frame] at found
    change state.findSession handle = some session at found
    rw [absent] at found
    contradiction
  · exact isObject

/-- After a run that reached no defect, and for a further creating call that reaches none:
a failure has taken a handle at most, and a success returns handles it issued and has
stored every new token object, which has the policies of its template unless it is the public
half of an unwrapped key and the template names some. -/
theorem creation_all_or_nothing (host : Host) (disk : FileSystem)
    (inputs : List (Call × Oracle)) (state : State) (call : Call) (oracle : Oracle)
    (sessionHandle : Nat) (reached : Runs.final (step host) (.loaded disk) inputs = state)
    (creates : call.creates = true) (onSession : call.session? = some sessionHandle)
    (unbroken : Runs.Along (step host) (CreationUnbroken host) (.loaded disk)
      (inputs ++ [(call, oracle)]))
    (removes : ∀ file, oracle.removeFails file = false) :
    ((step host state (call, oracle)).2.rv ≠ .ok → ∃ next, state.nextObjectHandle ≤ next ∧
        (step host state (call, oracle)).1 = { state with nextObjectHandle := next }) ∧
      ((step host state (call, oracle)).2.rv = .ok → ∃ session slot,
        state.findSession sessionHandle = some session ∧
        state.findSlot session.slotId = some slot ∧
        (step host state (call, oracle)).2.output.handles ≠ [] ∧
        (∀ handle ∈ (step host state (call, oracle)).2.output.handles,
          handle ∈ enteredObjects host state (call, oracle)) ∧
        ∀ handle object, (step host state (call, oracle)).1.objects.get? handle = some object →
          state.objects.get? handle = none → object.ownerSession = 0 →
          TokenKeyStored host oracle call slot (step host state (call, oracle)).1 object) := by
  subst reached
  rw [Runs.along_append] at unbroken
  have files := TokenFiles.run (unbroken.1.mono fun _ _ => CreationUnbroken.sessionPairsWhole)
  have wellFormed := @wellFormed_run host disk inputs
  generalize Runs.final (step host) (.loaded disk) inputs = state at unbroken files wellFormed ⊢
  have ends := @step_creationCall host state call sessionHandle wellFormed creates onSession oracle
  have entered := created_entered wellFormed ends
  have lastUnbroken := unbroken.2.1
  generalize step host state (call, oracle) = result at ends entered ⊢
  constructor
  · intro failed
    cases ends with
    | @rejected next _ advanced _ => exact ⟨next, advanced, rfl⟩
    | performed isNew guard made creation =>
        exact creation.unchanged files wellFormed made (lastUnbroken _ isNew) removes failed
  · intro succeeded
    cases ends with
    | rejected _ failed => exact (failed succeeded).elim
    | @performed session slot new _ isNew guard made creation =>
        refine ⟨session, slot, guard.sessionFound, guard.slotFound, creation.returns isNew
          succeeded,
          entered, ?_⟩
        intro handle object found absent token
        exact creation.stored files wellFormed guard made (lastUnbroken new isNew) succeeded found
          absent token

theorem creation_of_aesKey :
    ∃ slot object,
      (step .plain plainSession (aesKey 1, .plain)).1.objects.get? 1 = some object ∧
        TokenKeyStored .plain .plain (aesKey 1) slot
          (step .plain plainSession (aesKey 1, .plain)).1 object := by
  have unbroken (state : State) (call : Call) :
      CreationUnbroken .plain state (call, .plain) := by
    intro new _
    constructor
    · intro _ _
      rfl
    · intro key _ _ _
      simp [objectIdForFilename, Host.plain, OpenSsl.plain]
    · intro key _ _ _
      simp [publicKeyOnly, Oracle.plain]
  have along (calls : List Call) (state : State) :
      Runs.Along (step .plain) (CreationUnbroken .plain) state (plainRun calls) := by
    induction calls generalizing state with
    | nil => trivial
    | cons call rest ih => exact ⟨unbroken state call, ih _⟩
  have created : ∃ object,
      (step .plain plainSession (aesKey 1, .plain)).1.objects.get? 1 = some object ∧
        object.ownerSession = 0 := by
    decide
  rcases created with ⟨object, found, token⟩
  rcases (creation_all_or_nothing .plain ⟨∅, ∅⟩ _ plainSession (aesKey 1) .plain 1 rfl rfl rfl
    (along [.cInitialize false, .openSession 1 6 true, aesKey 1] _) fun _ => rfl).2 (by decide) with
    ⟨_, slot, _, _, _, _, stored⟩
  exact ⟨slot, object, found, stored 1 object found (by decide) token⟩

/-- The plain environment, with the given fate of the key file of `aesKey`. -/
def Oracle.keyFile (result : WriteResult) : Oracle :=
  { Oracle.plain with writeResult := fun path =>
      if path.filename = ascii "aes-key.key" then result else .complete }

/-- A secret key whose file fails when it is closed is reported as created although its file
is empty; one whose file fails while it is written is refused but leaves the file. -/
theorem key_file_incomplete :
    ((step .plain plainSession (aesKey 1, .keyFile (.failsAtClose 0))).2.rv = .ok ∧
      (step .plain plainSession (aesKey 1, .keyFile (.failsAtClose 0))).1.disk.content
        [ascii "data", ascii "symmetric", ascii "aes-key.key"] = some []) ∧
      (step .plain plainSession (aesKey 1, .keyFile (.failsAtWrite 3))).2.rv = .deviceError ∧
      (step .plain plainSession (aesKey 1, .keyFile (.failsAtWrite 3))).1.disk ≠
        plainSession.disk := by
  decide

end HsmSimulator
