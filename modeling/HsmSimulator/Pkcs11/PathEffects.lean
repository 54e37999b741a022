import HsmSimulator.Pkcs11.PolicyRecords

/-!
# What one call does to one key file

A call leaves the objects and the files of a path alone, or it changes the attributes of
one of the objects, removes them together with the key file, or attempts a creation there.
-/

namespace HsmSimulator

open FileSystem

/-- The token objects of the path, its key file and its metadata are the same. -/
structure SameAt (before after : State) (path : Path) : Prop where
  objects : ∀ handle object, FileObject after.objects path handle object ↔
    FileObject before.objects path handle object
  content : after.disk.content path = before.disk.content path
  metadata : after.disk.content (Metadata.path path) = before.disk.content (Metadata.path path)

/-- The effects of a call on the objects and the files of a path. -/
inductive PathEffect (host : Host) (oracle : Oracle) (state : State) (call : Call) (path : Path)
    (result : State × Response) : Prop
  | same : SameAt state result.1 path → PathEffect host oracle state call path result
  | altered {sessionHandle handle : Nat} {attributes : Template} {object changed : Object}
      {records : Metadata.Records} :
      call = .setAttributeValue sessionHandle handle attributes →
      AttributeChange state sessionHandle handle attributes object changed →
      FileObject state.objects path handle object →
      records = collectMetadata oracle state.objects path (some changed) →
      (Metadata.encode records).complete = true →
      result = ({ state with
        disk := state.disk.writeFile (Metadata.path path) (Metadata.encode records).bytes
        objects := state.objects.insert handle changed }, .plain .ok) →
      PathEffect host oracle state call path result
  | emptied {handle : Nat} {object : Object} : FileObject state.objects path handle object →
      (∀ other stored, ¬FileObject result.1.objects path other stored) →
      result.1.disk.content path = none →
      (result.1.disk.content (Metadata.path path) = none ∨
        oracle.removeFails (Metadata.path path) = true) →
      PathEffect host oracle state call path result
  | created {sessionHandle : Nat} {session : Session} {slot : Slot} {new : NewKey} :
      call.newKey host oracle state = some new → new.path = path →
      CreationGuard state sessionHandle session slot new.token →
      new.MadeBy host oracle call sessionHandle session slot →
      Creation host oracle state new result → PathEffect host oracle state call path result

/-- No name of a PIN file is one of a key file, and none that of its metadata. -/
theorem IsKeyPath.pin_ne {directory path pin : Path} (keyPath : IsKeyPath directory path)
    {slot : Slot} {role : UserType}
    (isPin : pin = slot.pinPath role ∨ pin = slot.pinTemporary role) :
    path ≠ pin ∧ Metadata.path path ≠ pin := by
  have last : pin.filename.getLast? = some 116 ∨ pin.filename.getLast? = some 112 := by
    rcases isPin with rfl | rfl
    · left
      rw [Slot.pinPath, Path.filename_child]
      cases role <;> decide
    · right
      rw [Slot.pinTemporary, Path.filename_extend]
      simp [ascii]
  have keyLast := keyPath.getLast
  constructor
  · rintro rfl
    rcases last with last | last <;> simp [last] at keyLast
  · rintro rfl
    rw [Metadata.path, Path.filename_extend] at last
    simp [ascii] at last

section

variable {host : Host} {oracle : Oracle} {state next : State} {call : Call} {directory path : Path}

namespace SameAt

/-- The token objects are the same and so are the files of the path. -/
theorem of_sameToken (same : SameToken state next)
    (content : next.disk.content path = state.disk.content path)
    (metadata : next.disk.content (Metadata.path path) =
      state.disk.content (Metadata.path path)) : SameAt state next path := by
  refine ⟨fun handle object => ?_, content, metadata⟩
  constructor
  · rintro ⟨found, token, samePath⟩
    exact ⟨(same.objects handle object token).mp found, token, samePath⟩
  · rintro ⟨found, token, samePath⟩
    exact ⟨(same.objects handle object token).mpr found, token, samePath⟩

/-- Only objects and files of another key change. -/
theorem of_other {other key : Path} (keyPath : IsKeyPath directory path)
    (otherPath : IsKeyPath other key) (different : path ≠ key)
    (agrees : AgreesOutside [key, Metadata.path key, Metadata.temporaryPath key] state.disk
      next.disk)
    (objects : ∀ handle object, object.ownerSession = 0 → object.path ≠ key →
      (next.objects.get? handle = some object ↔ state.objects.get? handle = some object)) :
    SameAt state next path := by
  refine ⟨fun handle object => ?_, ?_, ?_⟩
  · constructor
    · rintro ⟨found, token, rfl⟩
      exact ⟨(objects handle object token different).mp found, token, rfl⟩
    · rintro ⟨found, token, rfl⟩
      exact ⟨(objects handle object token different).mpr found, token, rfl⟩
  · apply agrees.content
    simp only [List.mem_cons, List.not_mem_nil, or_false, not_or]
    exact ⟨different, keyPath.ne_metadata key, keyPath.ne_temporary key⟩
  · exact agrees.content _ (keyPath.metadata_not_mem_files otherPath different)

end SameAt

/-- A creation elsewhere. -/
theorem Creation.sameAt {sessionHandle : Nat} {session : Session} {slot : Slot} {new : NewKey}
    {result : State × Response} (wellFormed : WellFormed state) (keyPath : IsKeyPath directory path)
    (guard : CreationGuard state sessionHandle session slot new.token)
    (made : new.MadeBy host oracle call sessionHandle session slot)
    (creation : Creation host oracle state new result) (different : path ≠ new.path) :
    SameAt state result.1 path := by
  have agrees := creation.agrees.1
  have registered {news : List Object} (distinct : (news.map Object.handle).Nodup)
      (fresh : ∀ object ∈ news, state.nextObjectHandle ≤ object.handle)
      (others : ∀ object ∈ news, object.ownerSession = 0 → object.path = new.path)
      (handle : Nat) (object : Object) (token : object.ownerSession = 0)
      (otherPath : object.path ≠ new.path) :
      (registerAll state.objects news).get? handle = some object ↔
        state.objects.get? handle = some object := by
    rw [get?_registerAll distinct]
    constructor
    · rintro (⟨isNew, _⟩ | ⟨_, old⟩)
      · exact (otherPath (others object isNew token)).elim
      · exact old
    · intro old
      refine Or.inr ⟨?_, old⟩
      rintro stored isNew rfl
      rw [wellFormed.freshObject (fresh stored isNew)] at old
      contradiction
  cases creation with
  | refused _ _ => exact .of_sameToken (SameToken.withSessions _ _ _ _) rfl rfl
  | broken token _ _ _ _ =>
      exact .of_other keyPath (made.keyPath (Or.inl token)) different agrees fun _ _ _ _ => Iff.rfl
  | withdrawn token _ _ _ _ =>
      refine .of_other keyPath (made.keyPath (Or.inl token)) different agrees ?_
      intro handle object _ otherPath
      rw [OrderedMap.get?_eraseIf_eq_some_iff]
      simp [otherPath]
  | created token _ handles _ _ _ _ _ _ _ =>
      refine .of_other keyPath (made.keyPath (Or.inl token)) different agrees ?_
      exact registered made.distinct (fun object member => (handles object member).1)
        fun object member _ => (made.tokenObjects token object member).2
  | kept token _ handles _ =>
      exact .of_sameToken (made.sameToken wellFormed guard.sessionFound token handles) rfl rfl
  | @half key object disk isKey _ _ handle _ samePath _ _ _ _ =>
      refine .of_other keyPath (made.keyPath (Or.inr (by simp [isKey]))) different agrees ?_
      have one := @registered [object] (by simp) (by simp [handle]) (by simp [samePath])
      exact one

/-- What a call does to the objects and the files of one path. -/
theorem TokenEffect.at {result : State × Response} (wellFormed : WellFormed state)
    (effect : TokenEffect host oracle state call result) (keyPath : IsKeyPath directory path)
    (stays : state.initialized = true) (opened : result.1.initialized = true) :
    PathEffect host oracle state call path result := by
  cases effect with
  | kept same sameDisk =>
      exact .same (.of_sameToken same (by rw [sameDisk]) (by rw [sameDisk]))
  | pinWritten _ isPin same written =>
      have other := keyPath.pin_ne (isPin.imp_right And.left)
      refine .same (.of_sameToken same ?_ ?_)
      · rw [written, content_writeFile, if_neg other.1]
      · rw [written, content_writeFile, if_neg other.2]
  | @altered sessionHandle handle attributes object changed records change token isRecords
      complete =>
      rcases State.findObject_eq_some_iff.mp change.found with ⟨_, _, found, _⟩
      rcases wellFormed.tokenObject handle object found token with ⟨_, _, slot, _, objectPath⟩
      by_cases samePath : path = object.path
      · subst samePath
        exact .altered rfl change ⟨found, token, rfl⟩ isRecords complete rfl
      · refine .same (.of_other keyPath objectPath samePath
          ((AgreesOutside.refl _ _).writeFile (by simp) _) ?_)
        intro other stored _ otherPath
        dsimp only
        rw [OrderedMap.get?_insert]
        split
        · rename_i isHandle
          rw [isHandle, found]
          constructor
          · intro isChanged
            cases isChanged
            exact (otherPath (path_eq_of_core change.core_eq)).elim
          · intro isObject
            cases isObject
            exact (otherPath rfl).elim
        · exact Iff.rfl
  | @metadataLeft _ _ _ object _ _ change token _ =>
      rcases State.findObject_eq_some_iff.mp change.found with ⟨_, _, found, _⟩
      rcases wellFormed.tokenObject _ object found token with ⟨_, _, slot, _, objectPath⟩
      refine .same (.of_sameToken (SameToken.withSessions _ _ _ _) ?_ ?_)
      · dsimp only
        rw [content_writeFile, if_neg (keyPath.ne_temporary _)]
      · dsimp only
        rw [content_writeFile, if_neg (Metadata.temporaryPath_ne_metadata _ _).symm]
  | @destroyed _ _ object disk _ destruction token removed =>
      rcases State.findObject_eq_some_iff.mp destruction.found with ⟨_, _, found, _⟩
      rcases wellFormed.tokenObject _ object found token with ⟨_, _, slot, _, objectPath⟩
      by_cases samePath : path = object.path
      · subst samePath
        refine .emptied ⟨found, token, rfl⟩ ?_ ?_ ?_
        · intro handle stored isObject
          rcases OrderedMap.get?_eraseIf_eq_some_iff.mp isObject.found with ⟨_, otherPath⟩
          simp [isObject.samePath] at otherPath
        · rcases removed with ⟨_, rfl⟩ | ⟨_, rfl, _⟩
          · dsimp only
            rw [content_removeFile, if_neg (Metadata.path_ne _).symm, content_removeFile,
              if_pos rfl]
          · dsimp only
            rw [content_removeFile, if_pos rfl]
        · rcases removed with ⟨_, rfl⟩ | ⟨_, rfl, fails⟩
          · left
            dsimp only
            rw [content_removeFile, if_pos rfl]
          · exact Or.inr fails
      · have agrees : AgreesOutside [object.path, Metadata.path object.path,
            Metadata.temporaryPath object.path] state.disk disk :=
          keyFileRemoval_agrees removed (by simp) (by simp)
        refine .same (.of_other keyPath objectPath samePath agrees ?_)
        intro handle stored _ otherPath
        rw [OrderedMap.get?_eraseIf_eq_some_iff]
        simp [otherPath]
  | @creation _ _ _ _ new _ _ _ isNew guard made creation =>
      by_cases samePath : path = new.path
      · exact .created isNew samePath.symm guard made creation
      · exact .same (creation.sameAt wellFormed keyPath guard made samePath)
  | finalized => contradiction
  | initializing closed _ =>
      rw [stays] at closed
      contradiction

end

end HsmSimulator
