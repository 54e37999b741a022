import HsmSimulator.Pkcs11.TokenEffects

/-!
# Token objects and their key files

As long as no session key pair loses its public half, the key file of every token
object exists, and therefore no two token objects share path and class: a new key takes
a path without a file.
-/

namespace HsmSimulator

open FileSystem

/-- Every token object has its key file, and path and class determine it. -/
structure TokenFiles (state : State) : Prop where
  exist : KeyFilesExist state
  unique : UniqueRecords state

/-- A session key pair that the call registers gets its public half. -/
def SessionPairsWhole (host : Host) (state : State) (input : Call × Oracle) : Prop :=
  ∀ new key, input.1.newKey host input.2 state = some new → new.token = false →
    new.key = some key → objectIdForFilename host new.path.filename ≠ none →
    publicKeyOnly input.2 key ≠ none

theorem sessionPairsWhole_plain {host : Host} (state : State) (call : Call) :
    SessionPairsWhole host state (call, .plain) := by
  intro new key _ _ _ _
  exact Option.some_ne_none key

namespace TokenFiles

variable {state : State} (files : TokenFiles state)

include files

/-- Without new token objects, and with the key files there were. -/
theorem shrink {next : State}
    (objects : ∀ handle object, object.ownerSession = 0 →
      next.objects.get? handle = some object → state.objects.get? handle = some object)
    (content : ∀ handle object bytes, next.objects.get? handle = some object →
      object.ownerSession = 0 → state.disk.content object.path = some bytes →
      ∃ bytes, next.disk.content object.path = some bytes) : TokenFiles next := by
  constructor
  · intro handle object found token
    rcases files.exist handle object (objects handle object token found) token with ⟨bytes, stored⟩
    exact content handle object bytes found token stored
  · intro handle other object sibling found siblingFound token siblingToken samePath sameClass
    exact files.unique handle other object sibling (objects _ _ token found)
      (objects _ _ siblingToken siblingFound) token siblingToken samePath sameClass

theorem sameToken {next : State} (same : SameToken state next)
    (content : ∀ path bytes, state.disk.content path = some bytes →
      ∃ bytes, next.disk.content path = some bytes) : TokenFiles next :=
  files.shrink (fun handle object token => (same.objects handle object token).mp)
    fun _ object bytes _ _ => content object.path bytes

omit files in
theorem content_writeFile_some {disk : FileSystem} {path other : Path} {bytes stored : Bytes}
    (found : disk.content path = some bytes) :
    ∃ bytes, (disk.writeFile other stored).content path = some bytes := by
  rw [content_writeFile]
  split
  · exact ⟨stored, rfl⟩
  · exact ⟨bytes, found⟩

/-- An altered object keeps its path and its class. -/
theorem changeObject {handle : Nat} {object changed : Object} {disk : FileSystem}
    (found : state.objects.get? handle = some object) (same : changed.core = object.core)
    (content : ∀ path bytes, state.disk.content path = some bytes →
      ∃ bytes, disk.content path = some bytes) :
    TokenFiles { state with disk := disk, objects := state.objects.insert handle changed } := by
  have origin {other : Nat} {stored : Object}
      (storedFound : (state.objects.insert handle changed).get? other = some stored) :
      ∃ old, state.objects.get? other = some old ∧ stored.core = old.core := by
    rw [OrderedMap.get?_insert] at storedFound
    split at storedFound
    · rename_i isHandle
      cases storedFound
      rw [isHandle]
      exact ⟨object, found, same⟩
    · exact ⟨stored, storedFound, rfl⟩
  constructor
  · intro other stored storedFound token
    rcases origin storedFound with ⟨old, oldFound, sameCore⟩
    rw [ownerSession_eq_of_core sameCore] at token
    rcases files.exist other old oldFound token with ⟨bytes, oldStored⟩
    rw [path_eq_of_core sameCore]
    exact content _ _ oldStored
  · intro first second left right leftFound rightFound leftToken rightToken samePath sameClass
    rcases origin leftFound with ⟨oldLeft, oldLeftFound, leftCore⟩
    rcases origin rightFound with ⟨oldRight, oldRightFound, rightCore⟩
    rw [ownerSession_eq_of_core leftCore] at leftToken
    rw [ownerSession_eq_of_core rightCore] at rightToken
    rw [path_eq_of_core leftCore, path_eq_of_core rightCore] at samePath
    rw [objectClass_eq_of_core leftCore, objectClass_eq_of_core rightCore] at sameClass
    exact files.unique first second oldLeft oldRight oldLeftFound oldRightFound leftToken
      rightToken samePath sameClass

/-- Removing a key file removes its objects; the key files of the others stay. -/
theorem destroy (wellFormed : WellFormed state) {path : Path} {disk : FileSystem}
    (agrees : AgreesOutside [path, Metadata.path path, Metadata.temporaryPath path] state.disk disk)
    (next : Nat) :
    TokenFiles { state with
      nextObjectHandle := next
      objects := state.objects.eraseIf fun _ object => object.path = path
      disk := disk } := by
  apply files.shrink
  · intro handle object _ found
    exact (OrderedMap.get?_eraseIf_eq_some_iff.mp found).1
  · intro handle object bytes found token stored
    rcases OrderedMap.get?_eraseIf_eq_some_iff.mp found with ⟨old, otherPath⟩
    rcases wellFormed.tokenObject handle object old token with ⟨_, _, slot, _, keyPath⟩
    refine ⟨bytes, ?_⟩
    dsimp only
    rw [agrees.content object.path]
    · exact stored
    · simp only [List.mem_cons, List.not_mem_nil, or_false, not_or]
      refine ⟨?_, keyPath.ne_metadata path, keyPath.ne_temporary path⟩
      simpa using otherPath

/-- New token objects are those of a path that had no file. -/
theorem addObjects {news : List Object} {path : Path} {disk : FileSystem} {next : Nat}
    {bytes : Bytes} (distinct : (news.map Object.handle).Nodup)
    (classes : (news.map Object.objectClass).Nodup)
    (paths : ∀ object ∈ news, object.path = path) (absent : state.disk.hasPath path = false)
    (written : disk.content path = some bytes)
    (content : ∀ path bytes, state.disk.content path = some bytes →
      ∃ bytes, disk.content path = some bytes) :
    TokenFiles { state with
      nextObjectHandle := next
      objects := registerAll state.objects news
      disk := disk } := by
  have newPath {handle : Nat} {object : Object} (old : state.objects.get? handle = some object)
      (token : object.ownerSession = 0) : object.path ≠ path := by
    intro same
    rcases files.exist handle object old token with ⟨stored, found⟩
    rw [same, content_of_absent absent] at found
    contradiction
  constructor
  · intro handle object found token
    dsimp only at found ⊢
    rcases (get?_registerAll distinct handle object).mp found with ⟨isNew, _⟩ | ⟨_, old⟩
    · exact ⟨bytes, by rw [paths object isNew, written]⟩
    · rcases files.exist handle object old token with ⟨stored, oldStored⟩
      exact content _ _ oldStored
  · intro handle other object sibling found siblingFound token siblingToken samePath sameClass
    dsimp only at found siblingFound
    rcases (get?_registerAll distinct handle object).mp found with ⟨isNew, rfl⟩ | ⟨_, old⟩
    · rcases (get?_registerAll distinct other sibling).mp siblingFound with
        ⟨siblingNew, rfl⟩ | ⟨_, siblingOld⟩
      · have same := List.inj_on_of_nodup_map classes isNew siblingNew sameClass
        rw [same]
      · exact (newPath siblingOld siblingToken (samePath.symm.trans (paths object isNew))).elim
    · rcases (get?_registerAll distinct other sibling).mp siblingFound with
        ⟨siblingNew, rfl⟩ | ⟨_, siblingOld⟩
      · exact (newPath old token (samePath.trans (paths sibling siblingNew))).elim
      · exact files.unique handle other object sibling old siblingOld token siblingToken samePath
          sameClass

/-- A creation keeps the files of the token in order where a session key pair has both
its halves. -/
theorem creation {host : Host} {oracle : Oracle} {call : Call} {sessionHandle : Nat}
    {session : Session} {slot : Slot} {new : NewKey} {result : State × Response}
    (wellFormed : WellFormed state)
    (guard : CreationGuard state sessionHandle session slot new.token)
    (made : new.MadeBy host oracle call sessionHandle session slot)
    (whole : ∀ key, new.token = false → new.key = some key →
      objectIdForFilename host new.path.filename ≠ none → publicKeyOnly oracle key ≠ none)
    (creation : Creation host oracle state new result) : TokenFiles result.1 := by
  cases creation with
  | refused _ _ =>
      exact files.sameToken (SameToken.withSessions _ _ _ _) fun path bytes stored =>
        ⟨bytes, stored⟩
  | broken _ _ _ _ _ =>
      exact files.sameToken (SameToken.withSessions _ _ _ _) fun _ _ => content_writeFile_some
  | @withdrawn next disk _ _ _ agrees _ =>
      exact files.destroy wellFormed (agrees.mono (by simp)) next
  | @created next full stored records token _ handles _ opened _ _ _ _ _ =>
      have written : ((state.disk.writeFile new.path stored).writeFile (Metadata.path new.path)
          (Metadata.encode records).bytes).content new.path = some stored := by
        rw [content_writeFile, if_neg (Metadata.path_ne new.path).symm, content_writeFile,
          if_pos rfl]
      apply files.addObjects made.distinct made.distinctClasses
        (fun object member => (made.tokenObjects token object member).2) opened.absent written
      intro path bytes found
      rcases @content_writeFile_some _ _ new.path _ stored found with ⟨_, kept⟩
      exact content_writeFile_some kept
  | kept token _ handles _ =>
      have kept := made.sameToken wellFormed guard.sessionFound token handles
      exact files.sameToken kept fun path bytes stored => ⟨bytes, stored⟩
  | @half key object disk isKey digest noHalf handle owner samePath isPrivate sameSlot _ stored =>
      rcases stored with ⟨noToken, _⟩ | ⟨token, opened, stored, rfl⟩
      · exact (whole key noToken isKey digest noHalf).elim
      · have written : (state.disk.writeFile new.path stored).content new.path = some stored := by
          rw [content_writeFile, if_pos rfl]
        have added : TokenFiles { state with
            nextObjectHandle := state.nextObjectHandle + 1
            objects := registerAll state.objects [object]
            disk := state.disk.writeFile new.path stored } :=
          files.addObjects (by simp) (by simp) (by simp [samePath]) opened.absent written
            fun _ _ => content_writeFile_some
        exact added

omit files in
/-- After loading, a token object is one of the objects of its file. -/
theorem initialization {host : Host} {oracle : Oracle} {result : State × Response}
    (initialization : Initialization host oracle state result) : TokenFiles result.1 := by
  cases initialization with
  | failed _ _ objects _ _ _ _ _ =>
      constructor
      · intro handle object found
        rw [objects] at found
        contradiction
      · intro handle other object sibling found
        rw [objects] at found
        contradiction
  | @succeeded disk slots next prepared discovered loaded =>
      constructor
      · intro handle object found _
        rcases (loaded.origin discovered.slotKey found).2.2.2 with
          ⟨slot, path, content, raw, origin⟩
        refine ⟨content, ?_⟩
        rw [origin.core.2.1]
        have opened := origin.opened
        unfold FileSystem.opened at opened
        split at opened
        · contradiction
        · exact (loaded.prepared.content path).trans opened
      · intro handle other object sibling found siblingFound _ _ samePath sameClass
        rcases (loaded.objects handle object).mp found with ⟨index, raw, listed, rfl, rfl⟩
        rcases (loaded.objects other sibling).mp siblingFound with
          ⟨otherIndex, otherRaw, otherListed, rfl, rfl⟩
        rw [(withMetadata_core _ _).1, (withMetadata_core _ _).1] at sameClass
        rw [(withMetadata_core _ _).2.2.2.1, (withMetadata_core _ _).2.2.2.1] at samePath
        have classes := @tokenObjects_pairwise host oracle disk _
          discovered.layout.values_pairwise
        rw [List.pairwise_iff_getElem] at classes
        rcases List.getElem?_eq_some_iff.mp listed with ⟨below, rfl⟩
        rcases List.getElem?_eq_some_iff.mp otherListed with ⟨otherBelow, rfl⟩
        rcases Nat.lt_trichotomy index otherIndex with earlier | same | later
        · exact (classes index otherIndex below otherBelow earlier samePath sameClass).elim
        · rw [same]
        · exact (classes otherIndex index otherBelow below later samePath.symm sameClass.symm).elim

theorem effect {host : Host} {oracle : Oracle} {call : Call} {result : State × Response}
    (wellFormed : WellFormed state) (effect : TokenEffect host oracle state call result)
    (whole : SessionPairsWhole host state (call, oracle)) : TokenFiles result.1 := by
  cases effect with
  | kept same sameDisk =>
      refine files.sameToken same fun path bytes stored => ⟨bytes, ?_⟩
      rw [sameDisk]
      exact stored
  | pinWritten _ _ same written =>
      refine files.sameToken same fun path bytes stored => ?_
      rw [written]
      exact content_writeFile_some stored
  | altered change _ _ _ =>
      rcases State.findObject_eq_some_iff.mp change.found with ⟨_, _, found, _⟩
      exact files.changeObject found change.core_eq fun _ _ => content_writeFile_some
  | metadataLeft _ _ _ =>
      exact files.sameToken (SameToken.withSessions _ _ _ _) fun _ _ => content_writeFile_some
  | @destroyed _ _ object disk _ _ _ removed =>
      have agrees : AgreesOutside [object.path, Metadata.path object.path,
          Metadata.temporaryPath object.path] state.disk disk :=
        keyFileRemoval_agrees removed (by simp) (by simp)
      exact files.destroy wellFormed agrees state.nextObjectHandle
  | creation _ _ isNew guard made creation =>
      exact files.creation wellFormed guard made (fun key => whole _ key isNew) creation
  | finalized => constructor <;> simp [KeyFilesExist, UniqueRecords]
  | initializing _ initialization => exact TokenFiles.initialization initialization

theorem step {host : Host} (wellFormed : WellFormed state) (input : Call × Oracle)
    (whole : SessionPairsWhole host state input) :
    TokenFiles (HsmSimulator.step host state input).1 :=
  files.effect wellFormed (step_token wellFormed input.1) whole

omit files in
/-- Along a run that registers whole session key pairs, the token files are in order. -/
theorem run {host : Host} {disk : FileSystem} {inputs : List (Call × Oracle)}
    (whole : Runs.Along (HsmSimulator.step host) (SessionPairsWhole host) (.loaded disk) inputs) :
    TokenFiles (Runs.final (HsmSimulator.step host) (.loaded disk) inputs) := by
  have initial : TokenFiles (.loaded disk) := by
    constructor <;> simp [KeyFilesExist, UniqueRecords, State.loaded]
  have invariant := @Runs.invariant_along _ _ _ (HsmSimulator.step host) (SessionPairsWhole host)
    (fun state => WellFormed state ∧ TokenFiles state)
    (fun state input valid whole => ⟨valid.1.step input, valid.2.step valid.1 input whole⟩)
    (.loaded disk) inputs ⟨wellFormed_loaded disk, initial⟩ whole
  exact invariant.2

end TokenFiles

end HsmSimulator
