import HsmSimulator.Pkcs11.Handles

/-!
# What a creation may write

A call that creates a key leaves every file that existed as it is, and creates files
only in the key directories of the slot of its session, under a name that was made
safe.  Labels are made safe in a many-to-one way: a second key with the name of the
first is refused.
-/

namespace HsmSimulator

open Checks FileSystem

/-- Whatever file there was is still there with its content. -/
def KeepsFiles (before after : FileSystem) : Prop :=
  ∀ path bytes, before.content path = some bytes → after.content path = some bytes

namespace KeepsFiles

variable {before middle after : FileSystem}

theorem refl (disk : FileSystem) : KeepsFiles disk disk := fun _ _ stored => stored

theorem trans (first : KeepsFiles before middle) (second : KeepsFiles middle after) :
    KeepsFiles before after :=
  fun path bytes stored => second path bytes (first path bytes stored)

/-- A file that did not exist may be written. -/
theorem writeFile {path : Path} (keeps : KeepsFiles before after)
    (absent : before.content path = none) (bytes : Bytes) :
    KeepsFiles before (after.writeFile path bytes) := by
  intro other content stored
  have different : other ≠ path := by
    rintro rfl
    rw [absent] at stored
    contradiction
  rw [content_writeFile, if_neg different]
  exact keeps other content stored

/-- A file that did not exist may be removed. -/
theorem remove {path : Path} (keeps : KeepsFiles before after)
    (absent : before.content path = none) (oracle : Oracle) :
    KeepsFiles before (after.remove oracle path).1 := by
  intro other content stored
  have different : other ∉ [path] := by
    rw [List.mem_singleton]
    rintro rfl
    rw [absent] at stored
    contradiction
  rw [(remove_agrees after oracle path).content other different]
  exact keeps other content stored

end KeepsFiles

/-! ## The storing functions -/

theorem Saving.keepsFiles {oracle : Oracle} {disk : FileSystem} {path : Path}
    {content : Option Bytes} {result : FileSystem × Rv}
    (saving : Saving oracle disk path content result) :
    KeepsFiles disk result.1 ∧ (result.2 = .ok → disk.content path = none) := by
  cases saving with
  | refused failed => exact ⟨.refl disk, fun succeeded => (failed succeeded).elim⟩
  | broken opened _ failed _ =>
      exact ⟨(KeepsFiles.refl disk).writeFile (content_of_absent opened.absent) _,
        fun succeeded => (failed succeeded).elim⟩
  | saved opened _ _ =>
      have absent := content_of_absent opened.absent
      exact ⟨(KeepsFiles.refl disk).writeFile absent _, fun _ => absent⟩

/-- A metadata file or a temporary file that exists stops the publication. -/
theorem Metadata.create_keepsFiles (disk : FileSystem) (oracle : Oracle) (key : Path)
    (records : Metadata.Records) :
    KeepsFiles disk (Metadata.create disk oracle key records false).1 := by
  by_cases blocked : ((!false && (oracle.statFails (Metadata.path key) ||
      disk.hasPath (Metadata.path key))) || (oracle.statFails (Metadata.temporaryPath key) ||
      disk.hasPath (Metadata.temporaryPath key))) = true
  · rw [show Metadata.create disk oracle key records false = (disk, false) from if_pos blocked]
    exact .refl disk
  · rw [show Metadata.create disk oracle key records false =
      disk.publish oracle (Metadata.temporaryPath key) (Metadata.path key)
        (Metadata.encode records).bytes (Metadata.encode records).complete from if_neg blocked]
    simp only [Bool.not_false, Bool.true_and, Bool.or_eq_true, not_or, Bool.not_eq_true] at blocked
    rcases blocked with ⟨⟨_, fileFree⟩, _, temporaryFree⟩
    rcases publish_cases oracle (Metadata.path key) temporaryFree
        (Metadata.encode records).bytes (Metadata.encode records).complete with
      ⟨published, _⟩ | unchanged | ⟨left, leftover, _⟩
    · rw [published]
      exact (KeepsFiles.refl disk).writeFile (content_of_absent fileFree) _
    · rw [unchanged]
      exact .refl disk
    · rw [leftover]
      exact (KeepsFiles.refl disk).writeFile (content_of_absent temporaryFree) _

/-- The publication withdraws a key file only where the key file is new. -/
theorem publishKey_keepsFiles {before : FileSystem} {state : State} {path : Path}
    (keeps : KeepsFiles before state.disk) (absent : before.content path = none)
    (oracle : Oracle) (output : Output) :
    KeepsFiles before (publishKey state oracle path output).1.disk := by
  have created := keeps.trans (Metadata.create_keepsFiles state.disk oracle path
    (collectMetadata oracle state.objects path none))
  unfold publishKey persistMetadata
  generalize Metadata.create state.disk oracle path
    (collectMetadata oracle state.objects path none) false = result at created
  rcases result with ⟨disk, published⟩
  cases published with
  | true => exact created
  | false => exact created.remove absent oracle

theorem storeSecretKey_keepsFiles (oracle : Oracle) (state : State) (object : Object)
    (token : Bool) :
    KeepsFiles state.disk (storeSecretKey oracle state object token).1.disk := by
  unfold storeSecretKey
  cases token with
  | false => exact .refl state.disk
  | true =>
      have saving := (saveSecretKey_saving state.disk oracle object.path
        object.secretValue).keepsFiles
      rw [if_pos rfl]
      generalize saveSecretKey state.disk oracle object.path object.secretValue = result at saving
      rcases result with ⟨disk, code⟩
      cases code with
      | ok => exact publishKey_keepsFiles saving.1 (saving.2 rfl) oracle _
      | _ => exact saving.1

theorem disk_registerKeyPair (host : Host) (oracle : Oracle) (state : State) (slotId : Nat)
    (label : Bytes) (path : Path) (key : EvpKey) :
    (registerKeyPair host oracle state slotId label path key none).1.disk = state.disk := by
  unfold registerKeyPair
  split
  · rfl
  · cases publicKeyOnly oracle key <;> rfl

theorem finishKeyPair_keepsFiles {before : FileSystem} {state : State} {request : PairRequest}
    (keeps : KeepsFiles before state.disk)
    (absent : request.token = true → before.content request.path = none)
    (oracle : Oracle) (handle : Nat) (output : Output) :
    KeepsFiles before (finishKeyPair oracle state handle request output).1.disk := by
  unfold finishKeyPair
  split
  · exact keeps
  · split
    · exact keeps
    · dsimp only
      split
      · rename_i token
        refine publishKey_keepsFiles ?_ (absent token) oracle output
        exact keeps
      · exact keeps

theorem PairRequest.save_keepsFiles (oracle : Oracle) (state : State) (request : PairRequest) :
    KeepsFiles state.disk (request.save oracle state).1 ∧
      ((request.save oracle state).2 = .ok → request.token = true →
        state.disk.content request.path = none) := by
  unfold PairRequest.save
  split
  · have saving := (saveKeyPair_saving state.disk oracle request.slot request.path request.key
      request.label).keepsFiles
    exact ⟨saving.1, fun isOk _ => saving.2 isOk⟩
  · rename_i notToken
    exact ⟨.refl state.disk, fun _ token => (notToken token).elim⟩

theorem storeKeyPair_keepsFiles (host : Host) (oracle : Oracle) (state : State)
    (request : PairRequest) (output : Nat → Output) :
    KeepsFiles state.disk (storeKeyPair host oracle state request output).1.disk := by
  have saving := request.save_keepsFiles oracle state
  have registered {disk : FileSystem} {next : State} {complete : Bool}
      (saved : request.save oracle state = (disk, .ok))
      (registers : registerKeyPair host oracle { state with disk := disk } request.slot.id
        request.label request.path request.key none = (next, complete)) :
      KeepsFiles state.disk next.disk ∧
        (request.token = true → state.disk.content request.path = none) := by
    have sameDisk := disk_registerKeyPair host oracle { state with disk := disk }
      request.slot.id request.label request.path request.key
    rw [registers] at sameDisk
    rw [saved] at saving
    change next.disk = disk at sameDisk
    rw [sameDisk]
    exact ⟨saving.1, saving.2 rfl⟩
  refine @storeKeyPair_cases host oracle state request output
    (fun result => KeepsFiles state.disk result.1.disk) ?_ ?_ ?_
  · intro disk code saved _
    rw [saved] at saving
    exact saving.1
  · intro disk next saved registers
    exact (registered saved registers).1
  · intro disk next saved registers
    exact finishKeyPair_keepsFiles (registered saved registers).1 (registered saved registers).2
      oracle _ _

/-- No creating call touches a file that existed. -/
theorem service_keepsFiles (host : Host) (oracle : Oracle) (state : State) {call : Call}
    (creates : call.creates = true) :
    KeepsFiles state.disk (service host oracle state call).1.disk := by
  cases call with
  | generateKey =>
      simp only [service, generateKey]
      split
      · exact .refl _
      · split
        · exact .refl _
        · exact storeSecretKey_keepsFiles oracle state.takeHandle _ _
  | generateKeyPair =>
      simp only [service, generateKeyPair]
      split
      · exact .refl _
      · exact storeKeyPair_keepsFiles host oracle state _ _
  | unwrapKey =>
      simp only [service, unwrapKey]
      split
      · exact .refl _
      · split
        · split
          · exact .refl _
          · split
            · exact .refl _
            · exact storeSecretKey_keepsFiles oracle state.takeHandle _ _
        · split
          · exact .refl _
          · split
            · exact .refl _
            · exact storeKeyPair_keepsFiles host oracle state _ _
  | deriveKey =>
      simp only [service, deriveKey]
      split
      · exact .refl _
      · exact storeSecretKey_keepsFiles oracle state.takeHandle _ _
  | _ => contradiction

/-! ## Names -/

/-- The key goes by the label: a secret key by its own, a pair by that of its private key. -/
structure NewKey.Named (new : NewKey) (label : Bytes) : Prop where
  path : new.path = if new.key = none then symmetricKeyPath new.slot label
    else asymmetricKeyPath new.slot label
  labels : ∀ object ∈ new.objects, object.objectClass ≠ ckoPublicKey → object.label = label

/-- A file a creation may make in the directory of a slot: a key file, its metadata file or
the temporary file of that. -/
def CreatedName (directory path : Path) : Prop :=
  ∃ kind name extension suffix,
    (kind = symmetricDirectory ∧ extension = ascii ".key" ∨
      kind = asymmetricDirectory ∧ extension = ascii ".p12") ∧
    name ≠ [] ∧ (∀ c ∈ name, isFilenameChar c = true) ∧
    suffix ∈ [[], ascii ".meta", ascii ".meta.tmp"] ∧
    path = (directory.child kind).child (name ++ extension ++ suffix)

theorem safeFilename_chars (label : Bytes) : ∀ c ∈ safeFilename label, isFilenameChar c = true := by
  unfold safeFilename
  split
  · decide +kernel
  · intro c member
    rcases List.mem_map.mp member with ⟨original, _, rfl⟩
    split
    · assumption
    · decide

theorem NewKey.Named.createdName {new : NewKey} {label : Bytes} (named : new.Named label) :
    ∀ path ∈ new.files, CreatedName new.slot.directory path := by
  have nameOf {kind extension : Bytes}
      (pairs : kind = symmetricDirectory ∧ extension = ascii ".key" ∨
        kind = asymmetricDirectory ∧ extension = ascii ".p12")
      (keyFile : new.path =
        (new.slot.directory.child kind).child (safeFilename label ++ extension)) :
      ∀ path ∈ new.files, CreatedName new.slot.directory path := by
    intro path member
    have created (suffix : Bytes) (listed : suffix ∈ [[], ascii ".meta", ascii ".meta.tmp"])
        (isPath : path = (new.slot.directory.child kind).child
          (safeFilename label ++ extension ++ suffix)) :
        CreatedName new.slot.directory path :=
      ⟨kind, safeFilename label, extension, suffix, pairs, safeFilename_ne_nil label,
        safeFilename_chars label, listed, isPath⟩
    simp only [NewKey.files, List.mem_cons, List.not_mem_nil, or_false] at member
    rcases member with rfl | rfl | rfl
    · exact created [] (by simp) (by rw [keyFile, List.append_nil])
    · refine created (ascii ".meta") (by simp) ?_
      rw [keyFile, Metadata.path, Path.extend_child]
    · refine created (ascii ".meta.tmp") (by simp) ?_
      rw [keyFile, Metadata.temporaryPath, Metadata.path, Path.extend_child, Path.extend_child]
      simp [ascii]
  by_cases secret : new.key = none
  · exact nameOf (Or.inl ⟨rfl, rfl⟩) (named.path.trans (if_pos secret))
  · exact nameOf (Or.inr ⟨rfl, rfl⟩) (named.path.trans (if_neg secret))

theorem secretKey_named {slot : Slot} {object : Object} {label : Bytes}
    (path : object.path = symmetricKeyPath slot label) (sameLabel : object.label = label) :
    (secretKey slot object true).Named label := by
  constructor
  · simpa [secretKey] using path
  · intro stored member _
    rw [List.mem_singleton.mp member, sameLabel]

theorem PairRequest.newKey_named (host : Host) (oracle : Oracle) {call : Call}
    {sessionHandle handle : Nat} {slot : Slot} {token : Bool} {request : PairRequest}
    {output : Output} (made : request.MadeBy call sessionHandle slot token) :
    (request.newKey host oracle handle output).Named request.label := by
  constructor
  · rw [if_neg (by simp [PairRequest.newKey])]
    change request.path = asymmetricKeyPath request.slot request.label
    rw [made.path, made.sameSlot]
  · intro object member notPublic
    change object ∈ request.objects host oracle handle at member
    rcases request.objects_cases host oracle handle with none | ⟨id, publicKey, _, both⟩
    · rw [none] at member
      contradiction
    · rw [both] at member
      simp only [List.mem_cons, List.not_mem_nil, or_false] at member
      rcases member with rfl | rfl
      · rfl
      · exact (notPublic rfl).elim

section

variable {host : Host} {oracle : Oracle} {state : State}

theorem secretRequest_named {call : Call} {sessionHandle : Nat}
    (onSession : call.session? = some sessionHandle) {object : Object}
    (asked : call.secretRequest host oracle state = some (object, true)) :
    ∃ slot, state.sessionSlot sessionHandle = some slot ∧
      object.path = symmetricKeyPath slot object.label := by
  cases call with
  | generateKey handle mechanism attributes hasHandle =>
      cases onSession
      simp only [Call.secretRequest, Option.bind_eq_bind, Option.bind_eq_some_iff,
        toOption_eq_some_iff, Option.pure_def, Option.some.injEq, Prod.mk.injEq,
        decide_eq_true_eq] at asked
      rcases asked with ⟨length, lengthPasses, made, passes, rfl, token⟩
      rcases generatedKey_eq_ok (generatedKeyLength_eq_ok lengthPasses) passes with
        ⟨session, slot, label, id, path, value, guard, _, samePath, rfl⟩
      refine ⟨slot, guard.sessionSlot, ?_⟩
      change path = symmetricKeyPath slot label
      exact samePath.trans (if_neg (not_not.mpr token))
  | unwrapKey handle mechanism wrappingHandle input attributes hasHandle =>
      cases onSession
      simp only [Call.secretRequest, Option.bind_eq_bind, Option.bind_eq_some_iff] at asked
      rcases asked with ⟨raw, _, asked⟩
      split at asked
      · simp only [Option.bind_eq_some_iff, toOption_eq_some_iff, Option.pure_def,
          Option.some.injEq, Prod.mk.injEq, decide_eq_true_eq] at asked
        rcases asked with ⟨made, passes, rfl, token⟩
        rcases unwrappedSecret_eq_ok passes with ⟨session, slot, id, path, guard, samePath, rfl⟩
        refine ⟨slot, guard.sessionSlot, ?_⟩
        exact samePath.trans (if_neg (not_not.mpr token))
      · contradiction
  | deriveKey handle mechanism baseKey attributes hasHandle =>
      cases onSession
      simp only [Call.secretRequest, Option.bind_eq_bind, Option.bind_eq_some_iff,
        toOption_eq_some_iff, Option.pure_def, Option.some.injEq, Prod.mk.injEq] at asked
      rcases asked with ⟨⟨session, slot, value⟩, passes, rfl, token⟩
      refine ⟨slot, (derivation_eq_ok passes).1.sessionSlot, ?_⟩
      simp [derivedObject, token, secretObject]
  | _ => contradiction

/-- A call that asks for a pair asks for one under its label. -/
theorem pairRequest_madeBy {call : Call} {request : PairRequest} {output : Output}
    (asked : call.pairRequest host oracle state = some (request, output)) :
    ∃ sessionHandle slot token, request.MadeBy call sessionHandle slot token := by
  cases call with
  | generateKeyPair =>
      simp only [Call.pairRequest, Option.bind_eq_bind, Option.bind_eq_some_iff,
        toOption_eq_some_iff, Option.pure_def, Option.some.injEq, Prod.mk.injEq] at asked
      rcases asked with ⟨made, passes, rfl, rfl⟩
      rcases generatedPair_eq_ok passes with ⟨_, slot, token, _, made⟩
      exact ⟨_, slot, token, made⟩
  | unwrapKey handle mechanism wrappingHandle input attributes hasHandle =>
      simp only [Call.pairRequest, Option.bind_eq_bind, Option.bind_eq_some_iff] at asked
      rcases asked with ⟨raw, _, asked⟩
      split at asked
      · simp only [Option.bind_eq_some_iff, toOption_eq_some_iff, Option.pure_def,
          Option.some.injEq, Prod.mk.injEq] at asked
        rcases asked with ⟨made, passes, rfl, rfl⟩
        rcases unwrappedPair_eq_ok passes mechanism wrappingHandle input hasHandle with
          ⟨_, slot, token, _, made⟩
        exact ⟨_, slot, token, made⟩
      · contradiction
  | _ => simp [Call.pairRequest] at asked

/-- Every new token key goes by a label. -/
theorem Call.newKey_named {call : Call} {sessionHandle : Nat}
    (onSession : call.session? = some sessionHandle) {new : NewKey}
    (isNew : call.newKey host oracle state = some new) (token : new.token = true) :
    ∃ label, new.Named label := by
  unfold Call.newKey at isNew
  cases secret : call.secretRequest host oracle state with
  | some request =>
      rcases request with ⟨object, isToken⟩
      simp only [secret, onSession, Option.bind_some, Option.map_eq_some_iff] at isNew
      rcases isNew with ⟨slot, slotOfSession, rfl⟩
      change isToken = true at token
      subst token
      rcases secretRequest_named onSession secret with ⟨other, otherSlot, path⟩
      rw [slotOfSession] at otherSlot
      cases otherSlot
      exact ⟨object.label, secretKey_named path rfl⟩
  | none =>
      simp only [secret, Option.map_eq_some_iff] at isNew
      rcases isNew with ⟨⟨request, output⟩, pair, rfl⟩
      rcases pairRequest_madeBy pair with ⟨_, _, _, made⟩
      exact ⟨request.label, PairRequest.newKey_named host oracle made⟩

end

/-! ## One creation -/

/-- What a creating call may do to the files. -/
structure CreationContained (host : Host) (state : State) (input : Call × Oracle) : Prop where
  kept : KeepsFiles state.disk (step host state input).1.disk
  directories : (step host state input).1.disk.directories = state.disk.directories
  names : ∀ path,
    (step host state input).1.disk.content path ≠ state.disk.content path →
      ∃ sessionHandle session slot, input.1.session? = some sessionHandle ∧
        state.findSession sessionHandle = some session ∧
        state.findSlot session.slotId = some slot ∧ CreatedName slot.directory path

/-- The handle names a token object of the slot, and its key file is there. -/
structure KeyStored (state : State) (handle slotId : Nat) (path : Path) : Prop where
  object : ∃ object, state.objects.get? handle = some object ∧ object.ownerSession = 0 ∧
    object.slotId = slotId ∧ object.path = path
  file : ∃ bytes, state.disk.content path = some bytes

section

variable {host : Host} {oracle : Oracle} {state : State} {call : Call} {sessionHandle : Nat}
  {result : State × Response}

theorem CreationCall.files (ends : CreationCall host oracle state call sessionHandle result)
    (onSession : call.session? = some sessionHandle) :
    result.1.disk.directories = state.disk.directories ∧
      ∀ path, result.1.disk.content path ≠ state.disk.content path →
        ∃ session slot, state.findSession sessionHandle = some session ∧
          state.findSlot session.slotId = some slot ∧ CreatedName slot.directory path := by
  cases ends with
  | rejected _ _ => exact ⟨rfl, fun _ different => (different rfl).elim⟩
  | @performed session slot new _ isNew guard made creation =>
      rcases creation.agrees with ⟨agrees, noFiles⟩
      refine ⟨agrees.directories, ?_⟩
      intro path different
      cases token : new.token with
      | false =>
          rw [noFiles token] at different
          exact (different rfl).elim
      | true =>
          rcases Call.newKey_named onSession isNew token with ⟨label, named⟩
          have listed : path ∈ new.files := by
            by_contra outside
            exact different (agrees.content path outside)
          have created := named.createdName path listed
          rw [made.sameSlot] at created
          exact ⟨session, slot, guard.sessionFound, guard.slotFound, created⟩

/-- A key whose file exists is refused: nothing but the handle counter changes. -/
theorem CreationCall.refused (ends : CreationCall host oracle state call sessionHandle result)
    {new : NewKey} (isNew : call.newKey host oracle state = some new) (token : new.token = true)
    (there : state.disk.hasPath new.path = true) :
    result.2.rv ≠ .ok ∧ result.1.objects = state.objects ∧ result.1.disk = state.disk := by
  have notAbsent (absent : state.disk.hasPath new.path = false) : False := by
    rw [there] at absent
    contradiction
  cases ends with
  | rejected _ failed => exact ⟨failed, rfl, rfl⟩
  | performed asked _ _ creation =>
      rw [isNew] at asked
      cases asked
      cases creation with
      | refused _ failed => exact ⟨failed, rfl, rfl⟩
      | broken _ _ _ opened _ => exact (notAbsent opened.absent).elim
      | withdrawn _ _ absent _ _ => exact (notAbsent absent).elim
      | created _ _ _ _ opened _ _ _ _ _ => exact (notAbsent opened.absent).elim
      | kept notToken _ _ _ => simp [token] at notToken
      | half _ _ _ _ _ _ _ _ _ files =>
          rcases files with ⟨notToken, _⟩ | ⟨_, opened, _⟩
          · simp [token] at notToken
          · exact (notAbsent opened.absent).elim

/-- A token key that was created is stored. -/
theorem CreationCall.stored (wellFormed : WellFormed state)
    (ends : CreationCall host oracle state call sessionHandle result) {new : NewKey}
    (isNew : call.newKey host oracle state = some new) (token : new.token = true)
    (succeeded : result.2.rv = .ok) :
    ∀ object ∈ new.objects, KeyStored result.1 object.handle new.slot.id new.path := by
  cases ends with
  | rejected _ failed => exact (failed succeeded).elim
  | performed asked guard made creation =>
      rw [isNew] at asked
      cases asked
      cases creation with
      | refused _ failed => exact (failed succeeded).elim
      | broken _ _ failed _ _ => exact (failed succeeded).elim
      | withdrawn _ _ _ _ _ => contradiction
      | @created _ _ written _ _ _ _ _ _ _ _ _ _ _ =>
          intro object member
          rcases made.tokenObjects token object member with ⟨owner, path⟩
          have sameSlot : object.slotId = new.slot.id := by
            rw [made.slotIds object member, made.sameSlot, wellFormed.slotKey _ _ guard.slotFound]
          refine ⟨⟨object, ?_, owner, sameSlot, path⟩, ?_⟩
          · exact (get?_registerAll made.distinct _ _).mpr (Or.inl ⟨member, rfl⟩)
          · refine ⟨written, ?_⟩
            rw [content_writeFile, if_neg (Metadata.path_ne _).symm, content_writeFile, if_pos rfl]
      | kept notToken _ _ _ => simp [token] at notToken
      | half _ _ _ _ _ _ _ _ _ _ => contradiction

end

theorem Call.session_of_creates {call : Call} (creates : call.creates = true) :
    ∃ sessionHandle, call.session? = some sessionHandle := by
  cases call <;> first | exact ⟨_, rfl⟩ | contradiction

theorem step_keepsFiles (host : Host) (state : State) {call : Call} (oracle : Oracle)
    (creates : call.creates = true) :
    KeepsFiles state.disk (step host state (call, oracle)).1.disk := by
  unfold step
  split
  · exact .refl _
  · exact service_keepsFiles host oracle state creates

theorem WellFormed.creationContained {host : Host} {state : State} (wellFormed : WellFormed state)
    {input : Call × Oracle} (creates : input.1.creates = true) :
    CreationContained host state input := by
  rcases input with ⟨call, oracle⟩
  rcases Call.session_of_creates creates with ⟨sessionHandle, onSession⟩
  have ends : CreationCall host oracle state call sessionHandle
      (HsmSimulator.step host state (call, oracle)) :=
    step_creationCall wellFormed creates onSession oracle
  rcases ends.files onSession with ⟨directories, names⟩
  refine ⟨step_keepsFiles host state oracle creates, directories, ?_⟩
  intro path different
  rcases names path different with ⟨session, slot, sessionFound, slotFound, created⟩
  exact ⟨sessionHandle, session, slot, onSession, sessionFound, slotFound, created⟩

/-! ## Stored keys stay -/

/-- A key file goes with its objects only. -/
theorem keyFile_step {host : Host} {state : State} (wellFormed : WellFormed state)
    (input : Call × Oracle) {handle : Nat} {object : Object} {directory : Path} {bytes : Bytes}
    (keyPath : IsKeyPath directory object.path)
    (file : state.disk.content object.path = some bytes)
    (found : (step host state input).1.objects.get? handle = some object) :
    ∃ bytes, (step host state input).1.disk.content object.path = some bytes := by
  rcases input with ⟨call, oracle⟩
  cases creates : call.creates with
  | true => exact ⟨bytes, step_keepsFiles host state oracle creates object.path bytes file⟩
  | false =>
      have effect : TokenEffect host oracle state call (step host state (call, oracle)) :=
        step_token wellFormed call
      generalize step host state (call, oracle) = result at effect found ⊢
      cases effect with
      | kept _ sameDisk => exact ⟨bytes, by rw [sameDisk]; exact file⟩
      | pinWritten _ _ _ written =>
          rw [written]
          exact TokenFiles.content_writeFile_some file
      | altered _ _ _ _ => exact TokenFiles.content_writeFile_some file
      | metadataLeft _ _ _ => exact TokenFiles.content_writeFile_some file
      | @destroyed _ _ destroyed disk _ _ _ removed =>
          have otherPath := (OrderedMap.get?_eraseIf_eq_some_iff.mp found).2
          rw [decide_eq_false_iff_not] at otherPath
          have agrees : AgreesOutside [destroyed.path, Metadata.path destroyed.path] state.disk
              disk := keyFileRemoval_agrees removed (by simp) (by simp)
          refine ⟨bytes, ?_⟩
          rw [agrees.content object.path]
          · exact file
          · simp only [List.mem_cons, List.not_mem_nil, or_false, not_or]
            exact ⟨otherPath, keyPath.ne_metadata _⟩
      | creation isCreation _ _ _ _ _ =>
          rw [creates] at isCreation
          contradiction
      | finalized => contradiction
      | initializing _ initialization =>
          cases initialization with
          | failed _ _ objects _ _ _ _ _ =>
              rw [objects] at found
              contradiction
          | succeeded prepared _ loaded =>
              refine ⟨bytes, ?_⟩
              rw [loaded.prepared.content, prepared.content]
              exact file

/-- A stored key stays so as long as its handle is in use. -/
theorem KeyStored.step {host : Host} {state : State} (wellFormed : WellFormed state)
    {handle slotId : Nat} {path : Path} (stored : KeyStored state handle slotId path)
    (input : Call × Oracle)
    (inUse : (HsmSimulator.step host state input).1.objects.get? handle ≠ none) :
    KeyStored (HsmSimulator.step host state input).1 handle slotId path := by
  rcases stored with ⟨⟨object, found, token, sameSlot, rfl⟩, bytes, file⟩
  rcases Option.ne_none_iff_exists'.mp inUse with ⟨current, currentFound⟩
  have isOpen := wellFormed.initialized_of_object found
  have effect : Effect host input.2 state input.1 (HsmSimulator.step host state input) :=
    step_effect wellFormed input.1
  rcases (effect.objectsAdvance wellFormed isOpen).entered handle current currentFound with
    ⟨old, oldFound, same⟩ | fresh
  · rw [found] at oldFound
    cases oldFound
    have samePath := path_eq_of_core same.core
    rcases wellFormed.tokenObject handle object found token with ⟨_, _, slot, _, keyPath⟩
    rw [← samePath] at keyPath file ⊢
    refine ⟨⟨current, currentFound, ?_, ?_, rfl⟩,
      keyFile_step wellFormed input keyPath file currentFound⟩
    · exact (ownerSession_eq_of_core same.core).trans token
    · exact (slotId_eq_of_core same.core).trans sameSlot
  · rw [wellFormed.freshObject fresh] at found
    contradiction

/-- The handle stays in use along the run and to its end. -/
def InUse (host : Host) (state : State) (inputs : List (Call × Oracle)) (handle : Nat) : Prop :=
  Runs.Along (step host) (fun state _ => state.objects.get? handle ≠ none) state inputs ∧
    (Runs.final (step host) state inputs).objects.get? handle ≠ none

theorem KeyStored.run {host : Host} {state : State} (wellFormed : WellFormed state)
    {handle slotId : Nat} {path : Path} (stored : KeyStored state handle slotId path)
    {inputs : List (Call × Oracle)} (inUse : InUse host state inputs handle) :
    KeyStored (Runs.final (HsmSimulator.step host) state inputs) handle slotId path := by
  have preserved (current : State) (input : Call × Oracle)
      (holds : WellFormed current ∧
        (current.objects.get? handle ≠ none → KeyStored current handle slotId path))
      (used : current.objects.get? handle ≠ none) :
      WellFormed (HsmSimulator.step host current input).1 ∧
        ((HsmSimulator.step host current input).1.objects.get? handle ≠ none →
          KeyStored (HsmSimulator.step host current input).1 handle slotId path) :=
    ⟨holds.1.step input, (holds.2 used).step holds.1 input⟩
  exact (Runs.invariant_along preserved ⟨wellFormed, fun _ => stored⟩ inUse.1).2 inUse.2

/-! ## Colliding names -/

/-- The call fails, and no object and no file changes. -/
structure Refused (host : Host) (state : State) (input : Call × Oracle) : Prop where
  failed : (step host state input).2.rv ≠ .ok
  objects : (step host state input).1.objects = state.objects
  disk : (step host state input).1.disk = state.disk

/-- Two keys of one kind and one slot whose labels have the same safe name. -/
structure NamesCollide (first second : NewKey) : Prop where
  slot : second.slot.id = first.slot.id
  kind : second.key = none ↔ first.key = none
  names : ∃ label other, first.Named label ∧ second.Named other ∧
    safeFilename other = safeFilename label

theorem NamesCollide.path_eq {first second : NewKey} (collide : NamesCollide first second)
    (directory : second.slot.directory = first.slot.directory) : second.path = first.path := by
  rcases collide.names with ⟨label, other, named, otherNamed, same⟩
  rw [named.path, otherNamed.path]
  by_cases secret : first.key = none
  · rw [if_pos secret, if_pos (collide.kind.mpr secret), symmetricKeyPath, symmetricKeyPath, same,
      directory]
  · rw [if_neg secret, if_neg fun isSecret => secret (collide.kind.mp isSecret), asymmetricKeyPath,
      asymmetricKeyPath, same, directory]

theorem NewKey.Named.isKeyPath {new : NewKey} {label : Bytes} (named : new.Named label) :
    IsKeyPath new.slot.directory new.path := by
  rw [named.path]
  split
  · exact isKeyPath_symmetric new.slot label
  · exact isKeyPath_asymmetric new.slot label

/-- A key whose name collides with that of a stored one is refused. -/
theorem KeyStored.refuses {host : Host} {state : State} (wellFormed : WellFormed state)
    {handle : Nat} {new newer : NewKey} (stored : KeyStored state handle new.slot.id new.path)
    {input : Call × Oracle} (creates : input.1.creates = true)
    (isNew : input.1.newKey host input.2 state = some newer) (token : newer.token = true)
    (collide : NamesCollide new newer) : Refused host state input := by
  rcases input with ⟨call, oracle⟩
  rcases Call.session_of_creates creates with ⟨sessionHandle, onSession⟩
  have ends : CreationCall host oracle state call sessionHandle
      (HsmSimulator.step host state (call, oracle)) :=
    step_creationCall wellFormed creates onSession oracle
  have refused : (HsmSimulator.step host state (call, oracle)).2.rv ≠ .ok ∧
      (HsmSimulator.step host state (call, oracle)).1.objects = state.objects ∧
        (HsmSimulator.step host state (call, oracle)).1.disk = state.disk := by
    generalize HsmSimulator.step host state (call, oracle) = result at ends ⊢
    cases ends with
    | rejected _ failed => exact ⟨failed, rfl, rfl⟩
    | @performed session slot other _ asked guard made creation =>
        rw [isNew] at asked
        cases asked
        rcases stored with ⟨⟨object, found, owner, sameSlot, samePath⟩, bytes, file⟩
        rcases wellFormed.tokenObject handle object found owner with
          ⟨_, _, home, homeFound, keyPath⟩
        have newerSlot : newer.slot = home := by
          have slotKey := wellFormed.slotKey _ _ guard.slotFound
          have slotFound := guard.slotFound
          rw [← slotKey, ← made.sameSlot, collide.slot, ← sameSlot, homeFound] at slotFound
          exact (Option.some.inj slotFound).symm
        have directory : newer.slot.directory = new.slot.directory := by
          rcases collide.names with ⟨label, _, named, _, _⟩
          rw [samePath] at keyPath
          rw [newerSlot]
          exact keyPath.directory_eq named.isKeyPath
        have there : state.disk.hasPath newer.path = true := by
          rw [collide.path_eq directory]
          rw [FileSystem.content] at file
          simp [FileSystem.hasPath, file]
        exact (CreationCall.performed isNew guard made creation).refused isNew token there
  exact ⟨refused.1, refused.2.1, refused.2.2⟩

/-- Where a key of the kind and the slot is stored under a label, whether it was created or
loaded, a new key whose label has the same safe name is refused. -/
theorem KeyStored.refuses_label {host : Host} {state : State} (wellFormed : WellFormed state)
    {handle slotId : Nat} {newer : NewKey} {label other : Bytes}
    (stored : KeyStored state handle slotId (if newer.key = none then
      symmetricKeyPath newer.slot label else asymmetricKeyPath newer.slot label))
    {input : Call × Oracle} (creates : input.1.creates = true)
    (isNew : input.1.newKey host input.2 state = some newer) (token : newer.token = true)
    (named : newer.Named other) (same : safeFilename other = safeFilename label) :
    Refused host state input := by
  rcases input with ⟨call, oracle⟩
  rcases Call.session_of_creates creates with ⟨sessionHandle, onSession⟩
  have ends : CreationCall host oracle state call sessionHandle
      (HsmSimulator.step host state (call, oracle)) :=
    step_creationCall wellFormed creates onSession oracle
  have samePath : newer.path = if newer.key = none then symmetricKeyPath newer.slot label
      else asymmetricKeyPath newer.slot label := by
    rw [named.path, symmetricKeyPath, symmetricKeyPath, asymmetricKeyPath, asymmetricKeyPath, same]
  have there : state.disk.hasPath newer.path = true := by
    rcases stored.file with ⟨bytes, file⟩
    rw [← samePath, FileSystem.content] at file
    simp [FileSystem.hasPath, file]
  rcases ends.refused isNew token there with ⟨failed, objects, disk⟩
  exact ⟨failed, objects, disk⟩

/-- A creating call leaves existing files alone and creates files in the key directories of
its slot only; as long as a key that was created is stored, no key of its kind and slot with a
colliding name is; and neither is one beside a key that was loaded. -/
theorem creation_contained (host : Host) (state : State) (reachable : Reachable host state)
    (disk : FileSystem) :
    (∀ input, input.1.creates = true →
      CreationContained host { state with disk := disk } input) ∧
    (∀ (first : Call × Oracle) (between : List (Call × Oracle)) (second : Call × Oracle)
      (new newer : NewKey) (object : Object), first.1.creates = true →
      first.1.newKey host first.2 { state with disk := disk } = some new → new.token = true →
      (step host { state with disk := disk } first).2.rv = .ok → object ∈ new.objects →
      InUse host (step host { state with disk := disk } first).1 between object.handle →
      second.1.creates = true →
      second.1.newKey host second.2 (Runs.final (step host)
        (step host { state with disk := disk } first).1 between) = some newer →
      newer.token = true → NamesCollide new newer →
      KeyStored (Runs.final (step host) (step host { state with disk := disk } first).1 between)
          object.handle new.slot.id new.path ∧
        Refused host (Runs.final (step host) (step host { state with disk := disk } first).1
          between) second) ∧
    ∀ (handle : Nat) (label other : Bytes) (input : Call × Oracle) (newer : NewKey),
      input.1.creates = true →
      input.1.newKey host input.2 { state with disk := disk } = some newer →
      newer.token = true → newer.Named other → safeFilename other = safeFilename label →
      KeyStored { state with disk := disk } handle newer.slot.id (if newer.key = none then
        symmetricKeyPath newer.slot label else asymmetricKeyPath newer.slot label) →
      Refused host { state with disk := disk } input := by
  have wellFormed : WellFormed { state with disk := disk } := reachable.wellFormed.withDisk disk
  refine ⟨?_, ?_, ?_⟩
  · intro input creates
    exact wellFormed.creationContained creates
  · intro first between second new newer object creates isNew token succeeded member inUse
      secondCreates isNewer newerToken collide
    rcases first with ⟨call, oracle⟩
    rcases Call.session_of_creates creates with ⟨sessionHandle, onSession⟩
    have ends : CreationCall host oracle { state with disk := disk } call sessionHandle
        (step host { state with disk := disk } (call, oracle)) :=
      step_creationCall wellFormed creates onSession oracle
    have after : WellFormed (step host { state with disk := disk } (call, oracle)).1 :=
      wellFormed.step (call, oracle)
    have later : WellFormed (Runs.final (step host)
        (step host { state with disk := disk } (call, oracle)).1 between) :=
      @Runs.invariant_run _ _ _ (step host) WellFormed (fun _ input valid => valid.step input) _
        after between
    have stored := (ends.stored wellFormed isNew token succeeded object member).run after inUse
    exact ⟨stored, stored.refuses later secondCreates isNewer newerToken collide⟩
  · intro handle label other input newer creates isNewer newerToken named same stored
    exact stored.refuses_label wellFormed creates isNewer newerToken named same

/-- An AES key of the token under a label. -/
def labelledKey (sessionHandle : Nat) (label : Bytes) : Call :=
  .generateKey sessionHandle (some ⟨ckmAesKeyGen, .null 0⟩)
    (.entries [⟨ckaLabel, .bytes label⟩]) true

/-- Two labels whose safe name is an underscore: the second key is refused. -/
theorem creation_contained_labels :
    Refused .plain (step .plain plainSession (labelledKey 1 [47], .plain)).1
      (labelledKey 1 [46], .plain) := by
  have first : ∃ new, (labelledKey 1 [47]).newKey .plain .plain plainSession = some new ∧
      new.token = true ∧ new.key = none ∧ new.slot.id = 1 ∧
      new.path = symmetricKeyPath new.slot [47] ∧
      ∃ object ∈ new.objects, object.handle = 1 ∧ ∀ other ∈ new.objects, other.label = [47] := by
    decide
  have second : ∃ new, (labelledKey 1 [46]).newKey .plain .plain
      (step .plain plainSession (labelledKey 1 [47], .plain)).1 = some new ∧
      new.token = true ∧ new.key = none ∧ new.slot.id = 1 ∧
      new.path = symmetricKeyPath new.slot [46] ∧ ∀ other ∈ new.objects, other.label = [46] := by
    decide
  rcases first with ⟨new, isNew, token, secret, slot, path, object, member, handle, labels⟩
  rcases second with ⟨newer, isNewer, newerToken, newerSecret, newerSlot, newerPath, newerLabels⟩
  have collide : NamesCollide new newer := by
    refine ⟨by rw [slot, newerSlot], by simp [secret, newerSecret], [47], [46], ?_, ?_, by decide⟩
    · exact ⟨by rw [if_pos secret, path], fun other listed _ => labels other listed⟩
    · exact ⟨by rw [if_pos newerSecret, newerPath], fun other listed _ => newerLabels other listed⟩
  have inUse : InUse .plain (step .plain plainSession (labelledKey 1 [47], .plain)).1 []
      object.handle := by
    rw [handle]
    exact ⟨trivial, by decide⟩
  exact ((creation_contained .plain plainSession ⟨_, _, rfl⟩ plainSession.disk).2.1
    (labelledKey 1 [47], .plain) [] (labelledKey 1 [46], .plain) new newer object rfl isNew token
    (by decide) member inUse rfl isNewer newerToken collide).2

end HsmSimulator
