import HsmSimulator.Core.Paths
import HsmSimulator.Crypto.KeyGeneration
import HsmSimulator.Storage.Codec
import HsmSimulator.Storage.Loading

/-!
# What the creating operations leave behind

Every creation ends in one of a few ways: it is refused, the key file is broken off,
the metadata is not published and the key is withdrawn, the key is created, or only
half of a pair is registered.  The two storing functions are shown to end in one of
them; the operations are instances.
-/

namespace HsmSimulator

open FileSystem

/-! ## Saving a key file -/

/-- The stream of a key file is opened: the key has an encoding and its path is free. -/
structure StreamOpened (oracle : Oracle) (disk : FileSystem) (path : Path)
    (content : Option Bytes) : Prop where
  stat : oracle.statFails path = false
  absent : disk.hasPath path = false
  encoded : content ≠ none
  opens : oracle.writeResult path ≠ .openFails

/-- How saving a key file ends.  `content` is the encoding of the key, where there is
one. -/
inductive Saving (oracle : Oracle) (disk : FileSystem) (path : Path) (content : Option Bytes) :
    FileSystem × Rv → Prop
  | refused {code : Rv} : code ≠ .ok → Saving oracle disk path content (disk, code)
  /-- The stream failed, and the code noticed. -/
  | broken {full : Bytes} {kept : Nat} {code : Rv} : StreamOpened oracle disk path content →
      content = some full → code ≠ .ok →
      (oracle.writeResult path = .failsAtWrite kept ∨
        oracle.writeResult path = .failsAtClose kept) →
      Saving oracle disk path content (disk.writeFile path (full.take kept), code)
  /-- The code saw no error; the stream may still have failed when it was closed. -/
  | saved {full stored : Bytes} : StreamOpened oracle disk path content → content = some full →
      (oracle.writeResult path = .complete ∧ stored = full ∨
        ∃ kept, oracle.writeResult path = .failsAtClose kept ∧ stored = full.take kept) →
      Saving oracle disk path content (disk.writeFile path stored, .ok)

theorem saveSecretKey_saving (disk : FileSystem) (oracle : Oracle) (path : Path)
    (secretValue : Bytes) :
    Saving oracle disk path (some (encodeHex secretValue ++ [10]))
      (saveSecretKey disk oracle path secretValue) := by
  unfold saveSecretKey
  split
  · exact .refused (by decide)
  · rename_i stat
    rw [Bool.not_eq_true] at stat
    split
    · exact .refused (by decide)
    · rename_i absent
      rw [Bool.not_eq_true] at absent
      cases result : oracle.writeResult path with
      | openFails => exact .refused (by simp [streamResult])
      | failsAtWrite kept =>
          exact .broken ⟨stat, absent, by simp, by simp [result]⟩ rfl (by simp [streamResult])
            (Or.inl result)
      | failsAtClose kept =>
          exact .saved ⟨stat, absent, by simp, by simp [result]⟩ rfl (Or.inr ⟨kept, result, rfl⟩)
      | complete =>
          exact .saved ⟨stat, absent, by simp, by simp [result]⟩ rfl (Or.inl ⟨result, rfl⟩)

/-- The container of a key pair, where OpenSSL makes one. -/
def pairContent (oracle : Oracle) (slot : Slot) (label : Bytes) (key : EvpKey) : Option Bytes :=
  (oracle.createPkcs12 (cString slot.p12Password) (cString label) key).filter (· ≠ [])

theorem saveKeyPair_saving (disk : FileSystem) (oracle : Oracle) (slot : Slot) (path : Path)
    (key : EvpKey) (label : Bytes) :
    Saving oracle disk path (pairContent oracle slot label key)
      (saveKeyPair disk oracle slot path key label) := by
  unfold saveKeyPair
  split
  · exact .refused (by decide)
  · rename_i stat
    rw [Bool.not_eq_true] at stat
    split
    · exact .refused (by decide)
    · rename_i absent
      rw [Bool.not_eq_true] at absent
      split
      · exact .refused (by decide)
      · rename_i der container
        split
        · exact .refused (by decide)
        · rename_i nonempty
          have content : pairContent oracle slot label key = some der := by
            simp [pairContent, container, nonempty]
          cases result : oracle.writeResult path with
          | openFails => exact .refused (by simp [streamResult])
          | failsAtWrite kept =>
              exact .broken ⟨stat, absent, by simp [content], by simp [result]⟩ content
                (by simp [streamResult]) (Or.inl result)
          | failsAtClose kept =>
              exact .broken ⟨stat, absent, by simp [content], by simp [result]⟩ content
                (by simp [streamResult]) (Or.inr result)
          | complete =>
              exact .saved ⟨stat, absent, by simp [content], by simp [result]⟩ content
                (Or.inl ⟨result, rfl⟩)

/-! ## Outcomes of a creation -/

/-- Register the listed objects under their handles. -/
def registerAll (objects : OrderedMap Nat Object) (news : List Object) : OrderedMap Nat Object :=
  objects.insertAll (news.map fun object => (object.handle, object))

/-- A key to create: where it is stored, its encoding where there is one, the objects it
is for, and what is returned for it.  `key` is the key of a pair. -/
structure NewKey where
  slot : Slot
  path : Path
  token : Bool
  content : Option Bytes
  key : Option EvpKey
  objects : List Object
  output : Output

/-- How a creation ends. -/
inductive Creation (host : Host) (oracle : Oracle) (state : State) (new : NewKey) :
    State × Response → Prop
  | refused {next : Nat} {code : Rv} : state.nextObjectHandle ≤ next → code ≠ .ok →
      Creation host oracle state new ({ state with nextObjectHandle := next }, .plain code)
  /-- The key file stays without an object: its stream failed, or its name has no
  digest. -/
  | broken {next : Nat} {stored : Bytes} {code : Rv} : new.token = true →
      state.nextObjectHandle ≤ next → code ≠ .ok →
      StreamOpened oracle state.disk new.path new.content →
      ((∃ kept, oracle.writeResult new.path = .failsAtWrite kept ∨
          oracle.writeResult new.path = .failsAtClose kept) ∨
        new.key ≠ none ∧ objectIdForFilename host new.path.filename = none) →
      Creation host oracle state new
        ({ state with nextObjectHandle := next, disk := state.disk.writeFile new.path stored },
          .plain code)
  /-- The metadata was not published. -/
  | withdrawn {next : Nat} {disk : FileSystem} : new.token = true →
      state.nextObjectHandle ≤ next → state.disk.hasPath new.path = false →
      AgreesOutside [new.path, Metadata.temporaryPath new.path] state.disk disk →
      ((∀ file, oracle.removeFails file = false) → disk = state.disk) →
      Creation host oracle state new
        ({ state with
            nextObjectHandle := next
            objects := state.objects.eraseIf fun _ object => object.path = new.path
            disk := disk },
          .plain .deviceError)
  | created {next : Nat} {full stored : Bytes} {records : Metadata.Records} :
      new.token = true → new.objects ≠ [] →
      (∀ object ∈ new.objects, state.nextObjectHandle ≤ object.handle ∧ object.handle < next) →
      state.nextObjectHandle ≤ next →
      StreamOpened oracle state.disk new.path new.content →
      state.disk.content (Metadata.path new.path) = none →
      new.content = some full →
      (oracle.writeResult new.path = .complete ∧ stored = full ∨
        ∃ kept, oracle.writeResult new.path = .failsAtClose kept ∧ stored = full.take kept) →
      records = collectMetadata oracle (registerAll state.objects new.objects) new.path none →
      (Metadata.encode records).complete = true →
      Creation host oracle state new
        ({ state with
            nextObjectHandle := next
            objects := registerAll state.objects new.objects
            disk := (state.disk.writeFile new.path stored).writeFile (Metadata.path new.path)
              (Metadata.encode records).bytes },
          .success new.output)
  /-- Session objects have no files. -/
  | kept {next : Nat} : new.token = false → new.objects ≠ [] →
      (∀ object ∈ new.objects, state.nextObjectHandle ≤ object.handle ∧ object.handle < next) →
      state.nextObjectHandle ≤ next →
      Creation host oracle state new
        ({ state with
            nextObjectHandle := next
            objects := registerAll state.objects new.objects },
          .success new.output)
  /-- OpenSSL gave no public half: the private object stays as it was registered. -/
  | half {privateKey : EvpKey} {object : Object} {disk : FileSystem} :
      new.key = some privateKey → objectIdForFilename host new.path.filename ≠ none →
      publicKeyOnly oracle privateKey = none →
      object.handle = state.nextObjectHandle → object.ownerSession = 0 →
      object.path = new.path → object.objectClass = ckoPrivateKey →
      object.slotId = new.slot.id → object.policy = ∅ →
      (new.token = false ∧ disk = state.disk ∨ new.token = true ∧
        StreamOpened oracle state.disk new.path new.content ∧
        ∃ stored, disk = state.disk.writeFile new.path stored) →
      Creation host oracle state new
        ({ state with
            nextObjectHandle := state.nextObjectHandle + 1
            objects := state.objects.insert object.handle object
            disk := disk },
          .plain Exception.other.code)

/-- The files of a new key. -/
def NewKey.files (new : NewKey) : List Path :=
  [new.path, Metadata.path new.path, Metadata.temporaryPath new.path]

/-- A creation touches the files of the new key, and none for a session object. -/
theorem Creation.agrees {host : Host} {oracle : Oracle} {state : State} {new : NewKey}
    {result : State × Response} (creation : Creation host oracle state new result) :
    AgreesOutside new.files state.disk result.1.disk ∧
      (new.token = false → result.1.disk = state.disk) := by
  have key : new.path ∈ new.files := by simp [NewKey.files]
  have metadata : Metadata.path new.path ∈ new.files := by simp [NewKey.files]
  cases creation with
  | refused _ _ => exact ⟨.refl _ _, fun _ => rfl⟩
  | broken token _ _ _ _ =>
      exact ⟨(AgreesOutside.refl _ _).writeFile key _, fun notToken => by simp [token] at notToken⟩
  | withdrawn token _ _ agrees _ =>
      exact ⟨agrees.mono (by simp [NewKey.files]), fun notToken => by simp [token] at notToken⟩
  | created token _ _ _ _ _ _ _ _ _ =>
      exact ⟨((AgreesOutside.refl _ _).writeFile key _).writeFile metadata _,
        fun notToken => by simp [token] at notToken⟩
  | kept _ _ _ _ => exact ⟨.refl _ _, fun _ => rfl⟩
  | half _ _ _ _ _ _ _ _ _ files =>
      rcases files with ⟨_, rfl⟩ | ⟨token, _, stored, rfl⟩
      · exact ⟨.refl _ _, fun _ => rfl⟩
      · exact ⟨(AgreesOutside.refl _ _).writeFile key _,
          fun notToken => by simp [token] at notToken⟩

theorem eraseIf_registerAll (objects : OrderedMap Nat Object) {news : List Object} {path : Path}
    (distinct : (news.map Object.handle).Nodup)
    (fresh : ∀ object ∈ news, objects.get? object.handle = none)
    (samePath : ∀ object ∈ news, object.path = path) :
    (registerAll objects news).eraseIf (fun _ object => object.path = path) =
      objects.eraseIf fun _ object => object.path = path := by
  have keys : ((news.map fun object => (object.handle, object)).map Prod.fst).Nodup := by
    simpa [List.map_map, Function.comp_def] using distinct
  apply OrderedMap.ext_get?
  intro handle
  ext object
  rw [OrderedMap.get?_eraseIf_eq_some_iff, OrderedMap.get?_eraseIf_eq_some_iff, registerAll,
    OrderedMap.get?_insertAll keys]
  constructor
  · rintro ⟨isNew | ⟨_, old⟩, otherPath⟩
    · simp only [List.mem_map, Prod.mk.injEq] at isNew
      rcases isNew with ⟨stored, member, rfl, rfl⟩
      simp [samePath stored member] at otherPath
    · exact ⟨old, otherPath⟩
  · rintro ⟨old, otherPath⟩
    refine ⟨Or.inr ⟨?_, old⟩, otherPath⟩
    intro isNew
    simp only [List.map_map, List.mem_map, Function.comp_def] at isNew
    rcases isNew with ⟨stored, member, rfl⟩
    rw [fresh stored member] at old
    contradiction

/-- Publishing the metadata of a key whose file was just written and whose objects were
just registered creates the key or withdraws it. -/
theorem publishKey_creation {host : Host} {oracle : Oracle} {state : State} (new : NewKey)
    {next : Nat} {full stored : Bytes} (fresh : state.FreshHandles) (token : new.token = true)
    (nonempty : new.objects ≠ [])
    (handles : ∀ object ∈ new.objects,
      state.nextObjectHandle ≤ object.handle ∧ object.handle < next)
    (advanced : state.nextObjectHandle ≤ next)
    (distinct : (new.objects.map Object.handle).Nodup)
    (samePath : ∀ object ∈ new.objects, object.path = new.path)
    (opened : StreamOpened oracle state.disk new.path new.content)
    (encoding : new.content = some full)
    (saved : oracle.writeResult new.path = .complete ∧ stored = full ∨
      ∃ kept, oracle.writeResult new.path = .failsAtClose kept ∧ stored = full.take kept) :
    Creation host oracle state new
      (publishKey
        { state with
          nextObjectHandle := next
          objects := registerAll state.objects new.objects
          disk := state.disk.writeFile new.path stored } oracle new.path new.output) := by
  have fileAbsent := content_of_absent opened.absent
  have erased := eraseIf_registerAll state.objects distinct
    (fun object member => fresh _ (handles object member).1) samePath
  have removed (disk : FileSystem)
      (agrees : AgreesOutside [new.path, Metadata.temporaryPath new.path] state.disk disk) :
      AgreesOutside [new.path, Metadata.temporaryPath new.path] state.disk
        (disk.remove oracle new.path).1 :=
    agrees.trans ((remove_agrees disk oracle new.path).mono (by simp))
  have written : AgreesOutside [new.path, Metadata.temporaryPath new.path] state.disk
      (state.disk.writeFile new.path stored) :=
    (AgreesOutside.refl _ _).writeFile (by simp) stored
  unfold publishKey persistMetadata
  rcases Metadata.create_cases (state.disk.writeFile new.path stored) oracle new.path
      (collectMetadata oracle (registerAll state.objects new.objects) new.path none) false with
    ⟨published, complete, metadataAbsent, _⟩ | unchanged | ⟨left, leftover, stuck⟩
  · rw [published]
    have metadataFree := content_of_absent (metadataAbsent rfl)
    rw [content_writeFile, if_neg (Metadata.path_ne new.path)] at metadataFree
    exact .created token nonempty handles advanced opened metadataFree encoding saved rfl complete
  · rw [unchanged]
    simp only [Bool.false_eq_true, if_false, erased]
    refine .withdrawn token advanced opened.absent (removed _ written) ?_
    intro removes
    simp [FileSystem.remove, removes, removeFile_writeFile fileAbsent]
  · rw [leftover]
    simp only [Bool.false_eq_true, if_false, erased]
    refine .withdrawn token advanced opened.absent (removed _ (written.writeFile (by simp) left)) ?_
    intro removes
    rw [removes] at stuck
    contradiction

/-! ## Secret keys -/

/-- The key a secret object is stored as. -/
def secretKey (slot : Slot) (object : Object) (token : Bool) : NewKey where
  slot := slot
  path := object.path
  token := token
  content := some (encodeHex object.secretValue ++ [10])
  key := none
  objects := [object]
  output := .handle object.handle

theorem storeSecretKey_creation {host : Host} {oracle : Oracle} {state : State} {slot : Slot}
    {object : Object} {token : Bool} (fresh : state.FreshHandles)
    (handle : object.handle = state.nextObjectHandle) :
    Creation host oracle state (secretKey slot object token)
      (storeSecretKey oracle state.takeHandle object token) := by
  have advanced : state.nextObjectHandle ≤ state.nextObjectHandle + 1 := Nat.le_succ _
  have handles : ∀ new ∈ (secretKey slot object token).objects,
      state.nextObjectHandle ≤ new.handle ∧ new.handle < state.nextObjectHandle + 1 := by
    intro new member
    rw [List.mem_singleton.mp member, handle]
    exact ⟨Nat.le_refl _, Nat.lt_succ_self _⟩
  have registered : state.objects.emplace object.handle object =
      registerAll state.objects (secretKey slot object token).objects :=
    OrderedMap.emplace_of_fresh (fresh _ handle.ge) object
  cases token with
  | false =>
      have result : storeSecretKey oracle state.takeHandle object false =
          ({ state with
              nextObjectHandle := state.nextObjectHandle + 1
              objects := state.objects.emplace object.handle object },
            .success (.handle object.handle)) := rfl
      rw [result, registered]
      exact .kept rfl (by simp [secretKey]) handles advanced
  | true =>
      have saving := saveSecretKey_saving state.disk oracle object.path object.secretValue
      unfold storeSecretKey
      simp only [State.takeHandle, if_true]
      cases saved : saveSecretKey state.disk oracle object.path object.secretValue with
      | mk disk code =>
          rw [saved] at saving
          cases saving with
          | refused failed => simpa using Creation.refused advanced failed
          | broken opened content failed result =>
              cases code with
              | ok => contradiction
              | _ => exact .broken rfl advanced failed opened (Or.inl ⟨_, result⟩)
          | saved opened content result =>
              simp only [registered]
              exact publishKey_creation (secretKey slot object true) fresh rfl (by simp [secretKey])
                handles
                advanced
                (by simp [secretKey]) (by simp [secretKey]) opened content result

/-! ## Key pairs -/

/-- The objects a key pair ends up as, where both halves are registered. -/
def PairRequest.objects (host : Host) (oracle : Oracle) (handle : Nat) (request : PairRequest) :
    List Object :=
  match objectIdForFilename host request.path.filename, publicKeyOnly oracle request.key with
  | some id, some publicKey =>
      [request.patchPrivate id
        { pairPrivateObject host request.slot.id request.label id request.path request.key with
          handle := handle },
       request.patchPublic id
        { pairPublicObject host request.slot.id request.label id request.path request.key
            publicKey with
          handle := handle + 1 }]
  | _, _ => []

/-- The key a pair is stored as. -/
def PairRequest.newKey (host : Host) (oracle : Oracle) (handle : Nat) (request : PairRequest)
    (output : Output) : NewKey where
  slot := request.slot
  path := request.path
  token := request.token
  content := pairContent oracle request.slot request.label request.key
  key := some request.key
  objects := request.objects host oracle handle
  output := output

/-- Registering two objects and patching them is registering the patched ones. -/
theorem insert_emplace_pair {objects : OrderedMap Nat Object} {handle : Nat}
    (first second patchedFirst patchedSecond : Object) :
    ((((objects.emplace handle first).emplace (handle + 1) second).insert handle
        patchedFirst).insert (handle + 1) patchedSecond) =
      (objects.insert handle patchedFirst).insert (handle + 1) patchedSecond := by
  apply OrderedMap.ext_get?
  intro other
  simp only [OrderedMap.get?_insert, OrderedMap.get?_emplace]
  split
  · rfl
  · split
    · rfl
    · rfl

/-- Without a public object the completion fails and leaves the private one. -/
theorem finishKeyPair_missing {oracle : Oracle} {state : State} {handle : Nat}
    {request : PairRequest} {output : Output} (privateObject : Object)
    (found : state.objects.get? handle = some privateObject)
    (missing : state.objects.get? (handle + 1) = none) :
    finishKeyPair oracle state handle request output =
      ({ state with
          objects := state.objects.insert handle
            { privateObject with id := request.privateId privateObject.id } },
        .plain Exception.other.code) := by
  simp [finishKeyPair, found, missing]

theorem finishKeyPair_found {oracle : Oracle} {state : State} {handle : Nat}
    {request : PairRequest} {output : Output} (privateObject publicObject : Object)
    (found : state.objects.get? handle = some privateObject)
    (foundPublic : state.objects.get? (handle + 1) = some publicObject) :
    finishKeyPair oracle state handle request output =
      let patched := { state with
        objects := (state.objects.insert handle
          (request.patchPrivate privateObject.id privateObject)).insert (handle + 1)
            (request.patchPublic privateObject.id publicObject) }
      if request.token then publishKey patched oracle request.path output
      else (patched, .success output) := by
  simp [finishKeyPair, found, foundPublic]

/-- The key file a pair registration starts from: none for a session pair, the one that
was just saved for a token pair. -/
inductive PairFile (oracle : Oracle) (disk : FileSystem) (request : PairRequest) :
    FileSystem → Prop
  | session : request.token = false → PairFile oracle disk request disk
  | token {full stored : Bytes} : request.token = true →
      StreamOpened oracle disk request.path
        (pairContent oracle request.slot request.label request.key) →
      pairContent oracle request.slot request.label request.key = some full →
      (oracle.writeResult request.path = .complete ∧ stored = full ∨
        ∃ kept, oracle.writeResult request.path = .failsAtClose kept ∧ stored = full.take kept) →
      PairFile oracle disk request (disk.writeFile request.path stored)

theorem finishKeyPair_creation {host : Host} {oracle : Oracle} {state : State} {id : Bytes}
    {request : PairRequest} (output : Output) {disk : FileSystem} (fresh : state.FreshHandles)
    (digest : objectIdForFilename host request.path.filename = some id)
    (file : PairFile oracle state.disk request disk) :
    Creation host oracle state (request.newKey host oracle state.nextObjectHandle output)
      (finishKeyPair oracle
        (registerKeyPair host oracle { state with disk := disk } request.slot.id request.label
          request.path request.key none).1 state.nextObjectHandle request output) := by
  have freshHere := fresh state.nextObjectHandle (Nat.le_refl _)
  have freshNext := fresh (state.nextObjectHandle + 1) (Nat.le_succ _)
  have twoLater : state.nextObjectHandle ≤ state.nextObjectHandle + 1 + 1 :=
    Nat.le_add_right _ 2
  let privateObject : Object :=
    { pairPrivateObject host request.slot.id request.label id request.path request.key with
      handle := state.nextObjectHandle }
  cases half : publicKeyOnly oracle request.key with
  | none =>
      have registered : (registerKeyPair host oracle { state with disk := disk } request.slot.id
          request.label request.path request.key none).1 =
            { state with
              disk := disk
              nextObjectHandle := state.nextObjectHandle + 1
              objects := state.objects.emplace state.nextObjectHandle privateObject } := by
        simp [registerKeyPair, digest, half, State.register, privateObject]
      rw [registered, finishKeyPair_missing privateObject
        (by simp [OrderedMap.get?_emplace, freshHere])
        (by simp [OrderedMap.get?_emplace, freshNext])]
      simp only [OrderedMap.emplace_of_fresh freshHere, OrderedMap.insert_insert]
      refine @Creation.half host oracle state
        (request.newKey host oracle state.nextObjectHandle output) request.key
        { privateObject with id := request.privateId id } disk rfl
        (by simp [PairRequest.newKey, digest])
        half rfl rfl rfl rfl rfl rfl ?_
      cases file with
      | session notToken => exact Or.inl ⟨notToken, rfl⟩
      | token isToken opened content saved => exact Or.inr ⟨isToken, opened, _, rfl⟩
  | some publicKey =>
      let publicObject : Object :=
        { pairPublicObject host request.slot.id request.label id request.path request.key
            publicKey with
          handle := state.nextObjectHandle + 1 }
      have registered : (registerKeyPair host oracle { state with disk := disk } request.slot.id
          request.label request.path request.key none).1 =
            { state with
              disk := disk
              nextObjectHandle := state.nextObjectHandle + 1 + 1
              objects := (state.objects.emplace state.nextObjectHandle privateObject).emplace
                (state.nextObjectHandle + 1) publicObject } := by
        simp [registerKeyPair, digest, half, State.register, privateObject, publicObject]
      have objects : request.objects host oracle state.nextObjectHandle =
          [request.patchPrivate privateObject.id privateObject,
            request.patchPublic privateObject.id publicObject] := by
        simp [PairRequest.objects, digest, half, privateObject, publicObject, pairPrivateObject]
      have patched :
          registerAll state.objects (request.objects host oracle state.nextObjectHandle) =
          (((state.objects.emplace state.nextObjectHandle privateObject).emplace
            (state.nextObjectHandle + 1) publicObject).insert state.nextObjectHandle
              (request.patchPrivate privateObject.id privateObject)).insert
                (state.nextObjectHandle + 1)
                (request.patchPublic privateObject.id publicObject) := by
        rw [insert_emplace_pair, objects]
        rfl
      have nonempty : request.objects host oracle state.nextObjectHandle ≠ [] := by simp [objects]
      have handles : ∀ object ∈ request.objects host oracle state.nextObjectHandle,
          state.nextObjectHandle ≤ object.handle ∧
            object.handle < state.nextObjectHandle + 1 + 1 := by
        rw [objects]
        simp [PairRequest.patchPrivate, PairRequest.patchPublic, privateObject, publicObject]
      rw [registered, finishKeyPair_found privateObject publicObject
        (by simp [OrderedMap.get?_emplace, freshHere])
        (by simp [OrderedMap.get?_emplace, freshNext])]
      rw [← patched]
      cases file with
      | session notToken =>
          rw [if_neg (by simp [notToken])]
          exact .kept notToken nonempty handles twoLater
      | token isToken opened content saved =>
          rw [if_pos isToken]
          have owner : request.privateOwner = 0 := by simpa [PairRequest.token] using isToken
          refine publishKey_creation
            (request.newKey host oracle state.nextObjectHandle output) fresh isToken nonempty
            handles twoLater ?_ ?_ opened content saved
          · change (List.map Object.handle
              (request.objects host oracle state.nextObjectHandle)).Nodup
            rw [objects]
            simp [PairRequest.patchPrivate, PairRequest.patchPublic, privateObject, publicObject]
          · change ∀ object ∈ request.objects host oracle state.nextObjectHandle,
              object.path = request.path
            rw [objects]
            simp [PairRequest.patchPrivate, PairRequest.patchPublic, PairRequest.objectPath, owner,
              privateObject, publicObject, pairPrivateObject, pairPublicObject]

/-- The key file of a pair, where it has one. -/
def PairRequest.save (oracle : Oracle) (state : State) (request : PairRequest) : FileSystem × Rv :=
  if request.token then
    saveKeyPair state.disk oracle request.slot request.path request.key request.label
  else (state.disk, .ok)

/-- A pair is stored in three steps, of which the first two may fail. -/
theorem storeKeyPair_cases {host : Host} {oracle : Oracle} {state : State} {request : PairRequest}
    {output : Nat → Output} {Ends : State × Response → Prop}
    (failed : ∀ disk code, request.save oracle state = (disk, code) → code ≠ .ok →
      Ends ({ state with disk := disk }, .plain code))
    (unregistered : ∀ disk registered, request.save oracle state = (disk, .ok) →
      registerKeyPair host oracle { state with disk := disk } request.slot.id request.label
        request.path request.key none = (registered, false) →
      Ends (registered, .plain Exception.other.code))
    (complete : ∀ disk registered, request.save oracle state = (disk, .ok) →
      registerKeyPair host oracle { state with disk := disk } request.slot.id request.label
        request.path request.key none = (registered, true) →
      Ends (finishKeyPair oracle registered state.nextObjectHandle request
        (output state.nextObjectHandle))) :
    Ends (storeKeyPair host oracle state request output) := by
  unfold storeKeyPair
  split
  · rename_i disk saved
    split
    · rename_i registered registers
      exact unregistered disk registered saved registers
    · rename_i registered registers
      exact complete disk registered saved registers
  · rename_i disk code notOk saved
    exact failed disk code saved notOk

theorem PairRequest.save_pairFile {oracle : Oracle} {state : State} {request : PairRequest}
    {disk : FileSystem} (saved : request.save oracle state = (disk, .ok)) :
    PairFile oracle state.disk request disk := by
  unfold PairRequest.save at saved
  split at saved
  · rename_i isToken
    have saving := saveKeyPair_saving state.disk oracle request.slot request.path request.key
      request.label
    rw [saved] at saving
    cases saving with
    | refused failed => contradiction
    | broken _ _ failed _ => contradiction
    | saved opened content result => exact .token isToken opened content result
  · rename_i notToken
    cases saved
    exact .session (by simpa using notToken)

theorem storeKeyPair_creation {host : Host} {oracle : Oracle} {state : State}
    {request : PairRequest} {output : Nat → Output} (fresh : state.FreshHandles) :
    Creation host oracle state
      (request.newKey host oracle state.nextObjectHandle (output state.nextObjectHandle))
      (storeKeyPair host oracle state request output) := by
  apply storeKeyPair_cases
  · intro disk code saved failed
    unfold PairRequest.save at saved
    split at saved
    · rename_i isToken
      have saving := saveKeyPair_saving state.disk oracle request.slot request.path request.key
        request.label
      rw [saved] at saving
      cases saving with
      | refused _ => exact .refused (Nat.le_refl _) failed
      | broken opened content _ result =>
          exact .broken isToken (Nat.le_refl _) failed opened (Or.inl ⟨_, result⟩)
      | saved _ _ _ => contradiction
    · cases saved
      contradiction
  · intro disk registered saved registers
    cases digest : objectIdForFilename host request.path.filename with
    | none =>
        simp only [registerKeyPair, digest, Prod.mk.injEq, and_true] at registers
        subst registers
        cases PairRequest.save_pairFile saved with
        | session notToken => exact .refused (Nat.le_refl _) (by decide)
        | token isToken opened content _ =>
            exact .broken isToken (Nat.le_refl _) (by decide) opened
              (Or.inr ⟨by simp [PairRequest.newKey], digest⟩)
    | some id => simp [registerKeyPair, digest] at registers
  · intro disk registered saved registers
    cases digest : objectIdForFilename host request.path.filename with
    | none => simp [registerKeyPair, digest] at registers
    | some id =>
        have finished := finishKeyPair_creation (output state.nextObjectHandle) fresh digest
          (PairRequest.save_pairFile saved)
        rw [registers] at finished
        exact finished

end HsmSimulator
