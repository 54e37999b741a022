import HsmSimulator.Pkcs11.Mirrors

/-!
# Restarts

`C_Finalize` and then `C_Initialize` give back the token objects under other handles, in
every run whose calls keep to what the reader of the metadata takes.
-/

namespace HsmSimulator

open FileSystem

/-- The module as `C_Finalize` leaves it. -/
def State.shut (state : State) : State :=
  { state with slots := ∅, sessions := ∅, objects := ∅, initialized := false }

/-- `C_Finalize` and then `C_Initialize`. -/
def restart (host : Host) (state : State) (closing opening : Oracle) : State × Response :=
  step host (step host state (.cFinalize false, closing)).1 (.cInitialize false, opening)

/-- A restart gives back the token objects, each under one handle, and nothing else. -/
structure Restarts (host : Host) (state : State) (closing opening : Oracle) : Prop where
  closes : (step host state (.cFinalize false, closing)).2.rv = .ok
  opens : (restart host state closing opening).2.rv = .ok
  kept : ∀ handle object, state.objects.get? handle = some object → object.ownerSession = 0 →
    ∃! later, (restart host state closing opening).1.objects.get? later =
      some { object with handle := later }
  token : ∀ later object,
    (restart host state closing opening).1.objects.get? later = some object →
      object.ownerSession = 0
  origin : ∀ later object,
    (restart host state closing opening).1.objects.get? later = some object →
      ∃! handle, state.objects.get? handle = some { object with handle := handle }
  accepted : ∀ handle object, state.objects.get? handle = some object →
    object.ownerSession = 0 → ∀ reading, Faultless reading →
      (Metadata.read state.disk reading object.path).isSome = true

/-- What a restart rests on. -/
structure Settled (host : Host) (half : EvpKey → Option EvpKey) (state : State) : Prop where
  order : TokenOrder state
  standing : state.initialized = true → Standing host state
  mirrored : state.initialized = true → ∀ path, Mirrored host half state path

/-- What a restart rests on for one key file. -/
structure SettledAt (host : Host) (half : EvpKey → Option EvpKey) (path : Path) (state : State) :
    Prop where
  order : TokenOrder state
  standing : state.initialized = true → Standing host state
  mirrored : state.initialized = true → Mirrored host half state path

/-- The key file survives the call: session pairs get their public halves, an initialisation can
read the file, and whatever is done to the key file itself endures. -/
structure Survives (host : Host) (half : EvpKey → Option EvpKey) (path : Path) (state : State)
    (input : Call × Oracle) : Prop where
  pairs : SessionPairsWhole host state input
  initialises : input.1 = .cInitialize false →
    input.2.readFails path = false ∧ input.2.publicHalf = half
  endures : EnduresAt host half path state input

/-- Without faults, a key file survives what is restorable. -/
theorem Restorable.survives {host : Host} {half : EvpKey → Option EvpKey} {state : State}
    {input : Call × Oracle} (restorable : Restorable host state input)
    (dependable : Dependable host half input.2) (digests : DigestsNames host) (path : Path) :
    Survives host half path state input where
  pairs := fun new key isNew notToken isKey _ => restorable.halves new key isNew isKey
    fun isToken => by rw [notToken] at isToken; contradiction
  initialises := fun _ => ⟨dependable.faultless.read path, dependable.halves⟩
  endures := restorable.endures dependable digests path

section

variable {host : Host} {half : EvpKey → Option EvpKey} {oracle : Oracle} {state next : State}

/-! ## One call -/

/-- A closed module is opened by an initialisation that succeeds. -/
theorem opened_of_initialized (closed : state.initialized = false)
    (isOpen : (step host state (.cInitialize false, oracle)).1.initialized = true) :
    ∃ disk slots next, Opened host oracle state disk slots next ∧
      step host state (.cInitialize false, oracle) =
        ({ next with initialized := true }, .plain .ok) := by
  have initialization := cInitialize_initialization host oracle closed
  have sameStep : step host state (.cInitialize false, oracle) =
      cInitialize host state oracle false := rfl
  rw [sameStep] at isOpen ⊢
  generalize isResult : cInitialize host state oracle false = result at initialization isOpen ⊢
  cases initialization with
  | failed stillClosed _ _ _ _ _ _ _ =>
      rw [stillClosed] at isOpen
      contradiction
  | succeeded _ _ _ =>
      rcases (cInitialize_eq_ok_iff closed).mp isResult with ⟨disk, slots, next, opened, isNext⟩
      exact ⟨disk, slots, next, opened, by rw [isNext]⟩

theorem SettledAt.step {path : Path} (settled : SettledAt host half path state)
    (input : Call × Oracle) (digests : DigestsNames host)
    (survives : Survives host half path state input) :
    SettledAt host half path (HsmSimulator.step host state input).1 := by
  have order := settled.order.step input survives.pairs
  rcases input with ⟨call, oracle⟩
  have wellFormed := settled.order.wellFormed
  cases isOpen : state.initialized with
  | true =>
      constructor
      · exact order
      · exact (settled.standing isOpen).step wellFormed isOpen
      · intro stays
        exact (step_token wellFormed call).mirrored (settled.mirrored isOpen) settled.order order
          digests rfl survives.endures isOpen stays
  | false =>
      rcases @step_closed_cases host oracle state isOpen call with ⟨same, _⟩ | ⟨rfl, _⟩
      · rw [same]
        exact settled
      · constructor
        · exact order
        · intro opens
          rcases opened_of_initialized isOpen opens with ⟨_, _, _, opened, isNext⟩
          rw [isNext]
          exact opened.standing
        · intro opens
          rcases opened_of_initialized isOpen opens with ⟨_, _, _, opened, isNext⟩
          rw [isNext]
          exact opened.mirrored path (survives.initialises rfl).1 (survives.initialises rfl).2

theorem settledAt_loaded (host : Host) (half : EvpKey → Option EvpKey) (path : Path)
    (disk : FileSystem) : SettledAt host half path (.loaded disk) := by
  constructor
  · exact tokenOrder_loaded disk
  · intro isOpen
    contradiction
  · intro isOpen
    contradiction

theorem settledAt_run {disk : FileSystem} {inputs : List (Call × Oracle)} {path : Path}
    (digests : DigestsNames host)
    (along : Runs.Along (HsmSimulator.step host) (Survives host half path) (.loaded disk) inputs) :
    SettledAt host half path (Runs.final (HsmSimulator.step host) (.loaded disk) inputs) :=
  Runs.invariant_along (fun _ input settled survives => settled.step input digests survives)
    (settledAt_loaded host half path disk) along

/-- What is settled at every path is settled. -/
theorem settled_of_paths (settled : ∀ path, SettledAt host half path state) :
    Settled host half state :=
  ⟨(settled []).order, (settled []).standing, fun isOpen path => (settled path).mirrored isOpen⟩

theorem settled_run {disk : FileSystem} {inputs : List (Call × Oracle)}
    (digests : DigestsNames host)
    (along : Runs.Along (HsmSimulator.step host)
      (fun state input => Dependable host half input.2 ∧ Restorable host state input)
      (.loaded disk) inputs) :
    Settled host half (Runs.final (HsmSimulator.step host) (.loaded disk) inputs) :=
  settled_of_paths fun path => settledAt_run digests
    (along.mono fun _ _ condition => condition.2.survives condition.1 digests path)

/-! ## Two states that mirror one disk -/

/-- Two states that mirror the same files have the same objects of a path. -/
theorem Mirrored.renamed {path : Path} (before : Mirrored host half state path)
    (after : Mirrored host half next path)
    (slots : ∀ id slot, state.findSlot id = some slot →
      ∃ other, next.findSlot id = some other ∧ SamePlace other slot)
    (content : next.disk.content path = state.disk.content path)
    (records : next.disk.records path = state.disk.records path)
    {handle : Nat} {object : Object} (isObject : FileObject state.objects path handle object) :
    ∃ later other, FileObject next.objects path later other ∧ other.core = object.core ∧
      other.record = object.record := by
  rcases before.stored handle object isObject with ⟨raw, stored, reads⟩
  rcases after.registered raw (stored.congr slots content) with ⟨later, other, isOther, again⟩
  rcases reads.recorded with ⟨first, isFirst, record⟩
  rcases again.recorded with ⟨second, isSecond, sameRecord⟩
  rw [records, isFirst] at isSecond
  cases isSecond
  exact ⟨later, other, isOther, again.core.trans reads.core.symm, sameRecord.trans record.symm⟩

/-- A token object is one of the other state, with the handle it has there. -/
theorem TokenOrder.get?_renamed {path : Path} (order : TokenOrder next) {object : Object}
    {later : Nat} {other : Object} (isOther : FileObject next.objects path later other)
    (core : other.core = object.core) (record : other.record = object.record) :
    next.objects.get? later = some { object with handle := later } := by
  have isHandle := (order.wellFormed.objectKey later other isOther.found).1
  rw [isOther.found]
  exact congrArg some (Object.eq_of_core core record isHandle)

/-- One handle only names a token object. -/
theorem TokenOrder.handle_unique (order : TokenOrder next) {object : Object}
    (token : object.ownerSession = 0) {later : Nat}
    (found : next.objects.get? later = some { object with handle := later }) :
    ∃! later, next.objects.get? later = some { object with handle := later } :=
  ⟨later, found, fun other otherFound =>
    order.files.unique other later _ _ otherFound found token token rfl rfl⟩

/-! ## A restart -/

/-- The slots that are discovered again hold the objects of the slots in memory. -/
theorem Rediscovered.stored {disk : FileSystem} {slots : OrderedMap Nat Slot}
    (found : Rediscovered host oracle state disk slots) (faultless : Faultless oracle)
    {raw : Object} (member : raw ∈ tokenObjects host oracle disk slots.values) :
    StoredObject host oracle.publicHalf state raw.path raw := by
  have prepared := createDirectories_prepared found.rootMade
  rcases mem_tokenObjects.mp member with ⟨slot, inSlots, path, content, opened, isRaw⟩
  rcases OrderedMap.mem_values_iff.mp inSlots with ⟨id, slotFound⟩
  rcases found.before id slot slotFound with ⟨old, oldFound, same⟩
  rw [faultless.opened_eq, prepared.content] at opened
  rw [(fileObjects_raw isRaw).1.path]
  refine ⟨id, old, content, oldFound, opened, ?_⟩
  rw [fileObjects_congr same]
  exact isRaw

/-- The metadata of a key file of a slot is where it was. -/
theorem Standing.records_again (standing : Standing host state) (wellFormed : WellFormed state)
    {disk after : FileSystem} {slots : OrderedMap Nat Slot}
    (found : Rediscovered host oracle state disk slots)
    (prepared : Prepared disk after (slots.values.flatMap slotDirectories)) {id : Nat}
    {slot : Slot} (slotFound : state.findSlot id = some slot) {path : Path}
    (keyPath : IsKeyPath slot.directory path) :
    after.records path = state.disk.records path := by
  rw [records_prepared prepared, records_prepared (createDirectories_prepared found.rootMade)]
  · intro isRoot
    have depth := keyPath.metadata_stored.length_eq
    rw [List.mem_singleton.mp isRoot] at depth
    have level := standing.root_le slotFound
    omega
  · apply keyPath.metadata_not_directory
    intro other listed
    rcases OrderedMap.mem_values_iff.mp listed with ⟨otherId, otherFound⟩
    rcases found.before otherId other otherFound with ⟨old, oldFound, same⟩
    rw [← same.directory]
    exact wellFormed.layout.level _ _ _ _ oldFound slotFound

/-- What is on the disk is opened again, in this process or in another one. -/
theorem Settled.reopens (settled : Settled host oracle.publicHalf state)
    (digests : DigestsNames host) (isOpen : state.initialized = true)
    (faultless : Faultless oracle) {fresh : State}
    (sameDisk : fresh.disk = state.disk) : ∃ disk slots next,
      Rediscovered host oracle state disk slots ∧ Opened host oracle fresh disk slots next := by
  have wellFormed := settled.order.wellFormed
  have standing := settled.standing isOpen
  rcases standing.rediscovered wellFormed faultless with ⟨disk, slots, found⟩
  have prepared := createDirectories_prepared found.rootMade
  have loads := loadTokenObjects_succeeds digests faultless
    { fresh with storageRoot := host.dataDirectory, disk := disk, slots := slots } ?_ ?_
  · generalize isResult : loadTokenObjects host oracle
      { fresh with storageRoot := host.dataDirectory, disk := disk, slots := slots } = result
      at loads
    rcases result with ⟨next, loaded⟩
    dsimp only at loads
    rw [loads] at isResult
    refine ⟨disk, slots, next, found, ?_, faultless.listing _, found.discovers, isResult⟩
    rw [sameDisk]
    exact found.rootMade
  · intro path member
    rcases List.mem_flatMap.mp member with ⟨slot, listed, isDirectory⟩
    rcases OrderedMap.mem_values_iff.mp listed with ⟨id, slotFound⟩
    rcases found.before id slot slotFound with ⟨old, oldFound, same⟩
    rw [slotDirectories, ← same.directory] at isDirectory
    exact (prepared.content path).trans (standing.keyDirectories id old oldFound path isDirectory)
  · intro after afterPrepared raw member
    have stored := found.stored faultless member
    rcases settled.mirrored isOpen raw.path with ⟨registered, _⟩
    rcases registered raw stored with ⟨_, _, _, reads⟩
    rcases reads.recorded with ⟨records, isRead, _⟩
    rcases stored with ⟨id, slot, _, slotFound, _, isRaw⟩
    rw [standing.records_again wellFormed found afterPrepared slotFound (fileObjects_raw isRaw).2,
      isRead]
    exact Option.some_ne_none records

/-- The module opened again mirrors the files it mirrored before. -/
structure Reopened (host : Host) (half : EvpKey → Option EvpKey) (state next : State) : Prop where
  order : TokenOrder next
  mirrored : ∀ path, Mirrored host half next path
  before : ∀ id slot, next.findSlot id = some slot →
    ∃ old, state.findSlot id = some old ∧ SamePlace old slot
  after : ∀ id old, state.findSlot id = some old →
    ∃ slot, next.findSlot id = some slot ∧ SamePlace slot old
  content : ∀ path, next.disk.content path = state.disk.content path
  records : ∀ id slot path, state.findSlot id = some slot → IsKeyPath slot.directory path →
    next.disk.records path = state.disk.records path
  token : ∀ handle object, next.objects.get? handle = some object → object.ownerSession = 0

theorem step_finalize (isOpen : state.initialized = true) :
    step host state (.cFinalize false, oracle) = (state.shut, .plain .ok) := by
  simp [step, Call.needsInitialization, service, cFinalize, State.shut, isOpen]

theorem Settled.shut (settled : Settled host half state) (isOpen : state.initialized = true) :
    TokenOrder state.shut := by
  have shut : TokenOrder (HsmSimulator.step host state (.cFinalize false, .plain)).1 :=
    settled.order.step _ fun _ _ isNew => by contradiction
  rw [step_finalize isOpen] at shut
  exact shut

/-- A closed module that opens on the disk of another one mirrors what that one mirrored. -/
theorem Standing.reopened (standing : Standing host state) (order : TokenOrder state)
    {fresh : State} (freshOrder : TokenOrder fresh) (closed : fresh.initialized = false)
    (sameDisk : fresh.disk = state.disk) (faultless : Faultless oracle)
    (opens : HsmSimulator.step host fresh (.cInitialize false, oracle) = (next, .plain .ok)) :
    Reopened host oracle.publicHalf state next := by
  have nextOrder : TokenOrder (HsmSimulator.step host fresh (.cInitialize false, oracle)).1 :=
    freshOrder.step _ fun _ _ isNew => by contradiction
  rw [opens] at nextOrder
  rcases (cInitialize_eq_ok_iff closed).mp opens with ⟨disk, slots, loadedState, opened, rfl⟩
  rcases standing.rediscovered order.wellFormed faultless with ⟨again, found, rediscovered⟩
  have sameRoot : again = disk := by
    have made := opened.rootMade
    rw [sameDisk, rediscovered.rootMade] at made
    exact Option.some.inj made
  subst sameRoot
  have sameSlots : found = slots :=
    Option.some.inj (rediscovered.discovers.symm.trans opened.discovers)
  subst sameSlots
  have loaded := loadTokenObjects_eq_true opened.loads
  have isSlots : loadedState.slots = found := loaded.slots_eq
  refine ⟨nextOrder, fun path => opened.mirrored path (faultless.read path) rfl, ?_, ?_, ?_, ?_,
    ?_⟩
  · intro id slot slotFound
    change loadedState.slots.get? id = some slot at slotFound
    rw [isSlots] at slotFound
    exact rediscovered.before id slot slotFound
  · intro id old oldFound
    rcases rediscovered.after id old oldFound with ⟨slot, slotFound, same⟩
    refine ⟨slot, ?_, same.symm⟩
    change loadedState.slots.get? id = some slot
    rw [isSlots]
    exact slotFound
  · intro path
    exact (loaded.prepared.content path).trans
      ((createDirectories_prepared rediscovered.rootMade).content path)
  · intro id slot path slotFound keyPath
    exact standing.records_again order.wellFormed rediscovered loaded.prepared slotFound keyPath
  · intro handle object isObject
    rcases (loaded.objects handle object).mp isObject with ⟨_, raw, isRaw, _, rfl⟩
    rcases mem_tokenObjects.mp (List.mem_of_getElem? isRaw) with ⟨_, _, _, _, _, member⟩
    exact (withMetadata_core _ _).2.2.2.2.trans (fileObjects_raw member).1.owner

theorem Settled.reopened (settled : Settled host oracle.publicHalf state)
    (digests : DigestsNames host) (isOpen : state.initialized = true)
    (faultless : Faultless oracle) {fresh : State}
    (freshOrder : TokenOrder fresh) (closed : fresh.initialized = false)
    (sameDisk : fresh.disk = state.disk) :
    ∃ next, HsmSimulator.step host fresh (.cInitialize false, oracle) = (next, .plain .ok) ∧
      Reopened host oracle.publicHalf state next := by
  rcases settled.reopens digests isOpen faultless sameDisk with ⟨disk, slots, next, _, opened⟩
  have opens : HsmSimulator.step host fresh (.cInitialize false, oracle) =
      ({ next with initialized := true }, .plain .ok) :=
    (cInitialize_eq_ok_iff closed).mpr ⟨disk, slots, next, opened, rfl⟩
  exact ⟨_, opens, (settled.standing isOpen).reopened settled.order freshOrder closed sameDisk
    faultless opens⟩

/-- The token objects are there again, each under one handle. -/
theorem Reopened.kept (reopened : Reopened host half state next) (order : TokenOrder state)
    {handle : Nat} {object : Object} (mirrored : Mirrored host half state object.path)
    (found : state.objects.get? handle = some object) (token : object.ownerSession = 0) :
    ∃! later, next.objects.get? later = some { object with handle := later } := by
  rcases order.wellFormed.tokenObject handle object found token with
    ⟨_, _, slot, slotFound, keyPath⟩
  rcases mirrored.renamed (reopened.mirrored _) (fun _ _ => reopened.after _ _)
    (reopened.content _) (reopened.records _ slot _ slotFound keyPath) ⟨found, token, rfl⟩ with
    ⟨later, other, isOther, core, record⟩
  exact reopened.order.handle_unique token (reopened.order.get?_renamed isOther core record)

/-- Every object was there before, under one handle. -/
theorem Reopened.origin (reopened : Reopened host half state next) (order : TokenOrder state)
    {later : Nat} {object : Object} (mirrored : Mirrored host half state object.path)
    (found : next.objects.get? later = some object) :
    ∃! handle, state.objects.get? handle = some { object with handle := handle } := by
  have token := reopened.token later object found
  rcases reopened.order.wellFormed.tokenObject later object found token with
    ⟨_, _, slot, slotFound, keyPath⟩
  rcases reopened.before _ slot slotFound with ⟨old, oldFound, same⟩
  rw [← same.directory] at keyPath
  rcases (reopened.mirrored object.path).renamed mirrored (fun _ _ => reopened.before _ _)
    (reopened.content _).symm (reopened.records _ old _ oldFound keyPath).symm
    ⟨found, token, rfl⟩ with ⟨handle, other, isOther, core, record⟩
  exact order.handle_unique token (order.get?_renamed isOther core record)

/-- The metadata of every token object is read. -/
theorem Mirrored.accepted {path : Path} (mirrored : Mirrored host half state path) {handle : Nat}
    {object : Object} (isObject : FileObject state.objects path handle object)
    (faultless : Faultless oracle) : (Metadata.read state.disk oracle path).isSome = true := by
  rcases mirrored.stored handle object isObject with ⟨_, _, reads⟩
  rcases reads.recorded with ⟨records, isRead, _⟩
  rw [faultless.read_eq, isRead]
  rfl

theorem Settled.restarts (settled : Settled host oracle.publicHalf state)
    (digests : DigestsNames host) (isOpen : state.initialized = true) (closing : Oracle)
    (faultless : Faultless oracle) : Restarts host state closing oracle := by
  rcases settled.reopened digests isOpen faultless (settled.shut isOpen) rfl rfl with
    ⟨next, isNext, reopened⟩
  have isRestart : restart host state closing oracle = (next, .plain .ok) := by
    rw [restart, step_finalize isOpen]
    exact isNext
  constructor
  · rw [step_finalize isOpen]
    rfl
  · rw [isRestart]
    rfl
  · rw [isRestart]
    intro handle object found token
    exact reopened.kept settled.order (settled.mirrored isOpen _) found token
  · rw [isRestart]
    exact reopened.token
  · rw [isRestart]
    intro later object found
    exact reopened.origin settled.order (settled.mirrored isOpen _) found
  · intro handle object found token reading readFaultless
    exact (settled.mirrored isOpen object.path).accepted ⟨found, token, rfl⟩ readFaultless

end

/-- In every run without faults in which the pairs that are registered get their public halves and
the token objects that are changed keep to as many policies as the reader takes, a restart gives
back the token objects. -/
theorem restart_restores (host : Host) (digests : DigestsNames host) (disk : FileSystem)
    (inputs : List (Call × Oracle)) (closing opening : Oracle) (faultless : Faultless opening)
    (along : Runs.Along (step host)
      (fun state input =>
        Dependable host opening.publicHalf input.2 ∧ Restorable host state input)
      (.loaded disk) inputs)
    (isOpen : (Runs.final (step host) (.loaded disk) inputs).initialized = true) :
    Restarts host (Runs.final (step host) (.loaded disk) inputs) closing opening :=
  (settled_run digests along).restarts digests isOpen closing faultless

theorem dependable_plain : Dependable .plain Oracle.plain.publicHalf .plain := by
  constructor
  · constructor <;> intro <;> rfl
  · intro password name key der created
    cases created
    rfl
  · rfl

/-- On a plain machine a call is restorable if what it changes stays below the limit. -/
theorem restorable_plain {state : State} {call : Call}
    (policies : ∀ sessionHandle handle attributes object,
      call = .setAttributeValue sessionHandle handle attributes →
      state.findObject sessionHandle handle = some object →
      (applyPolicyTemplate object.policy attributes).size ≤ 32) :
    Restorable .plain state (call, .plain) := by
  constructor
  · intro new key _ _ _ noHalf
    contradiction
  · intro sessionHandle handle attributes changed isCall passes _ _
    rcases changedObject_eq_ok passes with ⟨object, change⟩
    have few := policies sessionHandle handle attributes object isCall change.found
    rcases change.relabelled with ⟨label, id, rfl⟩
    exact few

/-- A key that is created and made sensitive. -/
theorem restart_restores_sensitive :
    Restarts .plain (Runs.final (step .plain) (.loaded ⟨∅, ∅⟩) (plainRun
      [.cInitialize false, .openSession 1 6 true, aesKey 1,
        .setAttributeValue 1 1 (.entries [⟨ckaSensitive, .bytes [1]⟩])])) .plain .plain := by
  refine restart_restores .plain (fun name => Option.some_ne_none name) ⟨∅, ∅⟩ _ .plain .plain
    dependable_plain.faultless ?_ (by decide)
  have unchanged (state : State) (call : Call) (notSet : ∀ sessionHandle handle attributes,
      call ≠ .setAttributeValue sessionHandle handle attributes) :
      Restorable .plain state (call, .plain) :=
    restorable_plain fun _ _ _ _ isCall _ => (notSet _ _ _ isCall).elim
  refine ⟨⟨dependable_plain, unchanged _ _ ?_⟩, ⟨dependable_plain, unchanged _ _ ?_⟩,
    ⟨dependable_plain, unchanged _ _ ?_⟩, ⟨dependable_plain, restorable_plain ?_⟩, trivial⟩
  · intros; exact Call.noConfusion
  · intros; exact Call.noConfusion
  · intros; exact Call.noConfusion
  · intro sessionHandle handle attributes object isCall found
    cases isCall
    have few : ∃ stored, (Runs.final (step .plain) (.loaded ⟨∅, ∅⟩) (plainRun
        [.cInitialize false, .openSession 1 6 true, aesKey 1])).findObject 1 1 = some stored ∧
        (applyPolicyTemplate stored.policy
          (.entries [⟨ckaSensitive, .bytes [1]⟩])).size ≤ 32 := by
      decide
    rcases few with ⟨stored, isStored, few⟩
    cases isStored.symm.trans found
    exact few

/-- Policies of attributes that the module has no name for. -/
def crowdedPolicy : OrderedMap Nat Bool :=
  ⟨(List.range 32).map fun n => (1000 + n, false), by decide⟩

/-- A secret key whose metadata holds as many policies as the reader takes. -/
def crowdedDisk : FileSystem :=
  let records : Metadata.Records := ⟨[(ckoSecretKey, ⟨ascii "key", [1], crowdedPolicy⟩)], by decide⟩
  let key : Path := [ascii "data", ascii "symmetric", ascii "key.key"]
  (FileSystem.writeFile ⟨∅, ∅⟩ key (ascii "07")).writeFile (Metadata.path key)
    (Metadata.encode records).bytes

/-- One more policy is stored, and the next initialisation fails. -/
theorem restart_restores_crowded :
    let run : List (Call × Oracle) := plainRun [.cInitialize false, .openSession 1 6 true,
      .setAttributeValue 1 1 (.entries [⟨ckaSensitive, .bytes [1]⟩])]
    (Runs.outputs (step .plain) (.loaded crowdedDisk) run).map Response.rv = [.ok, .ok, .ok] ∧
      (restart .plain (Runs.final (step .plain) (.loaded crowdedDisk) run) .plain .plain).2.rv =
        .deviceError ∧
      ¬Restarts .plain (Runs.final (step .plain) (.loaded crowdedDisk) run) .plain .plain := by
  intro run
  have fails : (restart .plain (Runs.final (step .plain) (.loaded crowdedDisk) run)
      .plain .plain).2.rv = .deviceError := by
    decide +kernel
  refine ⟨?_, fails, ?_⟩
  · decide +kernel
  · intro restarts
    exact absurd (fails.symm.trans restarts.opens) (by decide)

end HsmSimulator
