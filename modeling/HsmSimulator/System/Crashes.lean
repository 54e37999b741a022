import HsmSimulator.Pkcs11.Restart

/-!
# Crashes

A process that dies leaves the disk as it is, and another one starts from it.  Dying within a
call is like a call whose files fail, the removal of what it had begun included, and then
dying.  A key file gives back the objects it gave before, whatever became of other keys; of
its own calls only an interrupted creation is fatal.
-/

namespace HsmSimulator

open FileSystem

/-- A new process that initialises the module on a disk. -/
def boot (host : Host) (disk : FileSystem) (opening : Oracle) : State × Response :=
  step host (.loaded disk) (.cInitialize false, opening)

/-- The objects of a key file are there again, each under one handle, and no others. -/
structure Returns (path : Path) (state next : State) : Prop where
  kept : ∀ handle object, FileObject state.objects path handle object →
    ∃! later, next.objects.get? later = some { object with handle := later }
  origin : ∀ later object, FileObject next.objects path later object →
    ∃! handle, state.objects.get? handle = some { object with handle := handle }

section

variable {host : Host} {opening : Oracle} {state : State}

/-- A new process finds the key file as it was. -/
theorem SettledAt.returns {path : Path} (settled : SettledAt host opening.publicHalf path state)
    (isOpen : state.initialized = true) (faultless : Faultless opening)
    (opens : (boot host state.disk opening).2.rv = .ok) :
    Returns path state (boot host state.disk opening).1 := by
  have standing := settled.standing isOpen
  have mirrored := settled.mirrored isOpen
  have answer : boot host state.disk opening =
      ((boot host state.disk opening).1, .plain .ok) := by
    have closed : (State.loaded state.disk).initialized = false := rfl
    have initialization : Initialization host opening (.loaded state.disk)
        (boot host state.disk opening) := cInitialize_initialization host opening closed
    generalize boot host state.disk opening = result at initialization opens ⊢
    cases initialization with
    | failed _ _ _ _ _ _ _ _ => contradiction
    | succeeded _ _ _ => rfl
  have reopened := standing.reopened settled.order (tokenOrder_loaded state.disk) rfl rfl
    faultless answer
  constructor
  · rintro handle object ⟨found, token, rfl⟩
    exact reopened.kept settled.order mirrored found token
  · rintro later object ⟨found, _, rfl⟩
    exact reopened.origin settled.order mirrored found

/-- Where nothing is lost, a new process opens. -/
theorem Settled.boots (settled : Settled host opening.publicHalf state)
    (digests : DigestsNames host) (isOpen : state.initialized = true)
    (faultless : Faultless opening) :
    (boot host state.disk opening).2.rv = .ok ∧
      ∀ handle object, (boot host state.disk opening).1.objects.get? handle = some object →
        object.ownerSession = 0 := by
  obtain ⟨next, opens, reopened⟩ := settled.reopened digests isOpen faultless
    (tokenOrder_loaded state.disk) rfl rfl
  have isBoot : boot host state.disk opening = (next, .plain .ok) := opens
  rw [isBoot]
  exact ⟨rfl, reopened.token⟩

end

/-- After a process died, at any point of any run: if the next one opens, it has the objects of
every key file that survived each call of the run, exactly as they were; and it opens if every
key file survived.  A change of attributes, a removal, a change of a PIN may have met any
fault, and so may the creation of any other key and the reading of any other key file. -/
theorem crash_restores (host : Host) (digests : DigestsNames host) (disk : FileSystem)
    (inputs : List (Call × Oracle))
    (isOpen : (Runs.final (step host) (.loaded disk) inputs).initialized = true)
    (opening : Oracle) (faultless : Faultless opening) :
    let state := Runs.final (step host) (.loaded disk) inputs
    let survives (path : Path) : Prop :=
      Runs.Along (step host) (Survives host opening.publicHalf path) (.loaded disk) inputs
    (∀ path, survives path → (boot host state.disk opening).2.rv = .ok →
      Returns path state (boot host state.disk opening).1) ∧
    ((∀ path, survives path) →
      (boot host state.disk opening).2.rv = .ok ∧
        ∀ handle object, (boot host state.disk opening).1.objects.get? handle = some object →
          object.ownerSession = 0) := by
  intro state survives
  constructor
  · intro path along opens
    exact (settledAt_run digests along).returns isOpen faultless opens
  · intro along
    exact (settled_of_paths fun path => settledAt_run digests (along path)).boots digests isOpen
      faultless

/-- A machine on which nothing is renamed or removed, and key files with one name break. -/
def Oracle.breaking (name : Bytes) : Oracle :=
  { Oracle.plain with
    renameFails := fun _ => true
    removeFails := fun _ => true
    writeResult := fun path => if path.filename = name then .failsAtWrite 3 else .complete }

/-- What a machine with the plain halves does to other keys is survived. -/
theorem survives_plain {path : Path} {state : State} {call : Call} {oracle : Oracle}
    (plainHalves : oracle.publicHalf = Oracle.plain.publicHalf)
    (initialises : call = .cInitialize false → oracle.readFails path = false)
    (elsewhere : ∀ new, call.newKey .plain oracle state = some new → new.path = path →
      oracle = .plain)
    (policies : ∀ sessionHandle handle attributes object,
      call = .setAttributeValue sessionHandle handle attributes →
      state.findObject sessionHandle handle = some object →
      (applyPolicyTemplate object.policy attributes).size ≤ 32) :
    Survives .plain Oracle.plain.publicHalf path state (call, oracle) := by
  have halves (key : EvpKey) : publicKeyOnly oracle key ≠ none := by
    rw [publicKeyOnly, plainHalves]
    exact Option.some_ne_none key
  constructor
  · intro _ key _ _ _ _
    exact halves key
  · intro isInitialize
    exact ⟨initialises isInitialize, plainHalves⟩
  · constructor
    · intro new isNew samePath
      cases elsewhere new isNew samePath
      exact ⟨fun _ _ => rfl, fun _ _ _ _ => Option.some_ne_none _, fun key _ _ _ => halves key⟩
    · intro new isNew samePath
      cases elsewhere new isNew samePath
      exact fun _ => rfl
    · intro new isNew samePath
      cases elsewhere new isNew samePath
      exact dependable_plain.containers
    · exact fun _ _ _ => plainHalves
    · intro sessionHandle handle attributes changed isCall passes _ _ _
      rcases changedObject_eq_ok passes with ⟨object, change⟩
      have few := policies sessionHandle handle attributes object isCall change.found
      rcases change.relabelled with ⟨label, id, rfl⟩
      exact few

/-- A key is there again after another one broke, a change of its attributes failed half way,
and the process died. -/
theorem crash_restores_broken :
    let breaking := Oracle.breaking (ascii "second.key")
    let inputs := plainRun [.cInitialize false, .openSession 1 6 true, aesKey 1] ++
      [(labelledKey 1 (ascii "second"), breaking),
        (.setAttributeValue 1 1 (.entries [⟨ckaSensitive, .bytes [1]⟩]), breaking)]
    let state := Runs.final (step .plain) (.loaded ⟨∅, ∅⟩) inputs
    (Runs.outputs (step .plain) (.loaded ⟨∅, ∅⟩) inputs).map Response.rv =
        [.ok, .ok, .ok, .deviceError, .deviceError] ∧
      Returns [ascii "data", ascii "symmetric", ascii "aes-key.key"] state
        (boot .plain state.disk .plain).1 := by
  intro breaking inputs state
  have notNew {path : Path} {state : State} {call : Call} {oracle : Oracle}
      (isPlain : oracle = .plain) (noKey : call.newKey .plain oracle state = none)
      (notSet : ∀ sessionHandle handle attributes,
        call ≠ .setAttributeValue sessionHandle handle attributes) :
      Survives .plain Oracle.plain.publicHalf path state (call, oracle) :=
    survives_plain (by rw [isPlain]) (fun _ => by rw [isPlain]; rfl)
      (fun new isNew => by rw [noKey] at isNew; contradiction)
      fun _ _ _ _ isCall _ => (notSet _ _ _ isCall).elim
  refine ⟨by decide +kernel, (crash_restores .plain (fun name => Option.some_ne_none name) ⟨∅, ∅⟩
    inputs (by decide +kernel) .plain dependable_plain.faultless).1 _ ?_ (by decide +kernel)⟩
  refine ⟨notNew rfl rfl ?_, notNew rfl rfl ?_, survives_plain rfl ?_ ?_ ?_,
    survives_plain rfl ?_ ?_ ?_, survives_plain rfl ?_ ?_ ?_, trivial⟩
  · intros; exact Call.noConfusion
  · intros; exact Call.noConfusion
  · intros; contradiction
  · intros; rfl
  · intros; contradiction
  · intros; contradiction
  · intro new isNew samePath
    have elsewhere : ((labelledKey 1 (ascii "second")).newKey .plain breaking
        (Runs.final (step .plain) (.loaded ⟨∅, ∅⟩)
          (plainRun [.cInitialize false, .openSession 1 6 true, aesKey 1]))).map NewKey.path =
        some [ascii "data", ascii "symmetric", ascii "second.key"] := by
      decide +kernel
    have isPath := (congrArg (Option.map NewKey.path) isNew).symm.trans elsewhere
    rw [Option.map_some, samePath] at isPath
    exact absurd isPath (by decide)
  · intros; contradiction
  · intros; contradiction
  · intros; contradiction
  · intro sessionHandle handle attributes object isCall found
    cases isCall
    have few : ∃ stored, (Runs.final (step .plain) (.loaded ⟨∅, ∅⟩) (inputs.take 4)).findObject
        1 1 = some stored ∧ (applyPolicyTemplate stored.policy
          (.entries [⟨ckaSensitive, .bytes [1]⟩])).size ≤ 32 := by
      decide +kernel
    obtain ⟨stored, isStored, few⟩ := few
    cases isStored.symm.trans found
    exact few

end HsmSimulator
