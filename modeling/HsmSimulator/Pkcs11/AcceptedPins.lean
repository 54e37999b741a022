import HsmSimulator.Pkcs11.Operations
import HsmSimulator.Pkcs11.Pins
import HsmSimulator.Pkcs11.SlotPlaces
import HsmSimulator.Storage.PinFiles

/-!
# The accepted PIN is the last one stored

A history variable keeps, for each role of a slot, the value of the last PIN call that
succeeded.  The PIN in memory and the one its file would give at the next initialisation
both stay equal to it, across restarts, as long as no PIN that starts with a byte order
mark is stored.
-/

namespace HsmSimulator

open Checks FileSystem

/-- The last PIN of each role of the slot that a PIN call stored. -/
def lastPins (host : Host) (id : Nat) (last : UserType → Option Bytes) (state : State)
    (input : Call × Oracle) : UserType → Option Bytes :=
  match input.1.pinRequest state with
  | some (slot, role, pin) =>
      if slot.id = id ∧ (step host state input).2.rv = .ok then
        Function.update last role (some pin.content)
      else last
  | none => last

/-- The environment lets a new PIN file replace the one of the role. -/
structure PinFileReplaced (state : State) (oracle : Oracle) (slot : Slot) (role : UserType) :
    Prop where
  statted : oracle.statFails (slot.pinTemporary role) = false
  free : state.disk.hasPath (slot.pinTemporary role) = false
  written : oracle.writeResult (slot.pinTemporary role) = .complete
  renamed : oracle.renameFails (slot.pinTemporary role) = false

/-- The call stores a PIN that starts with a byte order mark. -/
def StoresMark (state : State) (input : Call × Oracle) : Prop :=
  ∃ slot role pin, input.1.pinRequest state = some (slot, role, pin) ∧
    PinProof state slot.id role input.1 ∧ validatePin pin = .ok () ∧
    PinFileReplaced state input.2 slot role ∧ byteOrderMark <+: pin.content

/-- The PIN of a role that an initialisation takes from its file. -/
def loadedPin (host : Host) (role : UserType) (content : Option Bytes) : Option (Option Bytes) :=
  match role with
  | .so => pinOfContent content
  | .user => (pinOfContent content).bind (initialUserPin host)

/-- The slot is at its place, and the PINs in memory and in its files are these. -/
structure PinsSettled (host : Host) (id : Nat) (directory : Path) (legacyLayout : Bool)
    (state : State) (last : UserType → Option Bytes) : Prop where
  place : ∀ other layout, SlotPlace state.disk host.dataDirectory id other layout ↔
    other = directory ∧ layout = legacyLayout
  stored : ∀ role, loadedPin host role (state.disk.content (directory.child (pinFile role))) =
    some (last role)
  present : state.initialized = true → ∃ slot, state.findSlot id = some slot
  held : ∀ slot, state.findSlot id = some slot →
    slot.directory = directory ∧ slot.legacyLayout = legacyLayout ∧ slot.pin = last

/-- Which PINs `C_Login` accepts, and what a PIN call that fails leaves. -/
structure PinsAccepted (host : Host) (id : Nat) (legacyLayout : Bool)
    (state : State) (last : UserType → Option Bytes) : Prop where
  accepted : ∀ sessionHandle session slot userType role pin oracle,
    state.findSession sessionHandle = some session → session.slotId = id →
    state.findSlot id = some slot → slot.loggedInUser = none →
    UserType.ofNumber userType = some role → soLoginChecks state session slot role = .ok () →
    ((step host state (.login sessionHandle userType (.bytes pin), oracle)).2.rv = .ok ↔
      last role = some pin ∨ legacyLayout = true ∧ ∀ role, last role = none)
  failed : ∀ input, (step host state input).2.rv ≠ .ok →
    ∀ role, ¬PinChanges state (step host state input).1 id role

/-- The file a PIN is stored in gives it back. -/
def PinSurvives (pin : Bytes) : Prop :=
  ∀ (disk written : FileSystem) (oracle later : Oracle) (slot changed : Slot) (role : UserType),
    storePin disk oracle slot role (.bytes pin) = (written, .ok changed) →
    later.statFails (slot.pinPath role) = false → later.readFails (slot.pinPath role) = false →
    readPassword written later (slot.pinPath role) = some (some pin)

/-! ## A PIN call that succeeds -/

section

variable {host : Host} {oracle : Oracle} {state : State}

theorem storePin_eq_ok {disk written : FileSystem} {slot changed : Slot} {role : UserType}
    {pin : Buffer} (stored : storePin disk oracle slot role pin = (written, .ok changed)) :
    validatePin pin = .ok () ∧ PinFileReplaced { state with disk := disk } oracle slot role ∧
      written = disk.writeFile (slot.pinPath role) pin.content ∧
      changed = slot.withPin role pin.content := by
  unfold storePin at stored
  cases valid : validatePin pin with
  | error code =>
      rw [valid] at stored
      cases stored
  | ok value =>
      rw [valid] at stored
      dsimp only at stored
      split at stored
      · cases stored
      · rename_i unblocked
        simp only [Bool.or_eq_true, not_or, Bool.not_eq_true] at unblocked
        rcases publish_cases oracle (slot.pinPath role) unblocked.2 pin.content true with
          ⟨published, _, complete, renames⟩ | unchanged | ⟨left, leftover, _⟩
        · rw [published] at stored
          cases stored
          exact ⟨rfl, ⟨unblocked.1, unblocked.2, complete, renames⟩, rfl, rfl⟩
        · rw [unchanged] at stored
          cases stored
        · rw [leftover] at stored
          cases stored

/-- What a PIN call that succeeds has established, and what it leaves. -/
structure PinStored (state next : State) (oracle : Oracle) (call : Call) (slot : Slot)
    (role : UserType) (pin : Buffer) : Prop where
  proof : PinProof state slot.id role call
  slotFound : state.findSlot slot.id = some slot
  valid : validatePin pin = .ok ()
  replaced : PinFileReplaced state oracle slot role
  next_eq : next = ({ state with
    disk := state.disk.writeFile (slot.pinPath role) pin.content } : State).putSlot slot.id
      (slot.withPin role pin.content)

theorem changePin_stored {id : Nat} {slot : Slot} {role : UserType} {pin : Buffer}
    (succeeded : (changePin state oracle id slot role pin).2.rv = .ok) :
    validatePin pin = .ok () ∧ PinFileReplaced state oracle slot role ∧
      (changePin state oracle id slot role pin).1 = ({ state with
        disk := state.disk.writeFile (slot.pinPath role) pin.content } : State).putSlot id
          (slot.withPin role pin.content) := by
  unfold changePin at succeeded ⊢
  rcases stored : storePin state.disk oracle slot role pin with ⟨written, code | changed⟩
  · rw [stored] at succeeded
    dsimp only [Response.plain_rv] at succeeded
    rcases storePin_cases state.disk oracle slot role pin with
      ⟨_, isStored⟩ | ⟨other, failed, isStored⟩ | ⟨_, _, isStored⟩
    · rw [isStored] at stored
      cases stored
    · rw [isStored] at stored
      cases stored
      exact (failed succeeded).elim
    · rw [isStored] at stored
      cases stored
      contradiction
  · rcases @storePin_eq_ok oracle state _ _ _ _ _ _ stored with ⟨valid, replaced, rfl, rfl⟩
    exact ⟨valid, replaced, rfl⟩

/-- A PIN call that succeeds replaces the file and the PIN in memory. -/
theorem pinStored_of_ok (wellFormed : WellFormed state) {call : Call} {slot : Slot}
    {role : UserType} {pin : Buffer} (asked : call.pinRequest state = some (slot, role, pin))
    (succeeded : (step host state (call, oracle)).2.rv = .ok) :
    PinStored state (step host state (call, oracle)).1 oracle call slot role pin := by
  have assemble {sessionHandle : Nat} {session : Session}
      (onSession : call.session? = some sessionHandle)
      (sessionFound : state.findSession sessionHandle = some session)
      (readWrite : session.isReadWrite = true)
      (slotFound : state.findSlot session.slotId = some slot)
      (changes : step host state (call, oracle) =
        changePin state oracle session.slotId slot role pin) :
      PinStored state (step host state (call, oracle)).1 oracle call slot role pin := by
    have slotKey := wellFormed.slotKey _ _ slotFound
    have granted : PinGranted state call (step host state (call, oracle)).2.rv slot.id role :=
      ⟨succeeded, sessionHandle, session, slot, pin, onSession, sessionFound, readWrite,
        slotKey.symm, by rw [slotKey, slotFound], asked⟩
    have proof := granted.proof wellFormed
    rw [changes] at succeeded ⊢
    rcases changePin_stored succeeded with ⟨valid, replaced, next⟩
    refine ⟨proof, by rw [slotKey, slotFound], valid, replaced, ?_⟩
    rw [next, slotKey]
  cases call with
  | initPin sessionHandle newPin =>
      simp only [Call.pinRequest, Option.map_eq_some_iff, Prod.mk.injEq] at asked
      rcases asked with ⟨_, slotOfSession, rfl, rfl, rfl⟩
      rcases State.sessionSlot_eq_some_iff.mp slotOfSession with ⟨_, sessionFound, _⟩
      have isOpen := wellFormed.initialized_of_session sessionFound
      have stepped := @step_of_open host oracle state isOpen (.initPin sessionHandle newPin)
      rw [service] at stepped
      have performed := succeeded
      rw [stepped] at performed
      rcases initPinChecks_of_ok performed with ⟨other, stored, checks⟩
      rw [initPin, checks] at stepped
      rcases initPinChecks_eq_ok checks with ⟨checked, _⟩
      cases slotOfSession.symm.trans checked.slotOfSession
      exact assemble rfl checked.sessionFound checked.readWrite checked.slotFound stepped
  | setPin sessionHandle oldPin newPin =>
      simp only [Call.pinRequest, Option.map_eq_some_iff, Prod.mk.injEq] at asked
      rcases asked with ⟨_, slotOfSession, rfl, rfl, rfl⟩
      rcases State.sessionSlot_eq_some_iff.mp slotOfSession with ⟨_, sessionFound, _⟩
      have isOpen := wellFormed.initialized_of_session sessionFound
      have stepped := @step_of_open host oracle state isOpen (.setPin sessionHandle oldPin newPin)
      rw [service] at stepped
      have performed := succeeded
      rw [stepped] at performed
      rcases setPinChecks_of_ok performed with ⟨other, stored, role, checks⟩
      rw [setPin, checks] at stepped
      rcases setPinChecks_eq_ok checks with ⟨checked, rfl, _⟩
      cases slotOfSession.symm.trans checked.slotOfSession
      exact assemble rfl checked.sessionFound checked.readWrite checked.slotFound stepped
  | _ => simp [Call.pinRequest] at asked

/-- Where the session rules allow a login, the PIN decides. -/
theorem login_ok_iff (wellFormed : WellFormed state) {sessionHandle userType : Nat}
    {session : Session} {slot : Slot} {role : UserType} {pin : Bytes}
    (sessionFound : state.findSession sessionHandle = some session)
    (slotFound : state.findSlot session.slotId = some slot) (nobody : slot.loggedInUser = none)
    (isRole : UserType.ofNumber userType = some role)
    (permitted : soLoginChecks state session slot role = .ok ()) :
    (step host state (.login sessionHandle userType (.bytes pin), oracle)).2.rv = .ok ↔
      acceptPin slot role (.bytes pin) = .ok () := by
  have slotOfSession : state.sessionSlot sessionHandle = some slot :=
    State.sessionSlot_eq_some_iff.mpr ⟨session, sessionFound, slotFound⟩
  have checks : loginChecks state sessionHandle userType (.bytes pin) =
      (acceptPin slot role (.bytes pin)).map fun _ => (session, slot, role) := by
    unfold loginChecks
    rw [sessionFound, isRole, slotOfSession]
    simp only [fetch_some, ok_bind, Buffer.isMissing, nobody, permitted]
    cases acceptPin slot role (.bytes pin) <;> rfl
  rw [step_of_open (wellFormed.initialized_of_session sessionFound), service, login, checks]
  cases accepted : acceptPin slot role (.bytes pin) with
  | error code =>
      simp only [Except.map, Response.plain_rv, reduceCtorEq, iff_false]
      rintro rfl
      exact acceptPin_ne_ok _ _ _ accepted
  | ok _ => simp [Except.map]

/-! ## One step -/

/-- The environment is only asked where there is no file. -/
theorem loadedPin_some {role : UserType} {pin : Bytes} (valid : validatePin (.bytes pin) = .ok ())
    (unmarked : ¬byteOrderMark <+: pin) : loadedPin host role (some pin) = some (some pin) := by
  have parsed := (parsePassword_eq_self_iff valid).mpr unmarked
  cases role with
  | so => rw [loadedPin, pinOfContent, parsed, Option.map_some]
  | user =>
      rw [loadedPin, pinOfContent, parsed, Option.map_some, Option.bind_some]
      rfl

theorem PasswordsLoaded.pin {disk : FileSystem} {slot : Slot}
    (loaded : PasswordsLoaded host disk oracle slot) (role : UserType) :
    loadedPin host role (disk.content (slot.pinPath role)) = some (slot.pin role) := by
  cases role with
  | so => exact readPassword_eq_some loaded.so
  | user =>
      rcases loaded.user with ⟨stored, reads, isPin⟩
      have content := readPassword_eq_some reads
      rw [loadedPin, Slot.pinPath, pinFile, content, Option.bind_some]
      exact isPin

theorem validatePin_content {pin : Buffer} (valid : validatePin pin = .ok ()) :
    validatePin (.bytes pin.content) = .ok () := by
  cases pin with
  | bytes content => exact valid
  | null length => rfl

theorem pin_withPin (slot : Slot) (role : UserType) (value : Bytes) :
    (slot.withPin role value).pin = Function.update slot.pin role (some value) := by
  funext other
  cases role <;> cases other <;> rfl

/-- An initialisation that succeeds settles the PINs it loaded. -/
theorem pinsSettled_of_loaded {disk : FileSystem} {slots : OrderedMap Nat Slot} {next : State}
    {id : Nat} {slot : Slot} (prepared : Prepared state.disk disk [host.dataDirectory])
    (discovered : Discovered host disk oracle host.dataDirectory slots)
    (loaded : TokenLoaded host oracle
      { state with storageRoot := host.dataDirectory, disk := disk, slots := slots } next)
    (found : next.findSlot id = some slot) :
    PinsSettled host id slot.directory slot.legacyLayout { next with initialized := true }
      slot.pin := by
  have initialization : Initialization host oracle state
      ({ next with initialized := true }, .plain .ok) := .succeeded prepared discovered loaded
  have sameSlots : next.slots = slots := loaded.slots_eq
  have isFound : slots.get? id = some slot := by rw [← sameSlots]; exact found
  refine ⟨?_, ?_, fun _ => ⟨slot, found⟩, ?_⟩
  · intro other layout
    rw [initialization.slotPlace, ← slotPlace_prepared_root prepared]
    exact discovered.slotPlace_iff isFound other layout
  · intro role
    rcases discovered.origin id slot isFound with ⟨_, _, _, isLoaded⟩
    rw [← isLoaded.passwords.pin role]
    exact congrArg (loadedPin host role) (loaded.prepared.content _)
  · intro other otherFound
    change next.findSlot id = some other at otherFound
    rw [found] at otherFound
    cases otherFound
    exact ⟨rfl, rfl, rfl⟩

namespace PinsSettled

variable {id : Nat} {directory : Path} {legacyLayout : Bool} {last : UserType → Option Bytes}
  (settled : PinsSettled host id directory legacyLayout state last)

include settled

/-- An initialisation takes the PINs from the files. -/
theorem initialization {result : State × Response}
    (initialization : Initialization host oracle state result) :
    PinsSettled host id directory legacyLayout result.1 last := by
  have place (other : Path) (layout : Bool) :=
    (initialization.slotPlace id other layout).trans (settled.place other layout)
  cases initialization with
  | failed closed noSlots _ _ _ _ prepared _ =>
      refine ⟨place, ?_, ?_, ?_⟩
      · intro role
        dsimp only
        rw [prepared.content]
        exact settled.stored role
      · intro isOpen
        dsimp only at isOpen
        rw [closed] at isOpen
        contradiction
      · intro slot found
        rw [State.findSlot, noSlots] at found
        contradiction
  | @succeeded disk slots next prepared discovered loaded =>
      have here : SlotPlace disk host.dataDirectory id directory legacyLayout := by
        rw [slotPlace_prepared_root prepared, settled.place]
        exact ⟨rfl, rfl⟩
      rcases discovered.listed id directory legacyLayout here with ⟨slot, found, isLoaded⟩
      rw [← show next.slots = slots from loaded.slots_eq] at found
      have again := pinsSettled_of_loaded prepared discovered loaded found
      rw [isLoaded.directory, isLoaded.layout] at again
      have samePins : slot.pin = last := by
        funext role
        have fromFile := again.stored role
        dsimp only at fromFile
        rw [loaded.prepared.content, prepared.content, settled.stored] at fromFile
        exact (Option.some.inj fromFile).symm
      rw [samePins] at again
      exact again

/-- A PIN call that succeeds settles the new PIN. -/
theorem pinStored {next : State} {call : Call} {slot : Slot} {role : UserType} {pin : Buffer}
    (placed : ∀ other layout, SlotPlace next.disk host.dataDirectory id other layout ↔
      other = directory ∧ layout = legacyLayout)
    (stored : PinStored state next oracle call slot role pin) (same : slot.id = id)
    (unmarked : ¬byteOrderMark <+: pin.content) :
    PinsSettled host id directory legacyLayout next
      (Function.update last role (some pin.content)) := by
  have slotFound := stored.slotFound
  rw [same] at slotFound
  rcases settled.held slot slotFound with ⟨rfl, rfl, isLast⟩
  have next_eq := stored.next_eq
  subst next_eq
  refine ⟨placed, ?_, ?_, ?_⟩
  · intro other
    change loadedPin host other ((state.disk.writeFile (slot.pinPath role) pin.content).content
      (slot.pinPath other)) = _
    rw [content_writeFile]
    by_cases isRole : other = role
    · subst isRole
      rw [if_pos rfl, Function.update_self]
      exact loadedPin_some (validatePin_content stored.valid) unmarked
    · rw [if_neg, Function.update_of_ne isRole]
      · exact settled.stored other
      · intro samePath
        exact isRole (pinFile_inj (Path.child_inj.mp samePath).2)
  · intro _
    exact ⟨slot.withPin role pin.content, by rw [findSlot_putSlot, if_pos same.symm]⟩
  · intro changed found
    rw [findSlot_putSlot, if_pos same.symm] at found
    cases found
    rw [pin_withPin, isLast]
    cases role <;> exact ⟨rfl, rfl, rfl⟩

/-- Without a granted change the PINs stay. -/
theorem keep {call : Call} {result : State × Response} (wellFormed : WellFormed state)
    (isOpen : state.initialized = true)
    (placed : ∀ other layout, SlotPlace result.1.disk host.dataDirectory id other layout ↔
      other = directory ∧ layout = legacyLayout)
    (effect : Effect host oracle state call result)
    (refused : ∀ role, ¬PinGranted state call result.2.rv id role) :
    PinsSettled host id directory legacyLayout result.1 last := by
  rcases settled.present isOpen with ⟨slot, slotFound⟩
  rcases settled.held slot slotFound with ⟨rfl, rfl, isLast⟩
  refine ⟨placed, ?_, ?_, ?_⟩
  · intro role
    have sameFile : result.1.disk.content (slot.pinPath role) =
        state.disk.content (slot.pinPath role) := by
      by_contra different
      exact refused role (effect.storedPin wellFormed slotFound different)
    rw [← Slot.pinPath, sameFile]
    exact settled.stored role
  · intro stillOpen
    rcases effect.slotChange wellFormed slotFound with ⟨_, closed, _⟩ | ⟨changed, after, _⟩
    · rw [closed] at stillOpen
      contradiction
    · exact ⟨changed, after⟩
  · intro changed found
    rcases effect.slotChange wellFormed slotFound with ⟨_, closed, _⟩ | ⟨after, isAfter, change⟩
    · have stillOpen := (wellFormed.effect effect).initialized_of_slot found
      rw [closed] at stillOpen
      contradiction
    · have samePin : changed.pin = slot.pin := by
        funext role
        by_contra different
        exact refused role (effect.memoryPin wellFormed slotFound found different)
      rw [found] at isAfter
      cases isAfter
      rcases change.place with ⟨sameDirectory, sameLayout⟩
      exact ⟨sameDirectory, sameLayout, samePin.trans isLast⟩

theorem step (wellFormed : WellFormed state) (input : Call × Oracle)
    (unmarked : ¬StoresMark state input) :
    PinsSettled host id directory legacyLayout (HsmSimulator.step host state input).1
      (lastPins host id last state input) := by
  rcases input with ⟨call, oracle⟩
  have placed (other : Path) (layout : Bool) :=
    (@slotPlace_step host state wellFormed (call, oracle) id other layout).trans
      (settled.place other layout)
  cases isOpen : state.initialized with
  | false =>
      rcases @step_closed_cases host oracle state isOpen call with
        ⟨same, failed⟩ | ⟨rfl, initialization⟩
      · have kept : lastPins host id last state (call, oracle) = last := by
          unfold lastPins
          split
          · rw [if_neg (fun succeeded => failed succeeded.2)]
          · rfl
        rw [kept, same]
        exact settled
      · exact settled.initialization initialization
  | true =>
      have effect : Effect host oracle state call (HsmSimulator.step host state (call, oracle)) :=
        step_effect wellFormed call
      by_cases mine : ∃ slot role pin, call.pinRequest state = some (slot, role, pin) ∧
          slot.id = id ∧ (HsmSimulator.step host state (call, oracle)).2.rv = .ok
      · rcases mine with ⟨slot, role, pin, asked, same, succeeded⟩
        have stored := pinStored_of_ok wellFormed asked succeeded
        have isLast : lastPins host id last state (call, oracle) =
            Function.update last role (some pin.content) := by
          rw [lastPins, asked]
          exact if_pos ⟨same, succeeded⟩
        rw [isLast]
        refine settled.pinStored placed stored same ?_
        intro marked
        exact unmarked ⟨slot, role, pin, asked, stored.proof, stored.valid, stored.replaced, marked⟩
      · have isLast : lastPins host id last state (call, oracle) = last := by
          unfold lastPins
          split
          · rename_i slot role pin asked
            rw [if_neg]
            rintro ⟨same, succeeded⟩
            exact mine ⟨slot, role, pin, asked, same, succeeded⟩
          · rfl
        rw [isLast]
        refine settled.keep wellFormed isOpen placed effect ?_
        intro role granted
        rcases granted.request with ⟨_, session, slot, pin, _, _, _, _, slotFound, asked⟩
        exact mine ⟨slot, role, pin, asked, wellFormed.slotKey _ _ slotFound, granted.succeeded⟩

/-- What is settled is what `C_Login` asks for. -/
theorem accepted (wellFormed : WellFormed state) :
    PinsAccepted host id legacyLayout state last := by
  constructor
  · intro sessionHandle session slot userType role pin oracle sessionFound sameSlot slotFound nobody
      isRole permitted
    rcases settled.held slot slotFound with ⟨_, rfl, rfl⟩
    subst sameSlot
    rw [login_ok_iff wellFormed sessionFound slotFound nobody isRole permitted]
    constructor
    · intro passes
      rcases acceptPin_eq_ok passes with ⟨legacy, noUser, noOfficer⟩ | ⟨isPin, _⟩
      · right
        refine ⟨legacy, ?_⟩
        intro other
        cases other
        · exact noOfficer
        · exact noUser
      · exact Or.inl isPin
    · rintro (isPin | ⟨legacy, noPin⟩)
      · unfold acceptPin
        rw [if_neg (by simp [isPin]), isPin]
        simp [checkPin, Buffer.isMissing, Buffer.content, require]
      · unfold acceptPin
        have noUser : slot.userPin = none := noPin .user
        have noOfficer : slot.soPin = none := noPin .so
        exact if_pos ⟨legacy, by simp [Slot.requiresLogin, legacy, noUser, noOfficer], noPin role⟩
  · intro input failed role changes
    exact (pinsProtected wellFormed input).failed failed id role changes

end PinsSettled

/-! ## Files -/

theorem pinSurvives_iff {pin : Bytes} (valid : validatePin (.bytes pin) = .ok ()) :
    PinSurvives pin ↔ ¬byteOrderMark <+: pin := by
  rw [← parsePassword_eq_self_iff valid]
  constructor
  · intro survives
    let slot : Slot := .ofDirectory 1 [] [] true
    have works : ∃ written changed, storePin ⟨∅, ∅⟩ .plain slot .user (.bytes pin) =
        (written, .ok changed) := by
      unfold storePin
      rw [valid]
      exact ⟨_, _, rfl⟩
    rcases works with ⟨written, changed, stored⟩
    have reads := survives _ _ _ .plain _ _ _ stored rfl rfl
    rcases @storePin_eq_ok .plain (.loaded ⟨∅, ∅⟩) _ _ _ _ _ _ stored with ⟨_, _, rfl, _⟩
    rw [readPassword_of_content rfl rfl (by rw [content_writeFile, if_pos rfl])] at reads
    simpa [Buffer.content] using reads
  · intro parsed disk written oracle later slot changed role stored statted opened
    rcases @storePin_eq_ok oracle (.loaded disk) _ _ _ _ _ _ stored with ⟨_, _, rfl, _⟩
    rw [readPassword_of_content statted opened (by rw [content_writeFile, if_pos rfl])]
    simp [Buffer.content, parsed]

end

/-! ## Runs -/

/-- From a successful initialisation on, along every run in which no PIN is stored that
starts with a byte order mark, the PIN that is accepted is the last one stored. -/
theorem accepted_pin_is_last_stored (host : Host) (state : State) (oracle : Oracle)
    (reachable : Reachable host state)
    (started : (step host state (.cInitialize false, oracle)).2.rv = .ok) (id : Nat) (slot : Slot)
    (found : (step host state (.cInitialize false, oracle)).1.findSlot id = some slot)
    (inputs : List (Call × Oracle))
    (unmarked : Runs.Along (step host) (fun state input => ¬StoresMark state input)
      (step host state (.cInitialize false, oracle)).1 inputs) :
    PinsAccepted host id slot.legacyLayout
        (Runs.final (step host) (step host state (.cInitialize false, oracle)).1 inputs)
        (Runs.history (step host) (lastPins host id) slot.pin
          (step host state (.cInitialize false, oracle)).1 inputs) ∧
      ∀ pin, validatePin (.bytes pin) = .ok () → (PinSurvives pin ↔ ¬byteOrderMark <+: pin) := by
  refine ⟨?_, fun pin => pinSurvives_iff⟩
  have wellFormed := reachable.wellFormed
  have initial : PinsSettled host id slot.directory slot.legacyLayout
      (step host state (.cInitialize false, oracle)).1 slot.pin := by
    cases isOpen : state.initialized with
    | true =>
        simp [step, Call.needsInitialization, service, cInitialize, isOpen] at started
    | false =>
        have initialization : Initialization host oracle state
            (step host state (.cInitialize false, oracle)) :=
          cInitialize_initialization host oracle isOpen
        generalize step host state (.cInitialize false, oracle) = result at *
        cases initialization with
        | failed _ _ _ _ _ _ _ _ => contradiction
        | succeeded prepared discovered loaded =>
            exact pinsSettled_of_loaded prepared discovered loaded found
  have invariant := @Runs.history_invariant _ _ _ _ (step host) (lastPins host id)
    (fun state input => ¬StoresMark state input)
    (fun state last => WellFormed state ∧
      PinsSettled host id slot.directory slot.legacyLayout state last)
    (fun state last input valid allowed =>
      ⟨valid.1.step input, valid.2.step valid.1 input allowed⟩)
    _ _ inputs ⟨wellFormed.step _, initial⟩ unmarked
  exact invariant.2.accepted invariant.1

/-- The calls of an application that sets the USER PIN of the legacy slot and starts again. -/
def pinRestart (pin : Bytes) : List (Call × Oracle) :=
  plainRun [.openSession 1 6 true, .setPin 1 (.null 0) (.bytes pin), .cFinalize false,
    .cInitialize false, .openSession 1 6 true]

theorem accepted_pin_is_last_stored_digits :
    let start := (step .plain (.loaded ⟨∅, ∅⟩) (.cInitialize false, .plain)).1
    ∃ slot, start.findSlot 1 = some slot ∧
      PinsAccepted .plain 1 slot.legacyLayout
        (Runs.final (step .plain) start (pinRestart [49, 50]))
        (Runs.history (step .plain) (lastPins .plain 1) slot.pin start (pinRestart [49, 50])) := by
  intro start
  have found : ∃ slot, start.findSlot 1 = some slot := Option.isSome_iff_exists.mp (by decide)
  rcases found with ⟨slot, found⟩
  refine ⟨slot, found, (accepted_pin_is_last_stored .plain (.loaded ⟨∅, ∅⟩) .plain
    ⟨⟨∅, ∅⟩, [], rfl⟩ (by decide) 1 slot found (pinRestart [49, 50]) ?_).1⟩
  refine ⟨?_, ?_, ?_, ?_, ?_, trivial⟩
  · rintro ⟨_, _, _, asked, _⟩
    cases asked
  · rintro ⟨other, role, pin, asked, _, _, _, marked⟩
    change Call.pinRequest _ (.setPin 1 (.null 0) (.bytes [49, 50])) = _ at asked
    simp only [Call.pinRequest, Option.map_eq_some_iff, Prod.mk.injEq] at asked
    rcases asked with ⟨_, _, _, _, rfl⟩
    revert marked
    decide
  · rintro ⟨_, _, _, asked, _⟩
    cases asked
  · rintro ⟨_, _, _, asked, _⟩
    cases asked
  · rintro ⟨_, _, _, asked, _⟩
    cases asked

/-- A PIN with a byte order mark is forgotten by the restart: what follows the mark is
accepted instead. -/
theorem marked_pin_is_forgotten :
    let start := (step .plain (.loaded ⟨∅, ∅⟩) (.cInitialize false, .plain)).1
    let state := Runs.final (step .plain) start (pinRestart [0xEF, 0xBB, 0xBF, 49])
    let last slot := Runs.history (step .plain) (lastPins .plain 1) slot start
      (pinRestart [0xEF, 0xBB, 0xBF, 49])
    (step .plain state (.login 2 1 (.bytes [0xEF, 0xBB, 0xBF, 49]), .plain)).2.rv =
        .pinIncorrect ∧
      (step .plain state (.login 2 1 (.bytes [49]), .plain)).2.rv = .ok ∧
      ∃ slot, start.findSlot 1 = some slot ∧ last slot.pin .user = some [0xEF, 0xBB, 0xBF, 49] ∧
        ¬PinsAccepted .plain 1 slot.legacyLayout state (last slot.pin) := by
  intro start state last
  have refused : (step .plain state (.login 2 1 (.bytes [0xEF, 0xBB, 0xBF, 49]), .plain)).2.rv =
      .pinIncorrect := by decide
  have isLast : ∃ slot, start.findSlot 1 = some slot ∧
      last slot.pin .user = some [0xEF, 0xBB, 0xBF, 49] := by decide
  have onSlot : ∃ session, state.findSession 2 = some session ∧ session.slotId = 1 := by decide
  have loggedOff : ∃ slot, state.findSlot 1 = some slot ∧ slot.loggedInUser = none := by decide
  rcases isLast with ⟨slot, found, isLast⟩
  refine ⟨refused, by decide, slot, found, isLast, ?_⟩
  intro accepted
  rcases onSlot with ⟨session, sessionFound, sameSlot⟩
  rcases loggedOff with ⟨reloaded, slotFound, nobody⟩
  have passes := (accepted.accepted 2 session reloaded 1 .user _ .plain sessionFound sameSlot
    slotFound nobody rfl rfl).mpr (Or.inl isLast)
  rw [refused] at passes
  contradiction

end HsmSimulator
