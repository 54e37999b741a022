import HsmSimulator.Pkcs11.AcceptedPins
import HsmSimulator.Pkcs11.Invisibility

/-!
# Whoever has no PIN

As long as nobody gives a PIN of a slot that requires one, the slot stays as it is: nobody is
logged in, the keys in memory are those that were loaded, and every file below the directory of
the slot keeps its content, whatever is called and however often the module starts again.
-/

namespace HsmSimulator

open Checks FileSystem

/-- The slot, the role and the value of a PIN that a call gives. -/
def Call.givenPin (state : State) : Call → Option (Nat × UserType × Buffer)
  | .login sessionHandle userType pin =>
      (state.findSession sessionHandle).bind fun session =>
        (UserType.ofNumber userType).map fun role => (session.slotId, role, pin)
  | .setPin sessionHandle oldPin _ =>
      (state.sessionSlot sessionHandle).map fun slot =>
        (slot.id, slot.loggedInUser.getD .user, oldPin)
  | _ => none

/-- The call does not give one of these PINs to the slot. -/
def GivesNoPin (id : Nat) (pins : UserType → Option Bytes) (state : State)
    (input : Call × Oracle) : Prop :=
  ∀ role pin, input.1.givenPin state = some (id, role, pin) → pins role ≠ some pin.content

/-- The objects that the last initialisation loaded. -/
def loadedObjects (host : Host) (loaded : OrderedMap Nat Object) (state : State)
    (input : Call × Oracle) : OrderedMap Nat Object :=
  match input.1 with
  | .cInitialize _ =>
      if (step host state input).2.rv = .ok then (step host state input).1.objects else loaded
  | _ => loaded

/-- The slot is as it was: the content of its files, its PINs, and its keys as they were loaded,
except for session objects that are gone with their sessions. -/
structure Intact (id : Nat) (slot : Slot) (start : State) (loaded : OrderedMap Nat Object)
    (state : State) : Prop where
  files : ∀ path, slot.directory <+: path → state.disk.content path = start.disk.content path
  held : ∀ other, state.findSlot id = some other →
    other.directory = slot.directory ∧ other.pin = slot.pin ∧ other.loggedInUser = none
  tokens : state.initialized = true → ∀ handle object, object.slotId = id →
    object.ownerSession = 0 →
    (state.objects.get? handle = some object ↔ loaded.get? handle = some object)
  objects : ∀ handle object, object.slotId = id → state.objects.get? handle = some object →
    loaded.get? handle = some object

/-! ## One call on an open module -/

/-- What one call leaves of a slot that it has no access to. -/
structure SlotKept (id : Nat) (slot : Slot) (before after : State) : Prop where
  files : ∀ path, slot.directory <+: path → after.disk.content path = before.disk.content path
  found : after.findSlot id = some slot
  tokens : ∀ handle object, object.slotId = id → object.ownerSession = 0 →
    (after.objects.get? handle = some object ↔ before.objects.get? handle = some object)
  objects : ∀ handle object, object.slotId = id → after.objects.get? handle = some object →
    before.objects.get? handle = some object

section

variable {host : Host} {oracle : Oracle} {state : State} {id : Nat} {slot : Slot}

namespace SlotKept

/-- The same slots, objects and files. -/
theorem of_same {next : State} (found : state.findSlot id = some slot)
    (slots : next.slots = state.slots) (objects : next.objects = state.objects)
    (disk : next.disk = state.disk) : SlotKept id slot state next := by
  constructor
  · intro path _
    rw [disk]
  · rw [State.findSlot, slots]
    exact found
  · intro handle object _ _
    rw [objects]
  · intro handle object _ isFound
    rw [objects] at isFound
    exact isFound

/-- Session objects may be gone. -/
theorem of_fewer {next : State} {drop : Nat → Object → Bool} (found : next.findSlot id = some slot)
    (objects : next.objects = state.objects.eraseIf drop) (disk : next.disk = state.disk)
    (spares : ∀ handle object, object.ownerSession = 0 → drop handle object = false) :
    SlotKept id slot state next := by
  constructor
  · intro path _
    rw [disk]
  · exact found
  · intro handle object _ token
    rw [objects, OrderedMap.get?_eraseIf_eq_some_iff]
    exact and_iff_left (spares handle object token)
  · intro handle object _ isFound
    rw [objects, OrderedMap.get?_eraseIf_eq_some_iff] at isFound
    exact isFound.1

/-- A call on another slot. -/
theorem of_untouched {next : State} (found : state.findSlot id = some slot)
    (untouched : Untouched id state next) : SlotKept id slot state next := by
  constructor
  · intro path below
    exact untouched.files slot path found below
  · rw [untouched.slot]
    exact found
  · intro handle object mine _
    exact untouched.objects handle object mine
  · intro handle object mine
    exact (untouched.objects handle object mine).mp

end SlotKept

/-- A slot that requires a login and has none grants no access. -/
theorem grantsAccess_of_nobody (required : slot.requiresLogin = true)
    (nobody : slot.loggedInUser = none) : slot.grantsAccess = false := by
  simp [Slot.grantsAccess, required, nobody]

/-- A PIN that the slot has not is not accepted. -/
theorem acceptPin_foreign (required : slot.requiresLogin = true) {role : UserType} {pin : Buffer}
    (foreign : slot.pin role ≠ some pin.content) : acceptPin slot role pin ≠ .ok () := by
  intro accepted
  obtain ⟨legacy, noUser, noOfficer⟩ | ⟨isPin, _⟩ := acceptPin_eq_ok accepted
  · simp [Slot.requiresLogin, legacy, noUser, noOfficer] at required
  · exact foreign isPin

variable (wellFormed : WellFormed state) (found : state.findSlot id = some slot)
  (required : slot.requiresLogin = true) (nobody : slot.loggedInUser = none)

include found required nobody

/-- No session of the slot may use its protected objects. -/
theorem requireUserLogin_refused {sessionHandle : Nat} {session : Session}
    (sessionFound : state.findSession sessionHandle = some session)
    (mine : session.slotId = id) : state.requireUserLogin sessionHandle ≠ .ok () := by
  intro access
  obtain ⟨owner, slotOfSession, grants⟩ := State.requireUserLogin_eq_ok_iff.mp access
  obtain ⟨other, otherFound, ownerFound⟩ := State.sessionSlot_eq_some_iff.mp slotOfSession
  rw [sessionFound] at otherFound
  cases otherFound
  rw [mine, found] at ownerFound
  cases ownerFound
  rw [grantsAccess_of_nobody required nobody] at grants
  contradiction

include wellFormed

/-- A PIN call without the old PIN changes nothing. -/
theorem pinRequest_refused (isOpen : state.initialized = true) {call : Call}
    (noPin : GivesNoPin id slot.pin state (call, oracle))
    (addressed : ∀ sessionHandle, call.session? = some sessionHandle →
      state.OnSlot id sessionHandle)
    {request : Slot × UserType × Buffer} (asked : call.pinRequest state = some request) :
    (HsmSimulator.step host state (call, oracle)).1 = state := by
  have slotKey := wellFormed.slotKey id slot found
  have sameSlot {sessionHandle : Nat} {session : Session} {owner : Slot}
      (onSession : call.session? = some sessionHandle)
      (onSlot : PinSession state sessionHandle session owner) : owner = slot := by
    have mine := addressed sessionHandle onSession session onSlot.sessionFound
    have ownerFound := onSlot.slotFound
    rw [mine, found] at ownerFound
    exact (Option.some.inj ownerFound).symm
  rw [step_of_open isOpen]
  cases call with
  | initPin sessionHandle newPin =>
      change (initPin state oracle sessionHandle newPin).1 = state
      unfold initPin
      cases checks : initPinChecks state sessionHandle with
      | error code => rfl
      | ok value =>
          obtain ⟨session, owner⟩ := value
          obtain ⟨onSlot, officer⟩ := initPinChecks_eq_ok checks
          rw [sameSlot rfl onSlot, nobody] at officer
          contradiction
  | setPin sessionHandle oldPin newPin =>
      change (setPin state oracle sessionHandle oldPin newPin).1 = state
      unfold setPin
      cases checks : setPinChecks state sessionHandle oldPin newPin with
      | error code => rfl
      | ok value =>
          obtain ⟨session, owner, role⟩ := value
          obtain ⟨onSlot, isRole, accepted⟩ := setPinChecks_eq_ok checks
          have isSlot := sameSlot rfl onSlot
          subst isSlot
          refine (acceptPin_foreign required (noPin role oldPin ?_) accepted).elim
          simp only [Call.givenPin, onSlot.slotOfSession, Option.map_some, slotKey, isRole]
  | _ => simp [Call.pinRequest] at asked

/-- A call on the slot without one of its PINs. -/
theorem Effect.slotKept_mine {call : Call} {result : State × Response}
    (effect : Effect host oracle state call result)
    (isOpen : state.initialized = true) (addressed : call.On state id)
    (named : call.session? ≠ none ∨ call.slot? ≠ none)
    (noPin : GivesNoPin id slot.pin state (call, oracle))
    (noRequest : call.pinRequest state = none) :
    SlotKept id slot state result.1 := by
  have slotKey := wellFormed.slotKey id slot found
  have loggedOut : slot.loggedOut = slot := by
    rw [Slot.loggedOut, ← nobody]
  have mineOf {sessionHandle : Nat} {session : Session}
      (onSession : call.session? = some sessionHandle)
      (sessionFound : state.findSession sessionHandle = some session) : session.slotId = id :=
    addressed.session sessionHandle onSession session sessionFound
  have refused {sessionHandle : Nat} {session : Session}
      (onSession : call.session? = some sessionHandle)
      (sessionFound : state.findSession sessionHandle = some session) :
      state.requireUserLogin sessionHandle ≠ .ok () :=
    requireUserLogin_refused found required nobody sessionFound (mineOf onSession sessionFound)
  have endLogin (next : State) (slots : next.slots = state.slots) :
      (next.endLogin slot).findSlot id = some slot := by
    rw [State.endLogin, findSlot_putSlot, if_pos slotKey.symm, loggedOut]
  cases effect with
  | quiet _ _ => exact .of_same found rfl rfl rfl
  | updated _ _ _ _ => exact .of_same found rfl rfl rfl
  | opened _ _ => exact .of_same found rfl rfl rfl
  | @closed sessionHandle session sessionFound _ =>
      have valid := wellFormed.sessionHandle_ne_zero sessionFound
      refine @SlotKept.of_fewer state id slot _
        (fun _ object => object.ownerSession = sessionHandle) found rfl rfl ?_
      intro handle object token
      exact decide_eq_false fun same => valid (same.symm.trans token)
  | @closedLast sessionHandle session owner sessionFound ownerFound _ =>
      have valid := wellFormed.sessionHandle_ne_zero sessionFound
      rw [mineOf rfl sessionFound, found] at ownerFound
      cases ownerFound
      refine @SlotKept.of_fewer state id slot _
        (fun _ object => object.ownerSession = sessionHandle) (endLogin _ rfl) rfl rfl ?_
      intro handle object token
      exact decide_eq_false fun same => valid (same.symm.trans token)
  | @closedAll owner ownerFound =>
      have mine := addressed.slot owner.id rfl
      rw [mine, found] at ownerFound
      cases ownerFound
      refine @SlotKept.of_fewer state id slot _
        (fun _ object => object.slotId = slot.id && object.ownerSession ≠ 0) (endLogin _ rfl) rfl
        rfl ?_
      intro handle object token
      simp [token]
  | @loggedIn sessionHandle userType pin session owner role guard isRole =>
      have mine := mineOf rfl guard.sessionFound
      have ownerFound := guard.slotFound
      rw [mine, found] at ownerFound
      cases ownerFound
      refine (acceptPin_foreign required (noPin role pin ?_) guard.accepted).elim
      simp only [Call.givenPin, guard.sessionFound, Option.bind_some, isRole, Option.map_some, mine]
  | @loggedOut sessionHandle session owner sessionFound ownerFound somebody =>
      rw [mineOf rfl sessionFound, found] at ownerFound
      cases ownerFound
      exact (somebody nobody).elim
  | pinChanged _ _ _ _ asked _ =>
      rw [noRequest] at asked
      contradiction
  | pinLeft _ _ _ asked _ =>
      rw [noRequest] at asked
      contradiction
  | sessionObjectChanged change _ =>
      obtain ⟨_, sessionFound, _⟩ := State.findObject_eq_some_iff.mp change.found
      exact (refused rfl sessionFound change.access).elim
  | tokenObjectChanged change _ _ _ =>
      obtain ⟨_, sessionFound, _⟩ := State.findObject_eq_some_iff.mp change.found
      exact (refused rfl sessionFound change.access).elim
  | metadataLeft change _ _ =>
      obtain ⟨_, sessionFound, _⟩ := State.findObject_eq_some_iff.mp change.found
      exact (refused rfl sessionFound change.access).elim
  | sessionObjectDestroyed destruction _ =>
      obtain ⟨_, sessionFound, _⟩ := State.findObject_eq_some_iff.mp destruction.found
      exact (refused rfl sessionFound destruction.access).elim
  | keyFileDestroyed destruction _ _ =>
      obtain ⟨_, sessionFound, _⟩ := State.findObject_eq_some_iff.mp destruction.found
      exact (refused rfl sessionFound destruction.access).elim
  | creation _ onSession ends =>
      cases ends with
      | rejected _ _ => exact .of_same found rfl rfl rfl
      | performed _ guard _ _ =>
          have ownerFound := guard.slotFound
          rw [mineOf onSession guard.sessionFound, found] at ownerFound
          cases ownerFound
          have access := guard.access
          rw [grantsAccess_of_nobody required nobody] at access
          contradiction
  | finalized => simp [Call.session?, Call.slot?] at named
  | initializing closed =>
      rw [isOpen] at closed
      contradiction

/-- Every call that is no finalisation keeps the slot, unless it gives a PIN of it. -/
theorem slotKept_step (isOpen : state.initialized = true) {call : Call}
    (noPin : GivesNoPin id slot.pin state (call, oracle)) :
    (call = .cFinalize false ∧ (HsmSimulator.step host state (call, oracle)).1.initialized = false ∧
        (HsmSimulator.step host state (call, oracle)).1.disk = state.disk ∧
        (HsmSimulator.step host state (call, oracle)).1.objects = ∅) ∨
      SlotKept id slot state (HsmSimulator.step host state (call, oracle)).1 := by
  have effect : Effect host oracle state call (HsmSimulator.step host state (call, oracle)) :=
    step_effect wellFormed call
  by_cases named : call.session? ≠ none ∨ call.slot? ≠ none
  · right
    obtain ⟨addressed, on⟩ := call.exists_on state id
    by_cases mine : addressed = id
    · subst mine
      cases asked : call.pinRequest state with
      | none =>
          exact effect.slotKept_mine wellFormed found required nobody isOpen on named noPin asked
      | some request =>
          rw [pinRequest_refused wellFormed found required nobody isOpen noPin on.session asked]
          exact .of_same found rfl rfl rfl
    · have confined := effect.confined wellFormed on named
      exact .of_untouched found (confined.untouched wellFormed fun same => mine same.symm)
  · rw [not_or, not_not, not_not] at named
    generalize HsmSimulator.step host state (call, oracle) = result at effect ⊢
    cases effect with
    | quiet _ _ => exact Or.inr (.of_same found rfl rfl rfl)
    | updated onSession _ _ _ =>
        rw [named.1] at onSession
        contradiction
    | pinChanged onSession _ _ _ _ _ =>
        rw [named.1] at onSession
        contradiction
    | pinLeft onSession _ _ _ _ =>
        rw [named.1] at onSession
        contradiction
    | creation _ onSession _ =>
        rw [named.1] at onSession
        contradiction
    | finalized => exact Or.inl ⟨rfl, rfl, rfl, rfl⟩
    | initializing closed =>
        rw [isOpen] at closed
        contradiction
    | _ => simp [Call.session?, Call.slot?] at named

end

/-! ## Runs -/

section

variable {host : Host} {start state : State} {id : Nat} {slot : Slot}
  {loaded : OrderedMap Nat Object}

namespace Intact

variable (intact : Intact id slot start loaded state)

include intact

/-- An initialisation takes the same PINs from the same files. -/
theorem initialization {oracle : Oracle} (closed : state.initialized = false)
    (settled : PinsSettled host id slot.directory slot.legacyLayout state slot.pin) :
    Intact id slot start (loadedObjects host loaded state (.cInitialize false, oracle))
      (HsmSimulator.step host state (.cInitialize false, oracle)).1 := by
  have initialization : Initialization host oracle state
      (HsmSimulator.step host state (.cInitialize false, oracle)) :=
    cInitialize_initialization host oracle closed
  have later := settled.initialization initialization
  have isLoaded : loadedObjects host loaded state (.cInitialize false, oracle) =
      if (HsmSimulator.step host state (.cInitialize false, oracle)).2.rv = .ok then
        (HsmSimulator.step host state (.cInitialize false, oracle)).1.objects
      else loaded := rfl
  rw [isLoaded]
  clear isLoaded
  generalize HsmSimulator.step host state (.cInitialize false, oracle) = result at *
  have held (other : Slot) (found : result.1.findSlot id = some other)
      (nobody : other.loggedInUser = none) : other.directory = slot.directory ∧
        other.pin = slot.pin ∧ other.loggedInUser = none := by
    obtain ⟨directory, _, pins⟩ := later.held other found
    exact ⟨directory, pins, nobody⟩
  cases initialization with
  | failed closed noSlots noObjects _ _ _ prepared _ =>
      constructor
      · intro path below
        exact (prepared.content path).trans (intact.files path below)
      · intro other found
        simp [State.findSlot, noSlots] at found
      · intro isOpen
        simp [closed] at isOpen
      · intro handle object _ found
        simp [noObjects] at found
  | succeeded prepared discovered isLoaded =>
      constructor
      · intro path below
        exact ((isLoaded.prepared.content path).trans (prepared.content path)).trans
          (intact.files path below)
      · intro other found
        apply held other found
        have inSlots := found
        rw [State.findSlot, isLoaded.slots_eq] at inSlots
        obtain ⟨_, _, _, from'⟩ := discovered.origin id other inSlots
        exact from'.nobody
      · intro _ handle object _ _
        rfl
      · intro handle object _ found
        exact found

theorem kept {next : State} (isOpen : state.initialized = true) {held : Slot}
    (found : state.findSlot id = some held) (kept : SlotKept id held state next) :
    Intact id slot start loaded next := by
  obtain ⟨directory, pins, nobody⟩ := intact.held held found
  constructor
  · intro path below
    rw [← directory] at below
    rw [kept.files path below]
    rw [directory] at below
    exact intact.files path below
  · intro other otherFound
    rw [kept.found] at otherFound
    cases otherFound
    exact ⟨directory, pins, nobody⟩
  · intro _ handle object mine token
    rw [kept.tokens handle object mine token]
    exact intact.tokens isOpen handle object mine token
  · intro handle object mine isFound
    exact intact.objects handle object mine (kept.objects handle object mine isFound)

/-- The slot has the PINs that it had, and nobody is logged in. -/
theorem heldNow (required : slot.requiresLogin = true)
    (settled : PinsSettled host id slot.directory slot.legacyLayout state slot.pin)
    (isOpen : state.initialized = true) : ∃ held, state.findSlot id = some held ∧
      held.pin = slot.pin ∧ held.requiresLogin = true ∧ held.loggedInUser = none := by
  obtain ⟨held, found⟩ := settled.present isOpen
  obtain ⟨_, layout, pins⟩ := settled.held held found
  obtain ⟨_, _, nobody⟩ := intact.held held found
  have user : held.userPin = slot.userPin := congrFun pins .user
  have officer : held.soPin = slot.soPin := congrFun pins .so
  refine ⟨held, found, pins, ?_, nobody⟩
  rw [Slot.requiresLogin, layout, user, officer]
  exact required

/-- The files keep the PINs, too. -/
theorem settled_step (required : slot.requiresLogin = true) (wellFormed : WellFormed state)
    (settled : PinsSettled host id slot.directory slot.legacyLayout state slot.pin)
    (input : Call × Oracle) (noPin : GivesNoPin id slot.pin state input) :
    PinsSettled host id slot.directory slot.legacyLayout (HsmSimulator.step host state input).1
      slot.pin := by
  obtain ⟨call, oracle⟩ := input
  cases isOpen : state.initialized with
  | false =>
      obtain ⟨same, _⟩ | ⟨rfl, initialization⟩ := @step_closed_cases host oracle state isOpen call
      · rw [same]
        exact settled
      · exact settled.initialization initialization
  | true =>
      obtain ⟨held, found, pins, heldRequires, nobody⟩ := intact.heldNow required settled isOpen
      have placed (other : Path) (layout : Bool) :=
        (@slotPlace_step host state wellFormed (call, oracle) id other layout).trans
          (settled.place other layout)
      refine settled.keep wellFormed isOpen placed (step_effect wellFormed call) ?_
      intro role granted
      cases granted.proof wellFormed with
      | officer onSlot isOfficer _ =>
          have same := onSlot.slotFound
          rw [found] at same
          cases same
          rw [nobody] at isOfficer
          contradiction
      | @oldPin sessionHandle owner oldPin newPin onSlot isRole isPin _ =>
          have same := onSlot.slotFound
          rw [found] at same
          cases same
          obtain ⟨session, sessionFound, mine, _⟩ := onSlot.session
          have slotOfSession : state.sessionSlot sessionHandle = some held :=
            State.sessionSlot_eq_some_iff.mpr ⟨session, sessionFound, by rw [mine]; exact found⟩
          refine noPin role oldPin ?_ (by rw [← pins]; exact isPin)
          simp only [Call.givenPin, slotOfSession, Option.map_some, isRole,
            wellFormed.slotKey id held found]
      | legacy onSlot _ layout noUser noOfficer =>
          have same := onSlot.slotFound
          rw [found] at same
          cases same
          simp [Slot.requiresLogin, layout, noUser, noOfficer] at heldRequires

theorem step (required : slot.requiresLogin = true) (wellFormed : WellFormed state)
    (settled : PinsSettled host id slot.directory slot.legacyLayout state slot.pin)
    (input : Call × Oracle) (noPin : GivesNoPin id slot.pin state input) :
    Intact id slot start (loadedObjects host loaded state input)
      (HsmSimulator.step host state input).1 := by
  obtain ⟨call, oracle⟩ := input
  cases isOpen : state.initialized with
  | false =>
      by_cases starts : call = .cInitialize false
      · subst starts
        exact intact.initialization isOpen settled
      · obtain ⟨same, failed⟩ | ⟨isStart, _⟩ := @step_closed_cases host oracle state isOpen call
        · have stays : loadedObjects host loaded state (call, oracle) = loaded := by
            unfold loadedObjects
            split
            · rw [if_neg failed]
            · rfl
          rw [stays, same]
          exact intact
        · exact (starts isStart).elim
  | true =>
      obtain ⟨held, found, pins, heldRequires, nobody⟩ := intact.heldNow required settled isOpen
      have stays : loadedObjects host loaded state (call, oracle) = loaded := by
        unfold loadedObjects
        split
        · rename_i hasReserved isCall
          dsimp only at isCall
          subst isCall
          rw [if_neg]
          simp [HsmSimulator.step, Call.needsInitialization, service, cInitialize, isOpen]
        · rfl
      rw [stays]
      rw [← pins] at noPin
      obtain ⟨_, closes, sameDisk, empty⟩ | kept :=
        slotKept_step wellFormed found heldRequires nobody isOpen noPin
      · constructor
        · intro path below
          rw [sameDisk]
          exact intact.files path below
        · intro other otherFound
          have stillOpen := (wellFormed.step (call, oracle)).initialized_of_slot otherFound
          rw [closes] at stillOpen
          contradiction
        · intro stillOpen
          rw [closes] at stillOpen
          contradiction
        · intro handle object _ isFound
          rw [empty] at isFound
          contradiction
      · exact intact.kept isOpen found kept

end Intact

/-- A successful initialisation has the PINs of the files. -/
theorem pinsSettled_of_started {oracle : Oracle}
    (started : (step host state (.cInitialize false, oracle)).2.rv = .ok)
    (found : (step host state (.cInitialize false, oracle)).1.findSlot id = some slot) :
    PinsSettled host id slot.directory slot.legacyLayout
      (step host state (.cInitialize false, oracle)).1 slot.pin ∧ slot.loggedInUser = none := by
  cases isOpen : state.initialized with
  | true => simp [step, Call.needsInitialization, service, cInitialize, isOpen] at started
  | false =>
      have initialization : Initialization host oracle state
          (step host state (.cInitialize false, oracle)) :=
        cInitialize_initialization host oracle isOpen
      generalize step host state (.cInitialize false, oracle) = result at *
      cases initialization with
      | failed _ _ _ _ _ _ _ _ => contradiction
      | succeeded prepared discovered loaded =>
          refine ⟨pinsSettled_of_loaded prepared discovered loaded found, ?_⟩
          rw [State.findSlot, loaded.slots_eq] at found
          obtain ⟨_, _, _, isLoaded⟩ := discovered.origin id slot found
          exact isLoaded.nobody

end

/-- Where the files of a slot hold its PINs, it requires a login and nobody is logged in, every
sequence of calls that gives none of its PINs leaves it intact. -/
theorem intact_without_pin (host : Host) (start : State) (reachable : Reachable host start)
    (id : Nat) (slot : Slot) (found : start.findSlot id = some slot)
    (required : slot.requiresLogin = true) (nobody : slot.loggedInUser = none)
    (settled : PinsSettled host id slot.directory slot.legacyLayout start slot.pin)
    (inputs : List (Call × Oracle))
    (noPin : Runs.Along (step host) (GivesNoPin id slot.pin) start inputs) :
    Intact id slot start
      (Runs.history (step host) (loadedObjects host) start.objects start inputs)
      (Runs.final (step host) start inputs) := by
  have initial : Intact id slot start start.objects start := by
    refine ⟨fun _ _ => rfl, ?_, fun _ _ _ _ _ => Iff.rfl, fun _ _ _ isFound => isFound⟩
    intro other otherFound
    rw [found] at otherFound
    cases otherFound
    exact ⟨rfl, rfl, nobody⟩
  have invariant := @Runs.history_invariant _ _ _ _ (step host) (loadedObjects host)
    (GivesNoPin id slot.pin)
    (fun state loaded => WellFormed state ∧
      PinsSettled host id slot.directory slot.legacyLayout state slot.pin ∧
        Intact id slot start loaded state)
    (fun state loaded input ⟨wellFormed, settled, intact⟩ noPin =>
      ⟨wellFormed.step input, intact.settled_step required wellFormed settled input noPin,
        intact.step required wellFormed settled input noPin⟩)
    start start.objects inputs ⟨reachable.wellFormed, settled, initial⟩ noPin
  exact invariant.2.2

/-- Calls that guess the PIN wrong, try to use the slot all the same, and start again. -/
def wrongGuesses : List (Call × Oracle) :=
  plainRun [.openSession 1 6 true, .login 1 1 (.bytes [50]), aesKey 1,
    .setPin 1 (.bytes [51]) (.bytes [52]), .cFinalize false, .cInitialize false]

theorem intact_without_pin_guesses :
    let start := (step .plain (.loaded guardedRoot) (.cInitialize false, .plain)).1
    ∃ slot, start.findSlot 1 = some slot ∧ slot.pin .user = some [49] ∧
      Intact 1 slot start
        (Runs.history (step .plain) (loadedObjects .plain) start.objects start wrongGuesses)
        (Runs.final (step .plain) start wrongGuesses) := by
  intro start
  have isSlot : ∃ slot, start.findSlot 1 = some slot ∧ slot.pin .user = some [49] ∧
      slot.pin .so = none ∧ slot.requiresLogin = true := by
    decide
  obtain ⟨slot, found, isPin, noOfficer, required⟩ := isSlot
  obtain ⟨settled, nobody⟩ := @pinsSettled_of_started .plain (.loaded guardedRoot) 1 slot .plain
    (by decide) found
  refine ⟨slot, found, isPin, ?_⟩
  refine intact_without_pin .plain start ⟨guardedRoot, [_], rfl⟩ 1 slot found required nobody
    settled wrongGuesses ?_
  have foreign (value : Bytes) (other : value ≠ [49]) (role : UserType) :
      slot.pin role ≠ some value := by
    intro isValue
    cases role with
    | so =>
        rw [noOfficer] at isValue
        contradiction
    | user =>
        rw [isPin] at isValue
        exact other (Option.some.inj isValue).symm
  refine ⟨?_, ?_, ?_, ?_, ?_, ?_, trivial⟩
  · intro _ _ given
    cases given
  · intro role pin given
    simp only [Call.givenPin, Option.bind_eq_some_iff, Option.map_eq_some_iff,
      Prod.mk.injEq] at given
    obtain ⟨_, _, _, _, _, _, rfl⟩ := given
    exact foreign [50] (by decide) role
  · intro _ _ given
    cases given
  · intro role pin given
    simp only [Call.givenPin, Option.map_eq_some_iff, Prod.mk.injEq] at given
    obtain ⟨_, _, _, _, rfl⟩ := given
    exact foreign [51] (by decide) role
  · intro _ _ given
    cases given
  · intro _ _ given
    cases given

end HsmSimulator
