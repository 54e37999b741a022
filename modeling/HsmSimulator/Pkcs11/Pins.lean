import HsmSimulator.Pkcs11.Isolation
import HsmSimulator.Pkcs11.SlotChanges

/-!
# PINs change only with proof

The PIN of a role changes, in memory or in its file, only where the security officer sets
the USER PIN, where the old PIN was given, or in the legacy slot that has no PIN at all.
-/

namespace HsmSimulator

open Checks FileSystem

/-- The PIN of the role changes, in memory or in its file. -/
def PinChanges (before after : State) (id : Nat) (role : UserType) : Prop :=
  ∃ slot, before.findSlot id = some slot ∧
    ((∃ changed, after.findSlot id = some changed ∧ changed.pin role ≠ slot.pin role) ∨
      after.disk.content (slot.pinPath role) ≠ before.disk.content (slot.pinPath role))

/-- The session is a read-write session of the slot. -/
structure ReadWriteOn (state : State) (sessionHandle id : Nat) (slot : Slot) : Prop where
  slotFound : state.findSlot id = some slot
  session : ∃ session, state.findSession sessionHandle = some session ∧ session.slotId = id ∧
    session.isReadWrite = true

/-- What entitles a call to change the PIN of a role. -/
inductive PinProof (state : State) (id : Nat) (role : UserType) : Call → Prop
  | officer {sessionHandle : Nat} {slot : Slot} {pin : Buffer} :
      ReadWriteOn state sessionHandle id slot → slot.loggedInUser = some .so → role = .user →
      PinProof state id role (.initPin sessionHandle pin)
  | oldPin {sessionHandle : Nat} {slot : Slot} {oldPin newPin : Buffer} :
      ReadWriteOn state sessionHandle id slot → role = slot.loggedInUser.getD .user →
      slot.pin role = some oldPin.content → oldPin.length = oldPin.content.length →
      PinProof state id role (.setPin sessionHandle oldPin newPin)
  | legacy {sessionHandle : Nat} {slot : Slot} {oldPin newPin : Buffer} :
      ReadWriteOn state sessionHandle id slot → role = slot.loggedInUser.getD .user →
      slot.legacyLayout = true → slot.userPin = none → slot.soPin = none →
      PinProof state id role (.setPin sessionHandle oldPin newPin)

/-- What one call may do to PINs. -/
structure PinsProtected (host : Host) (state : State) (input : Call × Oracle) : Prop where
  proof : ∀ id role, PinChanges state (step host state input).1 id role →
    PinProof state id role input.1
  officer : ∀ id, PinChanges state (step host state input).1 id .so →
    ∃ slot, state.findSlot id = some slot ∧ slot.loggedInUser = some .so
  failed : (step host state input).2.rv ≠ .ok →
    ∀ id role, ¬PinChanges state (step host state input).1 id role
  others : ∀ id other, input.1.MadeOn state id → other ≠ id →
    ∀ role, ¬PinChanges state (step host state input).1 other role

/-! ## The call that changes a PIN -/

/-- The call passed the checks of a PIN call for the role of the slot. -/
structure PinGranted (state : State) (call : Call) (rv : Rv) (id : Nat) (role : UserType) :
    Prop where
  succeeded : rv = .ok
  request : ∃ sessionHandle session slot pin, call.session? = some sessionHandle ∧
    state.findSession sessionHandle = some session ∧ session.isReadWrite = true ∧
    session.slotId = id ∧ state.findSlot id = some slot ∧
    call.pinRequest state = some (slot, role, pin)

theorem pinFile_inj {role other : UserType} (same : pinFile role = pinFile other) :
    role = other := by
  cases role <;> cases other <;> first | rfl | exact absurd same (by decide)

theorem pin_withPin_of_ne (slot : Slot) {role other : UserType} (different : role ≠ other)
    (value : Bytes) : (slot.withPin other value).pin role = slot.pin role := by
  cases role <;> cases other <;> first | rfl | exact (different rfl).elim

theorem pinPath_ne_pinTemporary (slot : Slot) (role other : UserType) :
    slot.pinPath role ≠ slot.pinTemporary other := by
  rw [Slot.pinTemporary, Slot.pinPath, Slot.pinPath, Path.extend_child]
  intro same
  have names := (Path.child_inj.mp same).2
  revert names
  cases role <;> cases other <;> decide

section

variable {host : Host} {oracle : Oracle} {state : State}

/-- A PIN in memory changes only by a PIN call that succeeds. -/
theorem Effect.memoryPin {call : Call} {result : State × Response} (wellFormed : WellFormed state)
    (effect : Effect host oracle state call result) {id : Nat} {role : UserType}
    {slot changed : Slot}
    (found : state.findSlot id = some slot) (after : result.1.findSlot id = some changed)
    (different : changed.pin role ≠ slot.pin role) :
    PinGranted state call result.2.rv id role := by
  have slotKey := wellFormed.slotKey id slot found
  rcases effect.slotChange wellFormed found with ⟨_, closed, _⟩ | ⟨same, sameFound, change⟩
  · have stillOpen := (wellFormed.effect effect).initialized_of_slot after
    rw [closed] at stillOpen
    contradiction
  · rw [after] at sameFound
    cases sameFound
    generalize result.2.rv = rv at change ⊢
    cases change with
    | kept => exact (different rfl).elim
    | loggedOut => exact absurd (by cases role <;> rfl) different
    | loggedIn _ _ => exact absurd (by cases role <;> rfl) different
    | @pinChanged _ sessionHandle session _ other pin onSession sessionFound readWrite sameSlot
        asked _ =>
        by_cases same : role = other
        · subst same
          exact ⟨rfl, sessionHandle, session, slot, pin, onSession, sessionFound, readWrite,
            sameSlot.trans slotKey, found, asked⟩
        · exact (different (pin_withPin_of_ne slot same _)).elim

/-- Files in the key directories are no PIN files. -/
theorem WellFormed.pin_kept (wellFormed : WellFormed state) {id : Nat} {slot : Slot}
    (found : state.findSlot id = some slot) (role : UserType) {other : Nat} {owner : Slot}
    {touched : List Path} {disk : FileSystem} (ownerFound : state.findSlot other = some owner)
    (agrees : AgreesOutside touched state.disk disk)
    (stored : ∀ path ∈ touched, IsStored owner.directory path) :
    disk.content (slot.pinPath role) = state.disk.content (slot.pinPath role) := by
  have slotKey := wellFormed.slotKey id slot found
  rw [← slotKey] at found
  apply agrees.content
  intro member
  exact wellFormed.pin_not_stored found ownerFound (Or.inl rfl) (stored _ member)

/-- A PIN file changes only by a PIN call that succeeds. -/
theorem Effect.storedPin {call : Call} {result : State × Response} (wellFormed : WellFormed state)
    (effect : Effect host oracle state call result) {id : Nat} {role : UserType} {slot : Slot}
    (found : state.findSlot id = some slot)
    (different : result.1.disk.content (slot.pinPath role) ≠
      state.disk.content (slot.pinPath role)) :
    PinGranted state call result.2.rv id role := by
  have keyPathOf {sessionHandle handle : Nat} {object : Object}
      (isObject : state.findObject sessionHandle handle = some object)
      (token : object.ownerSession = 0) :
      ∃ other owner, state.findSlot other = some owner ∧
        IsKeyPath owner.directory object.path := by
    rcases State.findObject_eq_some_iff.mp isObject with ⟨_, _, stored, _⟩
    rcases wellFormed.tokenObject handle object stored token with ⟨_, _, owner, ownerFound, keyPath⟩
    exact ⟨_, owner, ownerFound, keyPath⟩
  cases effect with
  | @pinChanged _ sessionHandle session owner other pin onSession sessionFound readWrite slotFound
      asked _ =>
      change ((state.disk.writeFile (owner.pinPath other) pin.content).content
        (slot.pinPath role)) ≠ _ at different
      rw [content_writeFile] at different
      split at different
      · rename_i samePath
        have names := Path.child_inj.mp samePath
        have sameSlot := wellFormed.layout.distinct _ _ _ _ found slotFound names.1
        rcases pinFile_inj names.2 with rfl
        subst sameSlot
        rw [found] at slotFound
        cases slotFound
        exact ⟨rfl, sessionHandle, session, slot, pin, onSession, sessionFound, readWrite, rfl,
          found, asked⟩
      · exact (different rfl).elim
  | @pinLeft _ _ session owner other _ left _ _ slotFound _ _ =>
      change ((state.disk.writeFile (owner.pinTemporary other) left).content
        (slot.pinPath role)) ≠ _ at different
      rw [content_writeFile] at different
      split at different
      · rename_i samePath
        have names := samePath
        rw [Slot.pinTemporary, Slot.pinPath, Slot.pinPath, Path.extend_child] at names
        have sameSlot := wellFormed.layout.distinct _ _ _ _ found slotFound
          (Path.child_inj.mp names).1
        subst sameSlot
        rw [found] at slotFound
        cases slotFound
        exact (pinPath_ne_pinTemporary slot role other samePath).elim
      · exact (different rfl).elim
  | tokenObjectChanged change token _ _ =>
      rcases keyPathOf change.found token with ⟨_, owner, ownerFound, keyPath⟩
      refine (different (wellFormed.pin_kept found role ownerFound
        ((AgreesOutside.refl _ _).writeFile (List.mem_singleton.mpr rfl) _) ?_)).elim
      intro path member
      rw [List.mem_singleton.mp member]
      exact keyPath.metadata_stored
  | metadataLeft change token _ =>
      rcases keyPathOf change.found token with ⟨_, owner, ownerFound, keyPath⟩
      refine (different (wellFormed.pin_kept found role ownerFound
        ((AgreesOutside.refl _ _).writeFile (List.mem_singleton.mpr rfl) _) ?_)).elim
      intro path member
      rw [List.mem_singleton.mp member]
      exact keyPath.temporary_stored
  | @keyFileDestroyed _ _ object disk _ destruction token removed =>
      rcases keyPathOf destruction.found token with ⟨_, owner, ownerFound, keyPath⟩
      have agrees : AgreesOutside [object.path, Metadata.path object.path] state.disk disk :=
        keyFileRemoval_agrees removed (by simp) (by simp)
      refine (different (wellFormed.pin_kept found role ownerFound agrees ?_)).elim
      have beside := keyPath.metadata_stored
      have file := keyPath.stored
      simp [beside, file]
  | creation _ _ ends =>
      cases ends with
      | rejected _ _ => exact (different rfl).elim
      | performed _ guard made creation =>
          rcases creation.agrees with ⟨agrees, session⟩
          cases token : NewKey.token _ with
          | false =>
              rw [session token] at different
              exact (different rfl).elim
          | true =>
              have keyPath := made.keyPath (Or.inl token)
              refine (different (wellFormed.pin_kept found role guard.slotFound agrees ?_)).elim
              have file := keyPath.stored
              have beside := keyPath.metadata_stored
              have temporary := keyPath.temporary_stored
              simp [NewKey.files, file, beside, temporary]
  | initializing closed =>
      rw [wellFormed.initialized_of_slot found] at closed
      contradiction
  | _ => exact (different rfl).elim

theorem Effect.pinGranted {call : Call} {result : State × Response} (wellFormed : WellFormed state)
    (effect : Effect host oracle state call result) {id : Nat} {role : UserType}
    (changes : PinChanges state result.1 id role) : PinGranted state call result.2.rv id role := by
  rcases changes with ⟨slot, found, ⟨changed, after, different⟩ | different⟩
  · exact effect.memoryPin wellFormed found after different
  · exact effect.storedPin wellFormed found different

/-! ## The proof it was given -/

theorem initPinChecks_of_ok {sessionHandle : Nat} {pin : Buffer}
    (succeeded : (initPin state oracle sessionHandle pin).2.rv = .ok) :
    ∃ session slot, initPinChecks state sessionHandle = .ok (session, slot) := by
  unfold initPin at succeeded
  cases checks : initPinChecks state sessionHandle with
  | error code =>
      rw [checks] at succeeded
      change code = .ok at succeeded
      subst succeeded
      exact (initPinChecks_ne_ok _ checks).elim
  | ok result => exact ⟨result.1, result.2, rfl⟩

theorem setPinChecks_of_ok {sessionHandle : Nat} {oldPin newPin : Buffer}
    (succeeded : (setPin state oracle sessionHandle oldPin newPin).2.rv = .ok) :
    ∃ session slot role, setPinChecks state sessionHandle oldPin newPin =
      .ok (session, slot, role) := by
  unfold setPin at succeeded
  cases checks : setPinChecks state sessionHandle oldPin newPin with
  | error code =>
      rw [checks] at succeeded
      change code = .ok at succeeded
      subst succeeded
      exact (setPinChecks_ne_ok _ _ _ checks).elim
  | ok result => exact ⟨result.1, result.2.1, result.2.2, rfl⟩

/-- A PIN that was accepted is the one of the role, or the legacy slot has none. -/
theorem acceptPin_eq_ok {slot : Slot} {role : UserType} {pin : Buffer}
    (accepted : acceptPin slot role pin = .ok ()) :
    slot.legacyLayout = true ∧ slot.userPin = none ∧ slot.soPin = none ∨
      slot.pin role = some pin.content ∧ pin.length = pin.content.length := by
  unfold acceptPin at accepted
  split at accepted
  · rename_i permissive
    rcases permissive with ⟨legacy, noLogin, _⟩
    left
    simp only [Slot.requiresLogin, Bool.or_eq_false_iff, Option.isSome_eq_false_iff,
      Option.isNone_iff_eq_none] at noLogin
    exact ⟨legacy, noLogin.1.2, noLogin.2⟩
  · right
    simp only [checkPin, bind_eq_ok_iff, require_eq_ok_iff, fetch_eq_ok_iff] at accepted
    rcases accepted with ⟨_, present, stored, isPin, same⟩
    refine ⟨by rw [isPin, same], ?_⟩
    cases pin with
    | null length =>
        simp only [Buffer.isMissing, ne_eq, decide_not, Bool.not_eq_false',
          decide_eq_true_eq] at present
        rw [Buffer.length, Buffer.content, present]
        rfl
    | bytes content => rfl

/-- A granted change of a PIN comes with a proof. -/
theorem PinGranted.proof {call : Call} (wellFormed : WellFormed state) {id : Nat} {role : UserType}
    (granted : PinGranted state call (step host state (call, oracle)).2.rv id role) :
    PinProof state id role call := by
  rcases granted with ⟨succeeded, sessionHandle, session, slot, pin, onSession, sessionFound,
    readWrite, sameSlot, slotFound, asked⟩
  have isOpen := wellFormed.initialized_of_session sessionFound
  have onSlot : ReadWriteOn state sessionHandle id slot :=
    ⟨slotFound, session, sessionFound, sameSlot, readWrite⟩
  have slotOf {stored : Slot} (slotOfSession : state.sessionSlot sessionHandle = some stored) :
      stored = slot := by
    rcases State.sessionSlot_eq_some_iff.mp slotOfSession with ⟨other, otherFound, storedFound⟩
    rw [sessionFound] at otherFound
    cases otherFound
    rw [sameSlot, slotFound] at storedFound
    exact (Option.some.inj storedFound).symm
  rw [step_of_open isOpen] at succeeded
  cases call with
  | initPin handle newPin =>
      cases onSession
      simp only [Call.pinRequest, Option.map_eq_some_iff, Prod.mk.injEq] at asked
      rcases asked with ⟨_, _, _, isUser, _⟩
      rcases initPinChecks_of_ok succeeded with ⟨_, stored, checks⟩
      rcases initPinChecks_eq_ok checks with ⟨checked, officer⟩
      rcases slotOf checked.slotOfSession with rfl
      exact .officer onSlot officer isUser.symm
  | setPin handle oldPin newPin =>
      cases onSession
      simp only [Call.pinRequest, Option.map_eq_some_iff, Prod.mk.injEq] at asked
      rcases asked with ⟨_, slotOfSession, rfl, isRole, _⟩
      rcases setPinChecks_of_ok succeeded with ⟨_, stored, other, checks⟩
      rcases setPinChecks_eq_ok checks with ⟨checked, rfl, accepted⟩
      rcases slotOf checked.slotOfSession with rfl
      rw [isRole] at accepted
      rcases acceptPin_eq_ok accepted with ⟨legacy, noUser, noOfficer⟩ | ⟨isPin, length⟩
      · exact .legacy onSlot isRole.symm legacy noUser noOfficer
      · exact .oldPin onSlot isRole.symm isPin length
  | _ => simp [Call.pinRequest] at asked

/-- The officer's PIN asks for the officer. -/
theorem PinProof.officerLoggedIn {call : Call} {id : Nat} (proof : PinProof state id .so call) :
    ∃ slot, state.findSlot id = some slot ∧ slot.loggedInUser = some .so := by
  have isOfficer {slot : Slot} (isRole : UserType.so = slot.loggedInUser.getD .user) :
      slot.loggedInUser = some .so := by
    cases login : slot.loggedInUser with
    | none => simp [login] at isRole
    | some role => simpa [login, eq_comm] using isRole
  cases proof with
  | officer _ _ isUser => contradiction
  | oldPin onSlot isRole _ _ => exact ⟨_, onSlot.slotFound, isOfficer isRole⟩
  | legacy onSlot isRole _ _ _ => exact ⟨_, onSlot.slotFound, isOfficer isRole⟩

end

/-! ## Runs -/

/-- A slot that requires a login requires it until the module is finalised. -/
theorem requiresLogin_step {host : Host} {state : State} (wellFormed : WellFormed state)
    {id : Nat} {input : Call × Oracle} (notFinal : input.1 ≠ .cFinalize false)
    (required : ∃ slot, state.findSlot id = some slot ∧ slot.requiresLogin = true) :
    ∃ slot, (step host state input).1.findSlot id = some slot ∧ slot.requiresLogin = true := by
  rcases required with ⟨slot, found, isRequired⟩
  have effect : Effect host input.2 state input.1 (step host state input) :=
    step_effect wellFormed input.1
  rcases effect.slotChange wellFormed found with ⟨final, _⟩ | ⟨changed, after, change⟩
  · exact (notFinal final).elim
  · exact ⟨changed, after, change.requiresLogin isRequired⟩

theorem pinsProtected {host : Host} {state : State} (wellFormed : WellFormed state)
    (input : Call × Oracle) : PinsProtected host state input := by
  rcases input with ⟨call, oracle⟩
  have effect : Effect host oracle state call (step host state (call, oracle)) :=
    step_effect wellFormed call
  constructor
  · intro id role changes
    exact (effect.pinGranted wellFormed changes).proof wellFormed
  · intro id changes
    exact ((effect.pinGranted wellFormed changes).proof wellFormed).officerLoggedIn
  · intro failed id role changes
    exact failed (effect.pinGranted wellFormed changes).succeeded
  · intro id other made different role changes
    have confined := effect.confined wellFormed made.on.1 made.on.2
    have untouched := confined.untouched wellFormed different
    rcases changes with ⟨slot, found, ⟨changed, after, newPin⟩ | newFile⟩
    · rw [untouched.slot, found] at after
      cases after
      exact newPin rfl
    · exact newFile (untouched.files slot _ found (pinPath_below slot role).1)

/-- PINs change only with proof, and a required login stays required. -/
theorem pins_change_with_proof (host : Host) (state : State) (reachable : Reachable host state) :
    (∀ input, PinsProtected host state input) ∧
      ∀ id slot inputs, state.findSlot id = some slot → slot.requiresLogin = true →
        Runs.Along (step host) (fun _ input => input.1 ≠ .cFinalize false) state inputs →
        ∃ changed, (Runs.final (step host) state inputs).findSlot id = some changed ∧
          changed.requiresLogin = true := by
  have wellFormed := reachable.wellFormed
  constructor
  · exact fun input => pinsProtected wellFormed input
  · intro id slot inputs found required notFinal
    have preserved (current : State) (input : Call × Oracle)
        (holds : WellFormed current ∧
          ∃ slot, current.findSlot id = some slot ∧ slot.requiresLogin = true)
        (allowed : input.1 ≠ .cFinalize false) :
        WellFormed (step host current input).1 ∧
          ∃ slot, (step host current input).1.findSlot id = some slot ∧
            slot.requiresLogin = true :=
      ⟨holds.1.step input, requiresLogin_step holds.1 allowed holds.2⟩
    exact (Runs.invariant_along preserved ⟨wellFormed, slot, found, required⟩ notFinal).2

/-- In the legacy slot without a PIN, anyone may set the USER PIN. -/
theorem pins_change_with_proof_legacy :
    PinProof plainSession 1 .user (.setPin 1 (.null 0) (.bytes [49])) := by
  have before : ∃ slot, plainSession.findSlot 1 = some slot ∧ slot.pin .user = none := by decide
  have after : ∃ slot, (step .plain plainSession
      (.setPin 1 (.null 0) (.bytes [49]), .plain)).1.findSlot 1 = some slot ∧
        slot.pin .user = some [49] := by decide
  rcases before with ⟨slot, found, noPin⟩
  rcases after with ⟨changed, changedFound, isPin⟩
  have isProtected := (pins_change_with_proof .plain plainSession ⟨_, _, rfl⟩).1
    (.setPin 1 (.null 0) (.bytes [49]), .plain)
  apply isProtected.proof 1 .user
  refine ⟨slot, found, Or.inl ⟨changed, changedFound, ?_⟩⟩
  rw [isPin, noPin]
  exact Option.some_ne_none _

end HsmSimulator
