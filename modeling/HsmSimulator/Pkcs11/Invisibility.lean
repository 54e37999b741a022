import HsmSimulator.Pkcs11.AllOrNothing
import HsmSimulator.Pkcs11.Login
import HsmSimulator.Pkcs11.SlotChanges
import HsmSimulator.Pkcs11.UnreadFiles
import HsmSimulator.Pkcs11.ViewCalls

/-!
# Protected objects are invisible without a USER login

Two states that differ in the contents of protected objects of one slot only, in memory and
on the disk, give the same responses to every sequence of calls up to `C_Finalize`, as long
as USER does not log in there.
-/

namespace HsmSimulator

/-- The slot requires a login, and USER is not logged in. -/
def State.Guards (state : State) (slotId : Nat) : Prop :=
  ∀ slot, state.findSlot slotId = some slot →
    slot.requiresLogin = true ∧ slot.loggedInUser ≠ some .user

/-- Two objects of the slot that differ in what is protected only. -/
structure HiddenPair (slotId : Nat) (first second : Object) : Prop where
  mine : first.slotId = slotId
  concealed : Concealed first second

/-- The states are equal but for what is protected of objects of the slot.  The same files
are there, but the content of a file may be another one. -/
structure SameButHidden (slotId : Nat) (left right : State) : Prop where
  frame : right = (left.withObjects right.objects).withDisk right.disk
  files : SamePresence left.disk right.disk
  objects : ∀ handle, left.objects.get? handle = right.objects.get? handle ∨
    ∃ first second, left.objects.get? handle = some first ∧
      right.objects.get? handle = some second ∧ HiddenPair slotId first second

/-- The call is no successful login as USER on the slot. -/
def NoUserLogin (host : Host) (slotId : Nat) (state : State) (input : Call × Oracle) : Prop :=
  ∀ sessionHandle userType pin session, input.1 = .login sessionHandle userType pin →
    UserType.ofNumber userType = some .user → state.findSession sessionHandle = some session →
    session.slotId = slotId → (step host state input).2.rv ≠ .ok

/-- The call does not open a closed module. -/
def NotReopened (state : State) (input : Call × Oracle) : Prop :=
  ∀ hasReserved, input.1 = .cInitialize hasReserved → state.initialized = true

/-- The states of two runs: as long as something is hidden, the slot guards it. -/
structure Related (slotId : Nat) (left right : State) : Prop where
  wellFormed : WellFormed left
  otherWellFormed : WellFormed right
  same : SameButHidden slotId left right
  guarded : left.objects = right.objects ∨ left.Guards slotId

section

variable {slotId : Nat} {left right : State}

theorem State.Guards.denies {state : State} (guards : state.Guards slotId) :
    state.Denies slotId := by
  intro slot found
  rcases guards slot found with ⟨required, notUser⟩
  simp [Slot.grantsAccess, required, notUser]

/-- A slot to which every call that comes in is addressed. -/
theorem Call.exists_on (call : Call) (state : State) (slotId : Nat) :
    ∃ addressed, call.On state addressed := by
  cases onSession : call.session? with
  | none =>
      cases named : call.slot? with
      | none =>
          refine ⟨slotId, ⟨?_, ?_⟩⟩
          · intro sessionHandle isSession
            rw [onSession] at isSession
            contradiction
          · intro other isNamed
            rw [named] at isNamed
            contradiction
      | some addressed =>
          refine ⟨addressed, ⟨?_, ?_⟩⟩
          · intro sessionHandle isSession
            rw [onSession] at isSession
            contradiction
          · intro other isNamed
            rw [named] at isNamed
            cases isNamed
            rfl
  | some sessionHandle =>
      have noSlot (other : Nat) (isNamed : call.slot? = some other) (addressed : Nat) :
          other = addressed := by
        cases call <;> contradiction
      cases found : state.findSession sessionHandle with
      | none =>
          refine ⟨slotId, ⟨?_, fun other isNamed => noSlot other isNamed slotId⟩⟩
          intro other isSession session sessionFound
          rw [onSession] at isSession
          cases isSession
          rw [found] at sessionFound
          contradiction
      | some session =>
          refine ⟨session.slotId, ⟨?_, fun other isNamed => noSlot other isNamed session.slotId⟩⟩
          intro other isSession stored storedFound
          rw [onSession] at isSession
          cases isSession
          rw [found] at storedFound
          cases storedFound
          rfl

/-- What the registry is like does not depend on the files. -/
theorem WellFormed.of_withDisk {state : State} {disk : FileSystem}
    (wellFormed : WellFormed (state.withDisk disk)) : WellFormed state where
  closed := wellFormed.closed
  counters := wellFormed.counters
  slotKey := wellFormed.slotKey
  sessionKey := wellFormed.sessionKey
  objectKey := wellFormed.objectKey
  sessionSlot := wellFormed.sessionSlot
  objectSlot := wellFormed.objectSlot
  sessionObject := wellFormed.sessionObject
  tokenObject := wellFormed.tokenObject
  layout := wellFormed.layout
  pending := wellFormed.pending

/-- No slot can tell related states apart: others do not see the objects, and the slot
denies the access to them. -/
theorem Related.view (related : Related slotId left right) (addressed : Nat) :
    SameView addressed left right.objects := by
  have otherWellFormed := related.otherWellFormed
  rw [related.same.frame] at otherWellFormed
  refine ⟨related.wellFormed, otherWellFormed.of_withDisk, fun handle => ?_⟩
  rcases related.guarded with same | guards
  · rw [same]
    exact .same
  · rcases related.same.objects handle with same | ⟨first, second, found, otherFound, hidden⟩
    · rw [same]
      exact .same
    · rw [found, otherFound]
      by_cases isSlot : slotId = addressed
      · subst isSlot
        exact .concealed guards.denies hidden.concealed
      · refine .foreign ?_ ?_
        · rintro object ⟨⟩
          rw [hidden.mine]
          exact isSlot
        · rintro object ⟨⟩
          rw [← slotId_eq_of_shape hidden.concealed.shape, hidden.mine]
          exact isSlot

/-- A slot guards its objects until USER logs in or the module is finalised. -/
theorem State.Guards.step {host : Host} {state : State} (guards : state.Guards slotId)
    (wellFormed : WellFormed state) {input : Call × Oracle}
    (noLogin : NoUserLogin host slotId state input) {slot : Slot}
    (isSlot : state.findSlot slotId = some slot) :
    (step host state input).1.initialized = false ∨
      (step host state input).1.Guards slotId := by
  rcases input with ⟨call, oracle⟩
  have effect : Effect host oracle state call (HsmSimulator.step host state (call, oracle)) :=
    step_effect wellFormed call
  rcases guards slot isSlot with ⟨required, notUser⟩
  rcases effect.slotChange wellFormed isSlot with ⟨_, closed, _⟩ | ⟨changed, found, change⟩
  · exact Or.inl closed
  · right
    intro other otherFound
    rw [found] at otherFound
    cases otherFound
    refine ⟨change.requiresLogin required, ?_⟩
    unfold NoUserLogin at noLogin
    generalize (HsmSimulator.step host state (call, oracle)).2.rv = rv at change noLogin
    cases change with
    | kept => exact notUser
    | loggedOut => simp [Slot.loggedOut]
    | @loggedIn sessionHandle userType pin session _ role guard isRole =>
        intro isUser
        cases isUser
        have mine : session.slotId = slotId := by
          rw [← wellFormed.slotKey _ _ isSlot]
          exact (wellFormed.slotKey _ _ guard.slotFound).symm
        exact noLogin sessionHandle userType pin session rfl isRole guard.sessionFound mine rfl
    | @pinChanged _ _ _ _ role _ _ _ _ _ _ _ =>
        cases role <;> simpa [Slot.withPin] using notUser

/-- Related states answer alike and stay related: the tables look the same to the call, and
the files are not read. -/
theorem Related.step {host : Host} (related : Related slotId left right) (input : Call × Oracle)
    (noLogin : NoUserLogin host slotId left input) (notReopened : NotReopened left input) :
    (step host left input).2 = (step host right input).2 ∧
      Related slotId (step host left input).1 (step host right input).1 := by
  rcases input.1.exists_on left slotId with ⟨addressed, on⟩
  have alike := step_alike (related.view addressed) host on
  have unread := @step_contents host input.2 (left.withObjects right.objects) right.disk
    related.same.files input.1 notReopened
  rw [← related.same.frame] at unread
  have wellFormed := @WellFormed.step host left related.wellFormed input
  have otherWellFormed := @WellFormed.step host right related.otherWellFormed input
  have equal (same : left.objects = right.objects) :
      (HsmSimulator.step host (left.withObjects right.objects) input).1.objects =
        (HsmSimulator.step host left input).1.objects := by
    rw [← same]
    rfl
  change SameButContents (HsmSimulator.step host (left.withObjects right.objects) input)
    (HsmSimulator.step host right input) at unread
  have kept : (HsmSimulator.step host left input).1.initialized = false ∨
      left.objects = right.objects ∨ (HsmSimulator.step host left input).1.Guards slotId := by
    rcases related.guarded with same | guards
    · exact Or.inr (Or.inl same)
    · cases isSlot : left.findSlot slotId with
      | some slot =>
          rcases guards.step related.wellFormed noLogin isSlot with closed | stays
          · exact Or.inl closed
          · exact Or.inr (Or.inr stays)
      | none =>
          -- Without the slot there is no object of it.
          refine Or.inr (Or.inl (OrderedMap.ext_get? fun handle => ?_))
          rcases related.same.objects handle with same | ⟨first, _, found, _, hidden⟩
          · exact same
          · rcases related.wellFormed.objectSlot handle first found with ⟨slot, slotFound⟩
            rw [hidden.mine, isSlot] at slotFound
            contradiction
  generalize HsmSimulator.step host left input = newLeft at *
  generalize HsmSimulator.step host (left.withObjects right.objects) input = middle at *
  generalize HsmSimulator.step host right input = newRight at *
  have isMiddle := alike.frame
  have isRight := unread.frame
  have sameObjects : newRight.1.objects = middle.1.objects := by rw [isRight]; rfl
  have sameDisk : middle.1.disk = newLeft.1.disk := by rw [isMiddle]; rfl
  have files := unread.files
  rw [sameDisk] at files
  refine ⟨?_, wellFormed, otherWellFormed, ⟨?_, files, fun handle => ?_⟩, ?_⟩
  · rw [isRight, isMiddle]
  · rw [sameObjects]
    calc newRight.1 = middle.1.withDisk newRight.1.disk := congrArg Prod.fst isRight
      _ = (newLeft.1.withObjects middle.1.objects).withDisk newRight.1.disk := by rw [isMiddle]; rfl
  · rw [sameObjects]
    rcases alike.objects handle with same | ⟨leftKept, rightKept⟩
    · exact Or.inl same
    · rw [leftKept, rightKept]
      exact related.same.objects handle
  · rcases kept with closed | same | stays
    · have otherClosed : newRight.1.initialized = false := by
        rw [isRight, isMiddle]
        exact closed
      left
      rw [(wellFormed.closed closed).2.1, (otherWellFormed.closed otherClosed).2.1]
    · left
      rw [sameObjects, equal same]
    · exact Or.inr stays

end

/-- Two-run noninterference: states that are equal but for what is protected at a slot that
requires a login give the same responses to every sequence of calls up to `C_Finalize` in
which USER does not log in there. -/
theorem protected_objects_invisible (host : Host) (left right : State)
    (reachable : Reachable host left) (otherReachable : Reachable host right)
    (slotId : Nat) (slot : Slot) (found : left.findSlot slotId = some slot)
    (required : slot.requiresLogin = true) (notUser : slot.loggedInUser ≠ some .user)
    (same : SameButHidden slotId left right) (inputs : List (Call × Oracle))
    (noLogin : Runs.Along (step host) (NoUserLogin host slotId) left inputs)
    (notReopened : Runs.Along (step host) NotReopened left inputs) :
    Runs.outputs (step host) left inputs = Runs.outputs (step host) right inputs := by
  have guards : left.Guards slotId := by
    intro stored storedFound
    rw [found] at storedFound
    cases storedFound
    exact ⟨required, notUser⟩
  have related : Related slotId left right :=
    ⟨reachable.wellFormed, otherReachable.wellFormed, same, Or.inr guards⟩
  have run := @Runs.related_run State (Call × Oracle) Response (step host)
    (fun state input => NoUserLogin host slotId state input ∧ NotReopened state input)
    (Related slotId) (fun _ _ input pair quiet => pair.step input quiet.1 quiet.2) left right
    inputs related (noLogin.and notReopened)
  exact run.1

/-- The plain environment with random bytes that are all the same. -/
def Oracle.constant (byte : UInt8) : Oracle :=
  { Oracle.plain with randomBytes := fun _ => some fun _ => byte }

/-- A slot with a PIN after USER created a key of one random byte and logged out. -/
def guardedKey (byte : UInt8) : State :=
  Runs.final (step .plain) (.loaded guardedRoot)
    (plainRun [.cInitialize false, .openSession 1 6 true, .login 1 1 (.bytes [49])] ++
      [(aesKey 1, .constant byte), (.logout 1, .plain)])

theorem sameButHidden_guardedKey : SameButHidden 1 (guardedKey 7) (guardedKey 8) := by
  have table (byte : UInt8) (isByte : byte = 7 ∨ byte = 8) : ∃ object,
      (guardedKey byte).objects = (∅ : OrderedMap Nat Object).insert 1 object := by
    rcases isByte with rfl | rfl
    · exact ⟨((guardedKey 7).objects.get? 1).getD .initial, by decide⟩
    · exact ⟨((guardedKey 8).objects.get? 1).getD .initial, by decide⟩
  have hidden : ∃ first, (guardedKey 7).objects.get? 1 = some first ∧ first.slotId = 1 ∧
      isProtectedObject first = true ∧ ∃ second, (guardedKey 8).objects.get? 1 = some second ∧
        isProtectedObject second = true ∧ first.shape = second.shape := by
    decide
  rcases hidden with ⟨first, found, mine, guarded, second, otherFound, otherGuarded, shape⟩
  refine ⟨by decide, .of_keys (by decide) (by decide), fun handle => ?_⟩
  by_cases isKey : handle = 1
  · subst isKey
    exact Or.inr ⟨first, second, found, otherFound, mine, guarded, otherGuarded, shape⟩
  · rcases table 7 (Or.inl rfl) with ⟨_, left⟩
    rcases table 8 (Or.inr rfl) with ⟨_, right⟩
    rw [left, right, OrderedMap.get?_insert_of_ne _ isKey, OrderedMap.get?_insert_of_ne _ isKey]
    exact Or.inl rfl

/-- Searching and reading shows nothing of the key that is stored. -/
theorem protected_objects_invisible_guardedKey :
    (guardedKey 7).disk ≠ (guardedKey 8).disk ∧
      Runs.outputs (step .plain) (guardedKey 7) (plainRun [.findObjectsInit 1 (.entries []),
          .getAttributeValue 1 1 (.entries []), .destroyObject 1 1, .cFinalize false]) =
        Runs.outputs (step .plain) (guardedKey 8) (plainRun [.findObjectsInit 1 (.entries []),
          .getAttributeValue 1 1 (.entries []), .destroyObject 1 1, .cFinalize false]) := by
  have found : ∃ slot, (guardedKey 7).findSlot 1 = some slot ∧ slot.requiresLogin = true ∧
      slot.loggedInUser ≠ some .user := by
    decide
  rcases found with ⟨slot, found, required, notUser⟩
  refine ⟨by decide, protected_objects_invisible .plain (guardedKey 7) (guardedKey 8) ⟨_, _, rfl⟩
    ⟨_, _, rfl⟩ 1 slot found required notUser sameButHidden_guardedKey _ ?_ ?_⟩
  · simp [plainRun, Runs.Along, NoUserLogin]
  · simp [plainRun, Runs.Along, NotReopened]

end HsmSimulator
