import HsmSimulator.Pkcs11.TokenFiles

/-!
# Handles

A handle is issued when it enters its table.  Session handles are issued once in the
life of the module and object handles once between an initialisation and its
finalisation, and as long as a handle is in the table it names the same object.
-/

namespace HsmSimulator

open FileSystem

/-- Session handles that a call puts into the table. -/
def enteredSessions (host : Host) (state : State) (input : Call × Oracle) : List Nat :=
  (step host state input).1.sessions.keys.filter fun handle => (state.findSession handle).isNone

/-- Object handles that a call puts into the table. -/
def enteredObjects (host : Host) (state : State) (input : Call × Oracle) : List Nat :=
  (step host state input).1.objects.keys.filter fun handle => (state.objects.get? handle).isNone

/-- Session handles issued so far. -/
def issuedSessions (host : Host) (issued : List Nat) (state : State) (input : Call × Oracle) :
    List Nat :=
  issued ++ enteredSessions host state input

/-- Object handles issued since the registry was last empty. -/
def issuedObjects (host : Host) (issued : List Nat) (state : State) (input : Call × Oracle) :
    List Nat :=
  (if state.initialized then issued else []) ++ enteredObjects host state input

/-- What a step may do to the session handles: the counter does not fall, and a new
session has a handle from it on. -/
structure SessionsAdvance (before after : State) : Prop where
  counter : before.nextSessionHandle ≤ after.nextSessionHandle
  entered : ∀ handle session, after.findSession handle = some session →
    (∃ old, before.findSession handle = some old) ∨ before.nextSessionHandle ≤ handle

/-- An object after a step, where it was there before: label, id and policies may have
changed, and its key value is not protected less. -/
structure SameObject (before after : Object) : Prop where
  core : after.core = before.core
  keeps : KeepsProtection before after

/-- What a step may do to the object handles while the registry is open. -/
structure ObjectsAdvance (before after : State) : Prop where
  counter : before.nextObjectHandle ≤ after.nextObjectHandle
  entered : ∀ handle object, after.objects.get? handle = some object →
    (∃ old, before.objects.get? handle = some old ∧ SameObject old object) ∨
      before.nextObjectHandle ≤ handle

section

variable {state : State}

theorem SessionsAdvance.of_subset {next : State}
    (counter : next.nextSessionHandle = state.nextSessionHandle)
    (subset : ∀ handle session, next.findSession handle = some session →
      ∃ old, state.findSession handle = some old) : SessionsAdvance state next :=
  ⟨counter.ge, fun handle session found => Or.inl (subset handle session found)⟩

theorem SessionsAdvance.of_eq {next : State}
    (counter : next.nextSessionHandle = state.nextSessionHandle)
    (sessions : next.sessions = state.sessions) : SessionsAdvance state next := by
  apply SessionsAdvance.of_subset counter
  intro handle session found
  rw [State.findSession, sessions] at found
  exact ⟨session, found⟩

theorem SameObject.trans {first second third : Object} (earlier : SameObject first second)
    (later : SameObject second third) : SameObject first third :=
  ⟨later.core.trans earlier.core, earlier.keeps.trans later.keeps⟩

theorem ObjectsAdvance.trans {first second third : State} (earlier : ObjectsAdvance first second)
    (later : ObjectsAdvance second third) : ObjectsAdvance first third := by
  refine ⟨earlier.counter.trans later.counter, ?_⟩
  intro handle object found
  rcases later.entered handle object found with ⟨middle, middleFound, same⟩ | above
  · rcases earlier.entered handle middle middleFound with ⟨old, oldFound, sameOld⟩ | above
    · exact Or.inl ⟨old, oldFound, sameOld.trans same⟩
    · exact Or.inr above
  · exact Or.inr (earlier.counter.trans above)

theorem SameObject.of_change {sessionHandle handle : Nat} {attributes : Template}
    {object changed : Object}
    (change : AttributeChange state sessionHandle handle attributes object changed) :
    SameObject object changed :=
  ⟨change.core_eq, change.keeps⟩

end

variable {host : Host} {oracle : Oracle} {state : State} {call : Call} {result : State × Response}

theorem Effect.sessionsAdvance (effect : Effect host oracle state call result) :
    SessionsAdvance state result.1 := by
  cases effect with
  | quiet _ _ => exact .of_eq rfl rfl
  | @updated _ sessionHandle session changed _ _ found _ _ =>
      refine SessionsAdvance.of_subset rfl ?_
      intro handle stored storedFound
      rw [State.findSession_putSession] at storedFound
      split at storedFound
      · rename_i same
        rw [same]
        exact ⟨session, found⟩
      · exact ⟨stored, storedFound⟩
  | opened _ _ =>
      constructor
      · exact Nat.le_succ _
      · intro handle session found
        rw [State.findSession, OrderedMap.get?_insert] at found
        split at found
        · rename_i same
          exact Or.inr same.ge
        · exact Or.inl ⟨session, found⟩
  | closed _ _ =>
      refine SessionsAdvance.of_subset rfl ?_
      intro handle session found
      rw [State.findSession, State.dropSession, OrderedMap.get?_erase] at found
      split at found
      · contradiction
      · exact ⟨session, found⟩
  | closedLast _ _ _ =>
      refine SessionsAdvance.of_subset rfl ?_
      intro handle session found
      rw [State.endLogin, findSession_putSlot, State.findSession, State.dropSession,
        OrderedMap.get?_erase] at found
      split at found
      · contradiction
      · exact ⟨session, found⟩
  | closedAll _ =>
      refine SessionsAdvance.of_subset rfl ?_
      intro handle session found
      exact ⟨session, (OrderedMap.get?_eraseIf_eq_some_iff.mp found).1⟩
  | loggedIn _ _ => exact .of_eq rfl rfl
  | loggedOut _ _ _ =>
      refine SessionsAdvance.of_subset rfl ?_
      intro handle session found
      rw [State.findSession, State.purgeSlot, OrderedMap.get?_mapValues,
        Option.map_eq_some_iff] at found
      rcases found with ⟨old, oldFound, _⟩
      exact ⟨old, oldFound⟩
  | pinChanged _ _ _ _ _ _ => exact .of_eq rfl rfl
  | pinLeft _ _ _ _ _ => exact .of_eq rfl rfl
  | sessionObjectChanged _ _ => exact .of_eq rfl rfl
  | tokenObjectChanged _ _ _ _ => exact .of_eq rfl rfl
  | metadataLeft _ _ _ => exact .of_eq rfl rfl
  | sessionObjectDestroyed _ _ => exact .of_eq rfl rfl
  | keyFileDestroyed _ _ _ => exact .of_eq rfl rfl
  | creation _ _ ends =>
      rw [ends.frame]
      exact .of_eq rfl rfl
  | finalized =>
      refine SessionsAdvance.of_subset rfl ?_
      intro handle session found
      simp [State.findSession] at found
  | initializing closed =>
      have initialization := cInitialize_initialization host oracle closed
      generalize cInitialize host state oracle false = result at initialization ⊢
      cases initialization with
      | failed _ _ _ sessions counter _ _ _ => exact .of_eq counter sessions
      | succeeded _ _ loaded => exact .of_eq loaded.sessions_eq.2 loaded.sessions_eq.1

/-- An object after a call is one that was there, one whose attributes the call changed, or
a new one. -/
theorem Effect.objectOrigin (wellFormed : WellFormed state)
    (effect : Effect host oracle state call result) (isOpen : state.initialized = true)
    {handle : Nat} {object : Object} (found : result.1.objects.get? handle = some object) :
    state.objects.get? handle = some object ∨
      (∃ sessionHandle attributes old, call = .setAttributeValue sessionHandle handle attributes ∧
        result.2.rv = .ok ∧ AttributeChange state sessionHandle handle attributes old object) ∨
      state.nextObjectHandle ≤ handle := by
  have erased {drop : Nat → Object → Bool}
      (found : (state.objects.eraseIf drop).get? handle = some object) :
      state.objects.get? handle = some object :=
    (OrderedMap.get?_eraseIf_eq_some_iff.mp found).1
  have inserted {target : Nat} {changed : Object}
      (found : (state.objects.insert target changed).get? handle = some object) :
      state.objects.get? handle = some object ∨ target = handle ∧ changed = object := by
    rw [OrderedMap.get?_insert] at found
    split at found
    · rename_i same
      exact Or.inr ⟨same.symm, Option.some.inj found⟩
    · exact Or.inl found
  cases effect with
  | closed _ _ => exact Or.inl (erased found)
  | closedLast _ _ _ => exact Or.inl (erased found)
  | closedAll _ => exact Or.inl (erased found)
  | loggedOut _ _ _ => exact Or.inl (erased found)
  | keyFileDestroyed _ _ _ => exact Or.inl (erased found)
  | sessionObjectChanged change _ =>
      rcases inserted found with old | ⟨rfl, rfl⟩
      · exact Or.inl old
      · exact Or.inr (Or.inl ⟨_, _, _, rfl, rfl, change⟩)
  | tokenObjectChanged change _ _ _ =>
      rcases inserted found with old | ⟨rfl, rfl⟩
      · exact Or.inl old
      · exact Or.inr (Or.inl ⟨_, _, _, rfl, rfl, change⟩)
  | sessionObjectDestroyed _ _ =>
      rw [OrderedMap.get?_erase] at found
      split at found
      · contradiction
      · exact Or.inl found
  | creation _ _ ends =>
      rcases ends.added wellFormed found with old | ⟨fresh, _⟩
      · exact Or.inl old
      · exact Or.inr (Or.inr fresh)
  | finalized => simp at found
  | initializing closed =>
      rw [isOpen] at closed
      contradiction
  | _ => exact Or.inl found

theorem Effect.objectsAdvance (wellFormed : WellFormed state)
    (effect : Effect host oracle state call result) (isOpen : state.initialized = true) :
    ObjectsAdvance state result.1 := by
  constructor
  · cases effect with
    | creation _ _ ends => exact ends.advanced
    | initializing closed =>
        rw [isOpen] at closed
        contradiction
    | _ => exact Nat.le_refl _
  · intro handle object found
    rcases effect.objectOrigin wellFormed isOpen found with
      same | ⟨_, _, old, _, _, change⟩ | fresh
    · exact Or.inl ⟨object, same, rfl, KeepsProtection.refl object⟩
    · rcases State.findObject_eq_some_iff.mp change.found with ⟨_, _, oldFound, _⟩
      exact Or.inl ⟨old, oldFound, .of_change change⟩
    · exact Or.inr fresh

/-! ## Along a run -/

theorem mem_enteredSessions {host : Host} {state : State} {input : Call × Oracle} {handle : Nat} :
    handle ∈ enteredSessions host state input ↔
      (∃ session, (step host state input).1.findSession handle = some session) ∧
        state.findSession handle = none := by
  rw [enteredSessions, List.mem_filter, OrderedMap.mem_keys_iff, Option.isNone_iff_eq_none]
  rfl

theorem mem_enteredObjects {host : Host} {state : State} {input : Call × Oracle} {handle : Nat} :
    handle ∈ enteredObjects host state input ↔
      (∃ object, (step host state input).1.objects.get? handle = some object) ∧
        state.objects.get? handle = none := by
  rw [enteredObjects, List.mem_filter, OrderedMap.mem_keys_iff, Option.isNone_iff_eq_none]

/-- The issued session handles are distinct and below the counter. -/
structure SessionsIssued (state : State) (issued : List Nat) : Prop where
  distinct : issued.Nodup
  below : ∀ handle ∈ issued, handle < state.nextSessionHandle

/-- The object handles issued since the registry was opened are distinct, and below the
counter while it is open. -/
structure ObjectsIssued (state : State) (issued : List Nat) : Prop where
  distinct : issued.Nodup
  below : state.initialized = true → ∀ handle ∈ issued, handle < state.nextObjectHandle

theorem SessionsIssued.step {host : Host} {state : State} {issued : List Nat}
    (valid : SessionsIssued state issued) (wellFormed : WellFormed state)
    (input : Call × Oracle) :
    SessionsIssued (HsmSimulator.step host state input).1
      (issuedSessions host issued state input) := by
  have advance : SessionsAdvance state (HsmSimulator.step host state input).1 :=
    (step_effect wellFormed input.1).sessionsAdvance
  have fresh (handle : Nat) (isNew : handle ∈ enteredSessions host state input) :
      state.nextSessionHandle ≤ handle := by
    rcases mem_enteredSessions.mp isNew with ⟨⟨session, found⟩, absent⟩
    rcases advance.entered handle session found with ⟨old, oldFound⟩ | later
    · rw [absent] at oldFound
      contradiction
    · exact later
  constructor
  · apply List.Nodup.append valid.distinct ((OrderedMap.keys_nodup _).filter _)
    intro handle old isNew
    have before := valid.below handle old
    have after := fresh handle isNew
    omega
  · intro handle member
    rcases List.mem_append.mp member with old | isNew
    · exact (valid.below handle old).trans_le advance.counter
    · rcases mem_enteredSessions.mp isNew with ⟨⟨session, found⟩, _⟩
      exact ((wellFormed.step input).sessionKey handle session found).2.2

theorem ObjectsIssued.step {host : Host} {state : State} {issued : List Nat}
    (valid : ObjectsIssued state issued) (wellFormed : WellFormed state) (input : Call × Oracle) :
    ObjectsIssued (HsmSimulator.step host state input).1
      (issuedObjects host issued state input) := by
  have below (handle : Nat) (isNew : handle ∈ enteredObjects host state input) :
      handle < (HsmSimulator.step host state input).1.nextObjectHandle := by
    rcases mem_enteredObjects.mp isNew with ⟨⟨object, found⟩, _⟩
    exact ((wellFormed.step input).objectKey handle object found).2.2
  have entered : (enteredObjects host state input).Nodup := (OrderedMap.keys_nodup _).filter _
  unfold issuedObjects
  cases opened : state.initialized with
  | false => exact ⟨entered, fun _ => below⟩
  | true =>
      have advance : ObjectsAdvance state (HsmSimulator.step host state input).1 :=
        (step_effect wellFormed input.1).objectsAdvance wellFormed opened
      have fresh (handle : Nat) (isNew : handle ∈ enteredObjects host state input) :
          state.nextObjectHandle ≤ handle := by
        rcases mem_enteredObjects.mp isNew with ⟨⟨object, found⟩, absent⟩
        rcases advance.entered handle object found with ⟨old, oldFound, _⟩ | later
        · rw [absent] at oldFound
          contradiction
        · exact later
      constructor
      · apply List.Nodup.append valid.distinct entered
        intro handle old isNew
        have before := valid.below opened handle old
        have after := fresh handle isNew
        omega
      · intro _ handle member
        rcases List.mem_append.mp member with old | isNew
        · exact (valid.below opened handle old).trans_le advance.counter
        · exact below handle isNew

theorem issued_run (host : Host) (disk : FileSystem) (inputs : List (Call × Oracle)) :
    SessionsIssued (Runs.final (step host) (.loaded disk) inputs)
        (Runs.history (step host) (issuedSessions host) [] (.loaded disk) inputs) ∧
      ObjectsIssued (Runs.final (step host) (.loaded disk) inputs)
        (Runs.history (step host) (issuedObjects host) [] (.loaded disk) inputs) := by
  constructor
  · have invariant := @Runs.history_invariant _ _ _ _ (step host) (issuedSessions host)
      (fun _ _ => True) (fun state issued => WellFormed state ∧ SessionsIssued state issued)
      (fun state issued input valid _ => ⟨valid.1.step input, valid.2.step valid.1 input⟩)
      (.loaded disk) [] inputs ⟨wellFormed_loaded disk, List.nodup_nil, by simp⟩
      (Runs.along_true _ _ _)
    exact invariant.2
  · have invariant := @Runs.history_invariant _ _ _ _ (step host) (issuedObjects host)
      (fun _ _ => True) (fun state issued => WellFormed state ∧ ObjectsIssued state issued)
      (fun state issued input valid _ => ⟨valid.1.step input, valid.2.step valid.1 input⟩)
      (.loaded disk) [] inputs ⟨wellFormed_loaded disk, List.nodup_nil, by simp⟩
      (Runs.along_true _ _ _)
    exact invariant.2

/-- A handle that a call returns is one that it issued: of a session, where the call is made
on none, or of an object. -/
theorem Effect.returned {handle : Nat} (wellFormed : WellFormed state)
    (effect : Effect host oracle state call result) (returned : handle ∈ result.2.output.handles) :
    (call.session? = none ∧ (∃ session, result.1.findSession handle = some session) ∧
      state.findSession handle = none) ∨
    (∃ object, result.1.objects.get? handle = some object) ∧ state.objects.get? handle = none := by
  cases effect with
  | quiet _ noHandles => simp [noHandles] at returned
  | updated _ _ _ noHandles => simp [noHandles] at returned
  | opened _ _ =>
      left
      simp only [Response.success_output, Output.handles, List.mem_singleton] at returned
      subst returned
      exact ⟨rfl, ⟨_, OrderedMap.get?_insert_self _ _ _⟩, wellFormed.freshSession (Nat.le_refl _)⟩
  | creation _ _ ends =>
      right
      cases ends with
      | rejected _ _ => simp [Output.handles] at returned
      | @performed session slot new _ _ _ made creation =>
          have registered (nonempty : new.objects ≠ []) (handles : ∀ object ∈ new.objects,
              state.nextObjectHandle ≤ object.handle) (listed : handle ∈ new.output.handles) :
              (∃ object, (registerAll state.objects new.objects).get? handle = some object) ∧
                state.objects.get? handle = none := by
            rcases made.outputs nonempty handle listed with ⟨object, member, rfl⟩
            exact ⟨⟨object, (get?_registerAll made.distinct _ _).mpr (Or.inl ⟨member, rfl⟩)⟩,
              wellFormed.freshObject (handles object member)⟩
          cases creation with
          | created _ nonempty handles _ _ _ _ _ _ _ =>
              exact registered nonempty (fun object member => (handles object member).1) returned
          | kept _ nonempty handles _ =>
              exact registered nonempty (fun object member => (handles object member).1) returned
          | refused _ _ => simp [Output.handles] at returned
          | broken _ _ _ _ _ => simp [Output.handles] at returned
          | withdrawn _ _ _ _ _ => simp [Output.handles] at returned
          | half _ _ _ _ _ _ _ _ _ _ => simp [Output.handles] at returned
  | initializing closed =>
      have initialization := cInitialize_initialization host oracle closed
      generalize cInitialize host state oracle false = result at initialization returned
      cases initialization <;> simp [Output.handles] at returned
  | _ => simp [Output.handles] at returned

theorem returned_entered {host : Host} {state : State} (wellFormed : WellFormed state)
    (input : Call × Oracle) (handle : Nat)
    (returned : handle ∈ (step host state input).2.output.handles) :
    handle ∈ enteredSessions host state input ∨ handle ∈ enteredObjects host state input := by
  rw [mem_enteredSessions, mem_enteredObjects]
  exact ((step_effect wellFormed input.1).returned wellFormed returned).imp_left And.right

/-! ## The registry over a run -/

/-- In every state of a run in which every session key pair got its public half, the
registry is well formed, a path belongs to one slot, path and class determine a token
object, and no handle was issued twice. -/
theorem registry_of_run (host : Host) (disk : FileSystem) (inputs : List (Call × Oracle))
    (whole : Runs.Along (step host) (SessionPairsWhole host) (.loaded disk) inputs) :
    WellFormed (Runs.final (step host) (.loaded disk) inputs) ∧
      (∀ handle other object sibling,
        (Runs.final (step host) (.loaded disk) inputs).objects.get? handle = some object →
        (Runs.final (step host) (.loaded disk) inputs).objects.get? other = some sibling →
        object.ownerSession = 0 → sibling.ownerSession = 0 → object.path = sibling.path →
        object.slotId = sibling.slotId) ∧
      UniqueRecords (Runs.final (step host) (.loaded disk) inputs) ∧
      (Runs.history (step host) (issuedSessions host) [] (.loaded disk) inputs).Nodup ∧
      (Runs.history (step host) (issuedObjects host) [] (.loaded disk) inputs).Nodup ∧
      ∀ input handle,
        handle ∈ (step host (Runs.final (step host) (.loaded disk) inputs) input).2.output.handles →
        handle ∈ enteredSessions host (Runs.final (step host) (.loaded disk) inputs) input ∨
          handle ∈ enteredObjects host (Runs.final (step host) (.loaded disk) inputs) input := by
  have wellFormed := @wellFormed_run host disk inputs
  have issued := issued_run host disk inputs
  refine ⟨wellFormed, ?_, (TokenFiles.run whole).unique, issued.1.distinct, issued.2.distinct, ?_⟩
  · intro handle other object sibling found siblingFound token siblingToken samePath
    exact wellFormed.slotId_eq_of_path found siblingFound token siblingToken samePath
  · intro input handle returned
    exact returned_entered wellFormed input handle returned

theorem registry_of_sessionPairs :
    UniqueRecords (Runs.final (step .plain) (.loaded ⟨∅, ∅⟩)
      (plainRun [.cInitialize false, .openSession 1 6 true, sessionPair 1, sessionPair 1])) := by
  exact (registry_of_run .plain ⟨∅, ∅⟩ _
    (plainRun_along sessionPairsWhole_plain _ _)).2.2.1

/-- A plain environment without public halves, where the object table lists handles in this
order. -/
def Oracle.halfless (tableOrder : Order Nat) : Oracle :=
  { Oracle.plain with publicHalf := fun _ => none, tableOrder := tableOrder }

/-- The calls, each answered by this environment. -/
def halflessRun (tableOrder : Order Nat) (calls : List Call) : List (Call × Oracle) :=
  calls.map fun call => (call, .halfless tableOrder)

/-- Two session key pairs without public halves leave two private objects of the token that
share path and class. -/
theorem halves_share_record :
    ¬UniqueRecords (Runs.final (step .plain) (.loaded ⟨∅, ∅⟩)
      (halflessRun .stored
        [.cInitialize false, .openSession 1 6 true, sessionPair 1, sessionPair 1])) := by
  intro unique
  have left : ∃ object, (Runs.final (step .plain) (.loaded ⟨∅, ∅⟩)
    (halflessRun .stored [.cInitialize false,
      .openSession 1 6 true, sessionPair 1, sessionPair 1])).objects.get? 1 = some object ∧
        object.ownerSession = 0 ∧ object.objectClass = ckoPrivateKey ∧
        object.path = [ascii "data", ascii "asymmetric", ascii "generated-key.p12"] := by
    decide
  have right : ∃ object, (Runs.final (step .plain) (.loaded ⟨∅, ∅⟩)
    (halflessRun .stored [.cInitialize false,
      .openSession 1 6 true, sessionPair 1, sessionPair 1])).objects.get? 2 = some object ∧
        object.ownerSession = 0 ∧ object.objectClass = ckoPrivateKey ∧
        object.path = [ascii "data", ascii "asymmetric", ascii "generated-key.p12"] := by
    decide
  rcases left with ⟨first, firstFound, firstToken, firstClass, firstPath⟩
  rcases right with ⟨second, secondFound, secondToken, secondClass, secondPath⟩
  have same := unique 1 2 first second firstFound secondFound firstToken secondToken
    (firstPath.trans secondPath.symm) (firstClass.trans secondClass.symm)
  contradiction

end HsmSimulator
