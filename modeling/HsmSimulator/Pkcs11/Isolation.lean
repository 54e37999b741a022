import HsmSimulator.Pkcs11.Handles
import HsmSimulator.Pkcs11.ViewCalls

/-!
# Slot isolation

A call on one slot leaves the record, the sessions, the objects and the files of every
other slot as they are, and does not depend on their objects: it ends as it would if the
other slots had none.
-/

namespace HsmSimulator

open FileSystem

/-- The call is made on a session of the slot, or under its identifier. -/
def Call.MadeOn (call : Call) (state : State) (slotId : Nat) : Prop :=
  (∃ sessionHandle session, call.session? = some sessionHandle ∧
    state.findSession sessionHandle = some session ∧ session.slotId = slotId) ∨
  call.slot? = some slotId

/-- Nothing of the slot changes. -/
structure Untouched (slotId : Nat) (before after : State) : Prop where
  slot : after.findSlot slotId = before.findSlot slotId
  sessions : ∀ handle session, session.slotId = slotId →
    (after.findSession handle = some session ↔ before.findSession handle = some session)
  objects : ∀ handle object, object.slotId = slotId →
    (after.objects.get? handle = some object ↔ before.objects.get? handle = some object)
  files : ∀ slot path, before.findSlot slotId = some slot → slot.directory <+: path →
    after.disk.content path = before.disk.content path

/-- The state without the objects of other slots. -/
def State.only (state : State) (slotId : Nat) : State :=
  state.withObjects (state.objects.filter fun _ object => object.slotId = slotId)

/-! ## What a call may change -/

/-- Whatever changes belongs to the slot. -/
structure ConfinedTo (slotId : Nat) (before after : State) : Prop where
  slots : ∀ other, other ≠ slotId → after.findSlot other = before.findSlot other
  sessions : ∀ handle session, session.slotId ≠ slotId →
    (after.findSession handle = some session ↔ before.findSession handle = some session)
  objects : ∀ handle object, object.slotId ≠ slotId →
    (after.objects.get? handle = some object ↔ before.objects.get? handle = some object)
  files : ∀ path, after.disk.content path ≠ before.disk.content path →
    ∃ slot, before.findSlot slotId = some slot ∧ slot.directory <+: path

theorem IsStored.below {directory path : Path} (stored : IsStored directory path) :
    directory <+: path := by
  rcases stored with ⟨kind, name, _, rfl⟩
  exact (List.prefix_append _ _).trans (List.prefix_append _ _)

theorem pinPath_below (slot : Slot) (role : UserType) :
    slot.directory <+: slot.pinPath role ∧ slot.directory <+: slot.pinTemporary role := by
  constructor
  · exact List.prefix_append _ _
  · rw [Slot.pinTemporary, Slot.pinPath, Path.extend_child]
    exact List.prefix_append _ _

/-- Slots of one layout have the files below their directories to themselves. -/
theorem WellFormed.slot_of_prefix {state : State} (wellFormed : WellFormed state) {id other : Nat}
    {slot otherSlot : Slot} {path : Path} (found : state.findSlot id = some slot)
    (otherFound : state.findSlot other = some otherSlot) (below : slot.directory <+: path)
    (otherBelow : otherSlot.directory <+: path) : id = other := by
  have level := wellFormed.layout.level _ _ _ _ found otherFound
  have same : slot.directory = otherSlot.directory :=
    (List.prefix_of_prefix_length_le below otherBelow level.le).eq_of_length level
  exact wellFormed.layout.distinct _ _ _ _ found otherFound same

theorem ConfinedTo.untouched {state next : State} {slotId other : Nat}
    (wellFormed : WellFormed state) (confined : ConfinedTo slotId state next)
    (different : other ≠ slotId) : Untouched other state next := by
  constructor
  · exact confined.slots other different
  · rintro handle session rfl
    exact confined.sessions handle session different
  · rintro handle object rfl
    exact confined.objects handle object different
  · intro slot path found below
    by_contra changed
    rcases confined.files path changed with ⟨owner, ownerFound, ownerBelow⟩
    exact different (wellFormed.slot_of_prefix found ownerFound below ownerBelow)

section

variable {state : State}

/-- Sessions of the slot and handle counters may change. -/
theorem ConfinedTo.of_sessions {slotId : Nat} {sessions : OrderedMap Nat Session}
    (nextObjectHandle nextSessionHandle : Nat)
    (same : ∀ handle session, session.slotId ≠ slotId →
      (sessions.get? handle = some session ↔ state.findSession handle = some session)) :
    ConfinedTo slotId state { state with
      sessions := sessions
      nextObjectHandle := nextObjectHandle
      nextSessionHandle := nextSessionHandle } :=
  ⟨fun _ _ => rfl, same, fun _ _ _ => Iff.rfl, fun _ changed => (changed rfl).elim⟩

theorem ConfinedTo.of_objects {slotId next : Nat} {objects : OrderedMap Nat Object}
    {disk : FileSystem}
    (same : ∀ handle object, object.slotId ≠ slotId →
      (objects.get? handle = some object ↔ state.objects.get? handle = some object))
    (files : ∀ path, disk.content path ≠ state.disk.content path →
      ∃ slot, state.findSlot slotId = some slot ∧ slot.directory <+: path) :
    ConfinedTo slotId state { state with
      nextObjectHandle := next
      objects := objects
      disk := disk } :=
  ⟨fun _ _ => rfl, fun _ _ _ => Iff.rfl, same, files⟩

/-- The slot record may be replaced. -/
theorem ConfinedTo.putSlot {next : State} {slotId : Nat} (confined : ConfinedTo slotId state next)
    (changed : Slot) : ConfinedTo slotId state (next.putSlot slotId changed) := by
  refine ⟨?_, confined.sessions, confined.objects, confined.files⟩
  intro other different
  rw [findSlot_putSlot, if_neg different]
  exact confined.slots other different

/-- Files below the directory of the slot may change. -/
theorem confined_files {slotId : Nat} {slot : Slot} {touched : List Path} {disk : FileSystem}
    (found : state.findSlot slotId = some slot)
    (agrees : AgreesOutside touched state.disk disk)
    (below : ∀ path ∈ touched, slot.directory <+: path) (path : Path)
    (changed : disk.content path ≠ state.disk.content path) :
    ∃ slot, state.findSlot slotId = some slot ∧ slot.directory <+: path := by
  by_cases member : path ∈ touched
  · exact ⟨slot, found, below path member⟩
  · exact (changed (agrees.content path member)).elim

/-- An object of the slot may be replaced by one of the slot. -/
theorem confined_insert {slotId handle : Nat} {object changed : Object}
    (found : state.objects.get? handle = some object) (mine : object.slotId = slotId)
    (changedMine : changed.slotId = slotId) (other : Nat) (stored : Object)
    (foreign : stored.slotId ≠ slotId) :
    (state.objects.insert handle changed).get? other = some stored ↔
      state.objects.get? other = some stored := by
  rw [OrderedMap.get?_insert]
  split
  · rename_i same
    subst same
    rw [found]
    constructor
    · rintro ⟨⟩
      exact (foreign changedMine).elim
    · rintro ⟨⟩
      exact (foreign mine).elim
  · rfl

theorem confined_erase {slotId handle : Nat} {object : Object}
    (found : state.objects.get? handle = some object) (mine : object.slotId = slotId)
    (other : Nat) (stored : Object) (foreign : stored.slotId ≠ slotId) :
    (state.objects.erase handle).get? other = some stored ↔
      state.objects.get? other = some stored := by
  rw [OrderedMap.get?_erase]
  split
  · rename_i same
    subst same
    rw [found]
    constructor
    · intro isNone
      contradiction
    · rintro ⟨⟩
      exact (foreign mine).elim
  · rfl

/-- Objects of the slot may be removed. -/
theorem confined_eraseIf {slotId : Nat} {drop : Nat → Object → Bool}
    (spares : ∀ handle object, state.objects.get? handle = some object →
      object.slotId ≠ slotId → drop handle object = false) (handle : Nat) (object : Object)
    (foreign : object.slotId ≠ slotId) :
    (state.objects.eraseIf drop).get? handle = some object ↔
      state.objects.get? handle = some object := by
  rw [OrderedMap.get?_eraseIf_eq_some_iff]
  exact ⟨fun kept => kept.1, fun found => ⟨found, spares handle object found foreign⟩⟩

/-- Sessions of the slot may be removed. -/
theorem confined_sessions {slotId : Nat} {drop : Nat → Session → Bool}
    (spares : ∀ handle session, state.findSession handle = some session →
      session.slotId ≠ slotId → drop handle session = false) (handle : Nat) (session : Session)
    (foreign : session.slotId ≠ slotId) :
    (state.sessions.eraseIf drop).get? handle = some session ↔
      state.findSession handle = some session := by
  rw [OrderedMap.get?_eraseIf_eq_some_iff]
  exact ⟨fun kept => kept.1, fun found => ⟨found, spares handle session found foreign⟩⟩

theorem ConfinedTo.refl (slotId : Nat) (state : State) : ConfinedTo slotId state state :=
  .of_sessions _ _ fun _ _ _ => Iff.rfl

theorem ConfinedTo.putSession {slotId sessionHandle : Nat} {session changed : Session}
    (found : state.findSession sessionHandle = some session) (mine : session.slotId = slotId)
    (changedMine : changed.slotId = slotId) :
    ConfinedTo slotId state (state.putSession sessionHandle changed) := by
  refine .of_sessions _ _ fun handle stored foreign => ?_
  rw [OrderedMap.get?_insert]
  split
  · rename_i same
    subst same
    rw [found]
    constructor
    · rintro ⟨⟩
      exact (foreign changedMine).elim
    · rintro ⟨⟩
      exact (foreign mine).elim
  · rfl

theorem ConfinedTo.dropSession (wellFormed : WellFormed state) {slotId sessionHandle : Nat}
    {session : Session} (found : state.findSession sessionHandle = some session)
    (mine : session.slotId = slotId) :
    ConfinedTo slotId state (state.dropSession sessionHandle) := by
  refine ⟨fun _ _ => rfl, ?_, ?_, fun _ changed => (changed rfl).elim⟩
  · intro handle stored foreign
    change (state.sessions.erase sessionHandle).get? handle = some stored ↔ _
    rw [OrderedMap.get?_erase]
    split
    · rename_i same
      subst same
      rw [found]
      constructor
      · intro isNone
        contradiction
      · rintro ⟨⟩
        exact (foreign mine).elim
    · rfl
  · refine confined_eraseIf fun handle object stored foreign => ?_
    rw [decide_eq_false_iff_not]
    intro owned
    have notZero : object.ownerSession ≠ 0 := by
      rw [owned]
      exact wellFormed.sessionHandle_ne_zero found
    rcases (wellFormed.sessionObject handle object stored notZero).2 with
      ⟨owner, ownerFound, sameSlot⟩
    rw [owned, found] at ownerFound
    cases ownerFound
    exact foreign (sameSlot.symm.trans mine)

theorem ConfinedTo.purgeSlot {next : State} {slotId : Nat}
    (confined : ConfinedTo slotId state next) :
    ConfinedTo slotId state (next.purgeSlot slotId) := by
  refine ⟨confined.slots, ?_, ?_, confined.files⟩
  · intro handle session foreign
    rw [← confined.sessions handle session foreign]
    change (next.sessions.mapValues _).get? handle = some session ↔ _
    rw [OrderedMap.get?_mapValues, Option.map_eq_some_iff]
    constructor
    · rintro ⟨stored, found, mapped⟩
      split at mapped
      · rename_i mine
        subst mapped
        exact (foreign mine).elim
      · subst mapped
        exact found
    · intro found
      exact ⟨session, found, if_neg foreign⟩
  · intro handle object foreign
    rw [← confined.objects handle object foreign]
    exact confined_eraseIf (fun _ stored _ other => by simp [other]) handle object foreign

end

/-! ## Effects -/

variable {host : Host} {oracle : Oracle} {state : State}

/-- A creation changes its slot only. -/
theorem Creation.confined {call : Call} {sessionHandle : Nat} {session : Session} {slot : Slot}
    {new : NewKey} {result : State × Response} (wellFormed : WellFormed state)
    (guard : CreationGuard state sessionHandle session slot new.token)
    (made : new.MadeBy host oracle call sessionHandle session slot)
    (creation : Creation host oracle state new result) :
    ConfinedTo session.slotId state result.1 := by
  have slotFound := guard.slotFound
  have unregistered (handle : Nat) (object : Object) (foreign : object.slotId ≠ session.slotId)
      (fresh : ∀ new' ∈ new.objects, state.nextObjectHandle ≤ new'.handle) :
      (registerAll state.objects new.objects).get? handle = some object ↔
        state.objects.get? handle = some object := by
    rw [get?_registerAll made.distinct]
    constructor
    · rintro (⟨isNew, _⟩ | ⟨_, old⟩)
      · exact (foreign (made.slotIds object isNew)).elim
      · exact old
    · intro old
      refine Or.inr ⟨?_, old⟩
      rintro registered isNew rfl
      rw [wellFormed.freshObject (fresh registered isNew)] at old
      contradiction
  have tokenPath (token : new.token = true) : IsKeyPath slot.directory new.path :=
    made.keyPath (Or.inl token)
  cases creation with
  | refused _ _ => exact .of_sessions _ _ fun _ _ _ => Iff.rfl
  | @broken next stored _ token =>
      refine .of_objects (fun _ _ _ => Iff.rfl) (confined_files slotFound
        ((AgreesOutside.refl [new.path] state.disk).writeFile (by simp) stored) ?_)
      simpa using (tokenPath token).stored.below
  | @withdrawn next disk token _ _ agrees _ =>
      refine .of_objects (confined_eraseIf ?_) (confined_files slotFound agrees ?_)
      · intro handle object found foreign
        rw [decide_eq_false_iff_not]
        intro samePath
        have keyPath := tokenPath token
        rw [← samePath] at keyPath
        exact foreign (wellFormed.slotId_of_keyPath found slotFound keyPath)
      · have keyPath := (tokenPath token).stored.below
        have temporary := (tokenPath token).temporary_stored.below
        simp [keyPath, temporary]
  | @created next full stored records token _ handles =>
      refine .of_objects (fun handle object foreign =>
        unregistered handle object foreign fun new' member => (handles new' member).1)
        (confined_files slotFound (((AgreesOutside.refl
          [new.path, Metadata.path new.path] state.disk).writeFile (by simp) stored).writeFile
            (by simp) (Metadata.encode records).bytes) ?_)
      have keyPath := (tokenPath token).stored.below
      have metadata := (tokenPath token).metadata_stored.below
      simp [keyPath, metadata]
  | kept _ _ handles =>
      exact .of_objects (fun handle object foreign =>
        unregistered handle object foreign fun new' member => (handles new' member).1)
        fun _ changed => (changed rfl).elim
  | @half privateKey object disk _ _ _ handle _ _ _ slotId _ files =>
      have mine : object.slotId = session.slotId := by
        rw [slotId, made.sameSlot]
        exact wellFormed.slotKey _ _ slotFound
      refine .of_objects ?_ ?_
      · intro other stored foreign
        rw [OrderedMap.get?_insert]
        split
        · rename_i same
          rw [same, handle, wellFormed.freshObject (Nat.le_refl _)]
          constructor
          · rintro ⟨⟩
            exact (foreign mine).elim
          · intro isNone
            contradiction
        · rfl
      · rcases files with ⟨_, rfl⟩ | ⟨token, _, stored, rfl⟩
        · exact fun _ changed => (changed rfl).elim
        · refine confined_files slotFound
            ((AgreesOutside.refl [new.path] state.disk).writeFile (by simp) stored) ?_
          simpa using (tokenPath token).stored.below

/-- A change of files below the directory of a token object stays in its slot. -/
theorem confined_beside {sessionHandle handle : Nat} {object : Object} {session : Session}
    (wellFormed : WellFormed state)
    (found : state.findObject sessionHandle handle = some object)
    (sessionFound : state.findSession sessionHandle = some session)
    (token : object.ownerSession = 0) :
    ∃ slot, state.findSlot session.slotId = some slot ∧ IsKeyPath slot.directory object.path := by
  rcases State.findObject_eq_some_iff.mp found with ⟨other, otherFound, stored, sameSlot⟩
  rw [sessionFound] at otherFound
  cases otherFound
  rcases wellFormed.tokenObject handle object stored token with ⟨_, _, slot, slotFound, keyPath⟩
  rw [sameSlot] at slotFound
  exact ⟨slot, slotFound, keyPath⟩

theorem Effect.confined {call : Call} {result : State × Response} {slotId : Nat}
    (wellFormed : WellFormed state) (effect : Effect host oracle state call result)
    (on : call.On state slotId)
    (named : call.session? ≠ none ∨ call.slot? ≠ none) : ConfinedTo slotId state result.1 := by
  have mineOf {sessionHandle : Nat} {session : Session}
      (onSession : call.session? = some sessionHandle)
      (found : state.findSession sessionHandle = some session) : session.slotId = slotId :=
    on.session sessionHandle onSession session found
  cases effect with
  | quiet _ _ => exact .refl _ _
  | updated onSession found update _ =>
      have mine := mineOf onSession found
      exact .putSession found mine (update.slotId.trans mine)
  | @opened opened _ slot _ _ =>
      have same := on.slot opened rfl
      subst same
      refine .of_sessions _ _ fun handle session foreign => ?_
      rw [OrderedMap.get?_insert]
      split
      · rename_i isNew
        rw [isNew, wellFormed.freshSession (Nat.le_refl _)]
        constructor
        · rintro ⟨⟩
          exact (foreign rfl).elim
        · intro isNone
          contradiction
      · rfl
  | closed found _ => exact .dropSession wellFormed found (mineOf rfl found)
  | @closedLast sessionHandle session slot found slotFound _ =>
      have mine := mineOf rfl found
      have slotKey := wellFormed.slotKey _ _ slotFound
      rw [mine] at slotKey
      subst slotKey
      exact (ConfinedTo.dropSession wellFormed found mine).putSlot _
  | @closedAll slot found =>
      have same := on.slot slot.id rfl
      subst same
      refine ConfinedTo.putSlot ?_ _
      refine ⟨fun _ _ => rfl, ?_, ?_, fun _ changed => (changed rfl).elim⟩
      · exact confined_sessions fun _ session _ foreign => by simp [foreign]
      · exact confined_eraseIf fun _ object _ foreign => by simp [foreign]
  | @loggedIn sessionHandle _ _ session slot role guard _ =>
      have slotKey := wellFormed.slotKey _ _ guard.slotFound
      rw [mineOf rfl guard.sessionFound] at slotKey
      subst slotKey
      exact (ConfinedTo.refl _ _).putSlot _
  | @loggedOut sessionHandle session slot found slotFound _ =>
      have slotKey := wellFormed.slotKey _ _ slotFound
      rw [mineOf rfl found] at slotKey
      subst slotKey
      exact ((ConfinedTo.refl _ _).putSlot _).purgeSlot
  | @pinChanged _ _ session slot role pin onSession found _ slotFound _ _ =>
      have slotKey := wellFormed.slotKey _ _ slotFound
      rw [mineOf onSession found] at slotKey slotFound
      subst slotKey
      refine ConfinedTo.putSlot (.of_objects (fun _ _ _ => Iff.rfl) (confined_files slotFound
        ((AgreesOutside.refl [slot.pinPath role] state.disk).writeFile (by simp) pin.content) ?_)) _
      simpa using (pinPath_below slot role).1
  | @pinLeft _ _ session slot role _ left onSession found slotFound _ _ =>
      rw [mineOf onSession found] at slotFound
      refine .of_objects (fun _ _ _ => Iff.rfl) (confined_files slotFound
        ((AgreesOutside.refl [slot.pinTemporary role] state.disk).writeFile (by simp) left) ?_)
      simpa using (pinPath_below slot role).2
  | sessionObjectChanged change _ =>
      rcases State.findObject_eq_some_iff.mp change.found with ⟨session, found, stored, sameSlot⟩
      have mine := sameSlot.trans (mineOf rfl found)
      exact .of_objects (confined_insert stored mine
        ((slotId_eq_of_core change.core_eq).trans mine)) fun _ changed => (changed rfl).elim
  | @tokenObjectChanged _ _ _ object _ records change token _ _ =>
      rcases State.findObject_eq_some_iff.mp change.found with ⟨session, found, stored, sameSlot⟩
      rcases confined_beside wellFormed change.found found token with ⟨slot, slotFound, keyPath⟩
      have mine := mineOf rfl found
      rw [mine] at slotFound sameSlot
      refine .of_objects (confined_insert stored sameSlot
        ((slotId_eq_of_core change.core_eq).trans sameSlot)) (confined_files slotFound
          ((AgreesOutside.refl [Metadata.path object.path] state.disk).writeFile (by simp)
            (Metadata.encode records).bytes) ?_)
      simpa using keyPath.metadata_stored.below
  | @metadataLeft _ _ _ object _ left change token _ =>
      rcases State.findObject_eq_some_iff.mp change.found with ⟨session, found, stored, sameSlot⟩
      rcases confined_beside wellFormed change.found found token with ⟨slot, slotFound, keyPath⟩
      rw [mineOf rfl found] at slotFound
      refine .of_objects (fun _ _ _ => Iff.rfl) (confined_files slotFound
        ((AgreesOutside.refl [Metadata.temporaryPath object.path] state.disk).writeFile (by simp)
          left) ?_)
      simpa using keyPath.temporary_stored.below
  | sessionObjectDestroyed destruction _ =>
      rcases State.findObject_eq_some_iff.mp destruction.found with
        ⟨session, found, stored, sameSlot⟩
      have mine := sameSlot.trans (mineOf rfl found)
      exact .of_objects (confined_erase stored mine) fun _ changed => (changed rfl).elim
  | @keyFileDestroyed _ _ object disk _ destruction token removed =>
      rcases State.findObject_eq_some_iff.mp destruction.found with
        ⟨session, found, stored, sameSlot⟩
      rcases confined_beside wellFormed destruction.found found token with
        ⟨slot, slotFound, keyPath⟩
      rw [mineOf rfl found] at slotFound
      have agrees : AgreesOutside [object.path, Metadata.path object.path] state.disk disk :=
        keyFileRemoval_agrees removed (by simp) (by simp)
      refine .of_objects (confined_eraseIf ?_) (confined_files slotFound agrees ?_)
      · intro other sibling siblingFound foreign
        rw [decide_eq_false_iff_not]
        intro samePath
        rw [← samePath] at keyPath
        exact foreign (wellFormed.slotId_of_keyPath siblingFound slotFound keyPath)
      · have beside := keyPath.metadata_stored.below
        have file := keyPath.stored.below
        simp [beside, file]
  | creation _ onSession ends =>
      cases ends with
      | rejected _ _ => exact .of_sessions _ _ fun _ _ _ => Iff.rfl
      | performed _ guard made creation =>
          have confined := creation.confined wellFormed guard made
          rw [mineOf onSession guard.sessionFound] at confined
          exact confined
  | finalized => simp [Call.session?, Call.slot?] at named
  | initializing _ => simp [Call.session?, Call.slot?] at named

/-! ## Objects of other slots -/

theorem WellFormed.only (wellFormed : WellFormed state) (isOpen : state.initialized = true)
    (slotId : Nat) : WellFormed (state.only slotId) := by
  refine wellFormed.filterObjects isOpen fun handle object found => ?_
  rw [OrderedMap.get?_filter, Option.filter_eq_some_iff] at found
  exact found.1

/-- Without the objects of other slots, the slot sees the same. -/
theorem sameView_only (wellFormed : WellFormed state) (isOpen : state.initialized = true)
    (slotId : Nat) : SameView slotId state (state.only slotId).objects := by
  refine ⟨wellFormed, wellFormed.only isOpen slotId, fun handle => ?_⟩
  change SamePair state slotId _ ((state.objects.filter _).get? handle)
  rw [OrderedMap.get?_filter]
  cases state.objects.get? handle with
  | none => exact .same
  | some object =>
      by_cases mine : object.slotId = slotId
      · have kept : Option.filter (fun other => decide (other.slotId = slotId)) (some object) =
            some object := by simp [Option.filter, mine]
        rw [kept]
        exact .same
      · have dropped : Option.filter (fun other => decide (other.slotId = slotId)) (some object) =
            none := by simp [Option.filter, mine]
        rw [dropped]
        refine .foreign ?_ (by simp)
        rintro _ ⟨⟩
        exact mine

theorem Call.slot?_of_session {call : Call} {sessionHandle : Nat}
    (onSession : call.session? = some sessionHandle) : call.slot? = none := by
  cases call <;> first | rfl | contradiction

theorem Call.MadeOn.on {call : Call} {slotId : Nat} (made : call.MadeOn state slotId) :
    call.On state slotId ∧ (call.session? ≠ none ∨ call.slot? ≠ none) := by
  rcases made with ⟨sessionHandle, session, onSession, found, mine⟩ | named
  · refine ⟨⟨?_, ?_⟩, Or.inl (by simp [onSession])⟩
    · intro other onOther stored storedFound
      rw [onSession] at onOther
      cases onOther
      rw [found] at storedFound
      cases storedFound
      exact mine
    · intro other isNamed
      rw [Call.slot?_of_session onSession] at isNamed
      contradiction
  · refine ⟨⟨?_, ?_⟩, Or.inr (by simp [named])⟩
    · intro sessionHandle onSession
      rw [Call.slot?_of_session onSession] at named
      contradiction
    · intro other isNamed
      rw [named] at isNamed
      cases isNamed
      rfl

/-- A call ends as it does without the objects of other slots. -/
theorem step_only (wellFormed : WellFormed state) (isOpen : state.initialized = true)
    {call : Call} {slotId : Nat} (made : call.MadeOn state slotId) :
    step host (state.only slotId) (call, oracle) =
      ((step host state (call, oracle)).1.only slotId, (step host state (call, oracle)).2) := by
  have alike := @step_alike slotId state (state.only slotId).objects
    (sameView_only wellFormed isOpen slotId) host (call, oracle) made.on.1
  have onlyEffect : Effect host oracle (state.only slotId) call
      (step host (state.only slotId) (call, oracle)) :=
    step_effect (wellFormed.only isOpen slotId) call
  have confined := onlyEffect.confined (wellFormed.only isOpen slotId) ⟨made.on.1.session,
    made.on.1.slot⟩ made.on.2
  change Alike _ _ _ (step host (state.only slotId) (call, oracle)) at alike
  refine alike.frame.trans ?_
  have objects : (step host (state.only slotId) (call, oracle)).1.objects =
      ((step host state (call, oracle)).1.only slotId).objects := by
    apply OrderedMap.ext_get?
    intro handle
    change _ = ((step host state (call, oracle)).1.objects.filter _).get? handle
    rw [OrderedMap.get?_filter]
    rcases alike.objects handle with same | ⟨kept, onlyKept⟩
    · rw [same]
      cases found : (step host (state.only slotId) (call, oracle)).1.objects.get? handle with
      | none => rfl
      | some object =>
          symm
          rw [Option.filter_eq_some_iff]
          refine ⟨rfl, ?_⟩
          by_contra foreign
          have before := (confined.objects handle object (by simpa using foreign)).mp found
          change (state.objects.filter _).get? handle = some object at before
          rw [OrderedMap.get?_filter, Option.filter_eq_some_iff] at before
          exact foreign before.2
    · rw [kept, onlyKept]
      change (state.objects.filter _).get? handle = _
      rw [OrderedMap.get?_filter]
  rw [objects]
  rfl

/-! ## Isolation of a call -/

/-- The call leaves other slots alone, does not depend on their objects, and neither
returns nor lists one of them. -/
structure Isolated (host : Host) (state : State) (input : Call × Oracle) (slotId : Nat) :
    Prop where
  others : ∀ other, other ≠ slotId → Untouched other state (step host state input).1
  independent : step host (state.only slotId) input =
    ((step host state input).1.only slotId, (step host state input).2)
  returned : input.1.session? ≠ none → ∀ handle ∈ (step host state input).2.output.handles,
    ∃ object, (step host state input).1.objects.get? handle = some object ∧
      object.slotId = slotId
  listed : ∀ sessionHandle hasOutput capacity hasCount handles,
    input.1 = .findObjects sessionHandle hasOutput capacity hasCount →
    (step host state input).2.output = .found handles →
    ∀ handle ∈ handles, ∃ object, state.objects.get? handle = some object ∧
      object.slotId = slotId

theorem takeVisible_visible (visible : Nat → Bool) (capacity : Nat) (found : List Nat) :
    ∀ handle ∈ (takeVisible visible capacity found).1, visible handle = true := by
  fun_induction takeVisible visible capacity found <;> grind

/-- Every handle that `FindObjects` gives out names an object of the session's slot. -/
theorem findObjects_listed {sessionHandle capacity slotId : Nat} {hasOutput hasCount : Bool}
    {handles : List Nat} (onSlot : state.OnSlot slotId sessionHandle)
    (returned : (findObjects state sessionHandle hasOutput capacity hasCount).2.output =
      .found handles) :
    ∀ handle ∈ handles, ∃ object, state.objects.get? handle = some object ∧
      object.slotId = slotId := by
  unfold findObjects at returned
  split at returned
  · contradiction
  · rename_i session _
    have visible := takeVisible_visible (stillVisible state sessionHandle) capacity
      (session.searchMatches.drop session.searchOffset)
    cases returned
    intro handle listed
    have isVisible := visible handle listed
    unfold stillVisible at isVisible
    split at isVisible
    · contradiction
    · rename_i object found
      rcases State.findObject_eq_some_iff.mp found with ⟨owner, ownerFound, stored, sameSlot⟩
      exact ⟨object, stored, sameSlot.trans (onSlot owner ownerFound)⟩

/-- Slot isolation: in every reachable state, whatever the arguments and the result. -/
theorem slot_isolation (host : Host) (state : State) (reachable : Reachable host state)
    (isOpen : state.initialized = true) (input : Call × Oracle) (slotId : Nat)
    (made : input.1.MadeOn state slotId) : Isolated host state input slotId := by
  rcases input with ⟨call, oracle⟩
  have wellFormed := reachable.wellFormed
  have effect : Effect host oracle state call (step host state (call, oracle)) :=
    step_effect wellFormed call
  have confined := effect.confined wellFormed made.on.1 made.on.2
  constructor
  · intro other different
    exact confined.untouched wellFormed different
  · exact step_only wellFormed isOpen made
  · intro onSession handle isReturned
    rcases effect.returned wellFormed isReturned with ⟨noSession, _⟩ | ⟨⟨object, found⟩, fresh⟩
    · exact (onSession noSession).elim
    · refine ⟨object, found, ?_⟩
      by_contra foreign
      rw [confined.objects handle object foreign, fresh] at found
      contradiction
  · rintro sessionHandle hasOutput capacity hasCount handles rfl returned
    have service :
        step host state (.findObjects sessionHandle hasOutput capacity hasCount, oracle) =
        findObjects state sessionHandle hasOutput capacity hasCount := by
      rw [step_of_open isOpen]
      rfl
    rw [service] at returned
    exact findObjects_listed (made.on.1.session sessionHandle rfl) returned

/-- A storage root with two slots that have a USER PIN. -/
def twoSlots : FileSystem where
  files := ((∅ : OrderedMap Path Bytes).insert [ascii "data", ascii "1_a", ascii "pin.txt"]
    [49]).insert [ascii "data", ascii "2_b", ascii "pin.txt"] [49]
  directories := ((∅ : OrderedMap Path Unit).insert [ascii "data", ascii "1_a"] ()).insert
    [ascii "data", ascii "2_b"] ()

/-- Two slots with a session, a login and an AES key each. -/
def twoKeys : State :=
  Runs.final (step .plain) (.loaded twoSlots) (plainRun [.cInitialize false,
    .openSession 1 6 true, .openSession 2 6 true, .login 1 1 (.bytes [49]),
    .login 2 1 (.bytes [49]), aesKey 1, aesKey 2])

theorem slot_isolation_twoKeys : Isolated .plain twoKeys (.destroyObject 1 2, .plain) 1 := by
  have found : ∃ session, twoKeys.findSession 1 = some session ∧ session.slotId = 1 := by
    decide
  rcases found with ⟨session, found, mine⟩
  exact slot_isolation .plain twoKeys ⟨twoSlots, _, rfl⟩ (by decide) (.destroyObject 1 2, .plain) 1
    (Or.inl ⟨1, session, rfl, found, mine⟩)

end HsmSimulator
