import HsmSimulator.Pkcs11.Registry

/-!
# What a call can see of the objects

Two object tables look the same to the sessions of a slot when they agree up to the
objects of other slots and, while the slot does not grant access, up to the contents of
protected objects.  Every check a call makes on such tables comes out the same.
-/

namespace HsmSimulator

open Checks

/-- An object without its label, id, values and policies. -/
def Object.shape (object : Object) : Object :=
  { object with
    label := []
    id := []
    secretValue := []
    certificateDer := []
    asymmetricKey := object.asymmetricKey.map fun _ => ⟨[]⟩
    policy := ∅ }

/-- The state with another object table. -/
def State.withObjects (state : State) (objects : OrderedMap Nat Object) : State :=
  { state with objects := objects }

/-- The slot does not let its protected objects be used. -/
def State.Denies (state : State) (slotId : Nat) : Prop :=
  ∀ slot, state.findSlot slotId = some slot → slot.grantsAccess = false

/-- Two protected objects that differ in what is protected only. -/
structure Concealed (first second : Object) : Prop where
  guarded : isProtectedObject first = true
  otherGuarded : isProtectedObject second = true
  shape : first.shape = second.shape

/-- What two tables may hold at a handle without a session of the slot noticing. -/
inductive SamePair (state : State) (slotId : Nat) : Option Object → Option Object → Prop
  | same {entry : Option Object} : SamePair state slotId entry entry
  | foreign {first second : Option Object} :
      (∀ object, first = some object → object.slotId ≠ slotId) →
      (∀ object, second = some object → object.slotId ≠ slotId) →
      SamePair state slotId first second
  | concealed {first second : Object} : state.Denies slotId → Concealed first second →
      SamePair state slotId (some first) (some second)

/-- The sessions of the slot cannot tell the two tables apart. -/
structure SameView (slotId : Nat) (state : State) (objects : OrderedMap Nat Object) : Prop where
  wellFormed : WellFormed state
  otherWellFormed : WellFormed (state.withObjects objects)
  pairs : ∀ handle, SamePair state slotId (state.objects.get? handle) (objects.get? handle)

/-- The session, if it is open, is one of the slot. -/
def State.OnSlot (state : State) (slotId sessionHandle : Nat) : Prop :=
  ∀ session, state.findSession sessionHandle = some session → session.slotId = slotId

section

variable (state : State) (objects : OrderedMap Nat Object)

@[simp]
theorem findSession_withObjects (sessionHandle : Nat) :
    (state.withObjects objects).findSession sessionHandle = state.findSession sessionHandle :=
  rfl

@[simp]
theorem objects_withObjects : (state.withObjects objects).objects = objects :=
  rfl

@[simp]
theorem disk_withObjects : (state.withObjects objects).disk = state.disk :=
  rfl

@[simp]
theorem sessionSlot_withObjects (sessionHandle : Nat) :
    (state.withObjects objects).sessionSlot sessionHandle = state.sessionSlot sessionHandle :=
  rfl

@[simp]
theorem requireUserLogin_withObjects (sessionHandle : Nat) :
    (state.withObjects objects).requireUserLogin sessionHandle =
      state.requireUserLogin sessionHandle :=
  rfl

@[simp]
theorem objectAccessStatus_withObjects (sessionHandle : Nat) (object : Object) :
    (state.withObjects objects).objectAccessStatus sessionHandle object =
      state.objectAccessStatus sessionHandle object :=
  rfl

end

section

variable {first second : Object} (same : first.shape = second.shape)

include same

theorem slotId_eq_of_shape : first.slotId = second.slotId := by
  have fields := congrArg Object.slotId same
  exact fields

theorem ownerSession_eq_of_shape : first.ownerSession = second.ownerSession := by
  have fields := congrArg Object.ownerSession same
  exact fields

/-- Both have a key or none has. -/
theorem asymmetricKey_of_shape : first.asymmetricKey.isSome = second.asymmetricKey.isSome := by
  have fields := congrArg (fun object => object.asymmetricKey.isSome) same
  simpa [Object.shape] using fields

end

/-! ## Lookups -/

/-- A handle resolves to the same object in both tables, or to two objects that are both
out of reach of the session. -/
inductive SameLookup (state : State) (objects : OrderedMap Nat Object)
    (sessionHandle handle : Nat) : Prop
  | same : (state.withObjects objects).findObject sessionHandle handle =
      state.findObject sessionHandle handle → SameLookup state objects sessionHandle handle
  | denied {first second : Object} : state.findObject sessionHandle handle = some first →
      (state.withObjects objects).findObject sessionHandle handle = some second →
      first.asymmetricKey.isSome = second.asymmetricKey.isSome →
      (∃ code, state.requireUserLogin sessionHandle = .error code ∧
        state.objectAccessStatus sessionHandle first = .error code ∧
        state.objectAccessStatus sessionHandle second = .error code) →
      SameLookup state objects sessionHandle handle

theorem findObject_of_session {state : State} {sessionHandle : Nat} {session : Session}
    (found : state.findSession sessionHandle = some session) (handle : Nat) :
    state.findObject sessionHandle handle =
      (state.objects.get? handle).filter fun object => object.slotId = session.slotId := by
  cases entry : state.objects.get? handle <;> simp [State.findObject, found, entry, Option.filter]

theorem filter_eq_none {entry : Option Object} {slotId : Nat}
    (foreign : ∀ object, entry = some object → object.slotId ≠ slotId) :
    (entry.filter fun object => object.slotId = slotId) = none := by
  rw [Option.filter_eq_none_iff]
  intro object isEntry
  simpa using foreign object isEntry

namespace SameView

variable {slotId : Nat} {state : State} {objects : OrderedMap Nat Object}
  {sessionHandle : Nat} (view : SameView slotId state objects)

include view

theorem denies_access (denies : state.Denies slotId) (onSlot : state.OnSlot slotId sessionHandle)
    {session : Session} (found : state.findSession sessionHandle = some session) :
    state.requireUserLogin sessionHandle = .error .userNotLoggedIn := by
  have sameSlot := onSlot session found
  rcases view.wellFormed.sessionSlot sessionHandle session found with ⟨slot, slotFound⟩
  have slotOfSession : state.sessionSlot sessionHandle = some slot :=
    State.sessionSlot_eq_some_iff.mpr ⟨session, found, slotFound⟩
  rw [sameSlot] at slotFound
  simp [State.requireUserLogin, slotOfSession, denies slot slotFound, require]

theorem lookup (onSlot : state.OnSlot slotId sessionHandle) (handle : Nat) :
    SameLookup state objects sessionHandle handle := by
  cases found : state.findSession sessionHandle with
  | none =>
      apply SameLookup.same
      simp [State.findObject, found]
  | some session =>
      have sameSlot := onSlot session found
      have left := findObject_of_session found handle
      have right : (state.withObjects objects).findObject sessionHandle handle =
          (objects.get? handle).filter fun object => object.slotId = session.slotId :=
        @findObject_of_session (state.withObjects objects) sessionHandle session found handle
      have pair := view.pairs handle
      rw [sameSlot] at left right
      generalize state.objects.get? handle = first at left pair
      generalize objects.get? handle = second at right pair
      cases pair with
      | same => exact .same (right.trans left.symm)
      | foreign mine other =>
          rw [filter_eq_none mine] at left
          rw [filter_eq_none other] at right
          exact .same (right.trans left.symm)
      | @concealed first second denies concealed =>
          have access := view.denies_access denies onSlot found
          by_cases inSlot : first.slotId = slotId
          · have otherSlot := inSlot
            rw [slotId_eq_of_shape concealed.shape] at otherSlot
            refine .denied
              (left.trans (Option.filter_eq_some_iff.mpr ⟨rfl, decide_eq_true inSlot⟩))
              (right.trans (Option.filter_eq_some_iff.mpr ⟨rfl, decide_eq_true otherSlot⟩))
              (asymmetricKey_of_shape concealed.shape) ⟨_, access, ?_, ?_⟩
            · simp [State.objectAccessStatus, concealed.guarded, access]
            · simp [State.objectAccessStatus, concealed.otherGuarded, access]
          · have otherSlot := inSlot
            rw [slotId_eq_of_shape concealed.shape] at otherSlot
            rw [filter_eq_none fun object isEntry => by cases isEntry; exact inSlot] at left
            rw [filter_eq_none fun object isEntry => by cases isEntry; exact otherSlot] at right
            exact .same (right.trans left.symm)

/-! ## Sweeps -/

/-- A sweep that spares the objects of other slots, and takes two concealed objects or
none, takes the same handles from both tables. -/
theorem sweep {drop : Object → Bool}
    (spares : ∀ handle object, (state.objects.get? handle = some object ∨
      objects.get? handle = some object) → object.slotId ≠ slotId → drop object = false)
    (alike : ∀ first second, Concealed first second → drop first = drop second) (handle : Nat) :
    (state.objects.get? handle).any drop = (objects.get? handle).any drop := by
  have pair := view.pairs handle
  have left := spares handle
  generalize state.objects.get? handle = first at pair left
  generalize objects.get? handle = second at pair left
  cases pair with
  | same => rfl
  | foreign mine other =>
      have none' (entry : Option Object) (dropped : ∀ object, entry = some object →
          drop object = false) : entry.any drop = false := by
        cases entry with
        | none => rfl
        | some object => exact dropped object rfl
      rw [none' first fun object isEntry => left object (Or.inl isEntry) (mine object isEntry),
        none' second fun object isEntry => left object (Or.inr isEntry) (other object isEntry)]
  | concealed _ concealed => exact alike _ _ concealed

/-- The objects a session of the slot owns. -/
theorem sweep_owner (onSlot : state.OnSlot slotId sessionHandle) {session : Session}
    (found : state.findSession sessionHandle = some session) (handle : Nat) :
    (state.objects.get? handle).any (fun object => object.ownerSession = sessionHandle) =
      (objects.get? handle).any fun object => object.ownerSession = sessionHandle := by
  have valid := view.wellFormed.sessionHandle_ne_zero found
  have owned {object : Object} (isOwner : object.ownerSession = sessionHandle)
      (sessionObject : SessionObject state object) : object.slotId = slotId := by
    rcases sessionObject.2 with ⟨owner, ownerFound, sameSlot⟩
    rw [isOwner, found] at ownerFound
    cases ownerFound
    rw [← sameSlot]
    exact onSlot session found
  apply view.sweep
  · intro other object stored otherSlot
    rw [decide_eq_false_iff_not]
    intro isOwner
    have notZero : object.ownerSession ≠ 0 := by
      rw [isOwner]
      exact valid
    rcases stored with stored | stored
    · exact otherSlot (owned isOwner (view.wellFormed.sessionObject other object stored notZero))
    · exact otherSlot
        (owned isOwner (view.otherWellFormed.sessionObject other object stored notZero))
  · intro first second concealed
    rw [ownerSession_eq_of_shape concealed.shape]

/-- Objects of the slot that are told apart by their shape and their protection. -/
theorem sweep_slot {drop : Object → Bool}
    (alike : ∀ first second, Concealed first second → drop first = drop second) (handle : Nat) :
    (state.objects.get? handle).any (fun object => object.slotId = slotId && drop object) =
      (objects.get? handle).any fun object => object.slotId = slotId && drop object := by
  apply view.sweep
  · intro _ object _ otherSlot
    simp [otherSlot]
  · intro first second concealed
    rw [slotId_eq_of_shape concealed.shape, alike first second concealed]

end SameView

/-! ## Tables that change alike -/

/-- The objects of a path are the same. -/
def SamePath (path : Path) (left right : OrderedMap Nat Object) : Prop :=
  ∀ handle object, object.path = path →
    (left.get? handle = some object ↔ right.get? handle = some object)

/-- At every handle the new tables agree, or neither has changed. -/
def SameChange (left right newLeft newRight : OrderedMap Nat Object) : Prop :=
  ∀ handle, newLeft.get? handle = newRight.get? handle ∨
    newLeft.get? handle = left.get? handle ∧ newRight.get? handle = right.get? handle

namespace SameChange

variable {left right newLeft newRight : OrderedMap Nat Object}

theorem refl (left right : OrderedMap Nat Object) : SameChange left right left right :=
  fun _ => Or.inr ⟨rfl, rfl⟩

theorem trans {lastLeft lastRight : OrderedMap Nat Object}
    (earlier : SameChange left right newLeft newRight)
    (later : SameChange newLeft newRight lastLeft lastRight) :
    SameChange left right lastLeft lastRight := by
  intro handle
  rcases later handle with same | ⟨leftKept, rightKept⟩
  · exact Or.inl same
  · rw [leftKept, rightKept]
    exact earlier handle

theorem insert (handle : Nat) (object : Object) :
    SameChange left right (left.insert handle object) (right.insert handle object) := by
  intro other
  rw [OrderedMap.get?_insert, OrderedMap.get?_insert]
  split
  · exact Or.inl rfl
  · exact Or.inr ⟨rfl, rfl⟩

/-- Where the tables agree they go on agreeing. -/
theorem get?_eq (change : SameChange left right newLeft newRight) {handle : Nat}
    (same : left.get? handle = right.get? handle) :
    newLeft.get? handle = newRight.get? handle := by
  rcases change handle with equal | ⟨leftKept, rightKept⟩
  · exact equal
  · rw [leftKept, rightKept, same]

theorem emplace {handle : Nat} (same : left.get? handle = right.get? handle) (object : Object) :
    SameChange left right (left.emplace handle object) (right.emplace handle object) := by
  intro other
  rw [OrderedMap.get?_emplace, OrderedMap.get?_emplace, same]
  split
  · exact Or.inl rfl
  · exact Or.inr ⟨rfl, rfl⟩

theorem erase (handle : Nat) :
    SameChange left right (left.erase handle) (right.erase handle) := by
  intro other
  rw [OrderedMap.get?_erase, OrderedMap.get?_erase]
  split
  · exact Or.inl rfl
  · exact Or.inr ⟨rfl, rfl⟩

theorem eraseIf {drop : Object → Bool}
    (alike : ∀ handle, (left.get? handle).any drop = (right.get? handle).any drop) :
    SameChange left right (left.eraseIf fun _ object => drop object)
      (right.eraseIf fun _ object => drop object) := by
  intro handle
  rw [OrderedMap.get?_eraseIf, OrderedMap.get?_eraseIf]
  have same := alike handle
  generalize left.get? handle = first at same ⊢
  generalize right.get? handle = second at same ⊢
  have filtered (entry : Option Object) : entry.filter (fun object => !drop object) =
      if entry.any drop then none else entry := by
    cases entry with
    | none => rfl
    | some object => cases dropped : drop object <;> simp [Option.filter, dropped]
  rw [filtered, filtered, same]
  split
  · exact Or.inl rfl
  · exact Or.inr ⟨rfl, rfl⟩

theorem samePath {path : Path} (change : SameChange left right newLeft newRight)
    (same : SamePath path left right) : SamePath path newLeft newRight := by
  intro handle object isPath
  rcases change handle with equal | ⟨leftKept, rightKept⟩
  · rw [equal]
  · rw [leftKept, rightKept]
    exact same handle object isPath

end SameChange

/-- Dropping the objects of a path. -/
theorem SamePath.any {path : Path} {left right : OrderedMap Nat Object}
    (same : SamePath path left right) {test : Object → Bool}
    (onPath : ∀ object, test object = true → object.path = path) (handle : Nat) :
    (left.get? handle).any test = (right.get? handle).any test := by
  rw [Bool.eq_iff_iff, Option.any_eq_true, Option.any_eq_true]
  constructor
  · rintro ⟨object, found, holds⟩
    exact ⟨object, (same handle object (onPath object holds)).mp found, holds⟩
  · rintro ⟨object, found, holds⟩
    exact ⟨object, (same handle object (onPath object holds)).mpr found, holds⟩

/-- Objects whose path is a key file of a slot belong to the slot. -/
theorem WellFormed.slotId_of_keyPath {state : State} (wellFormed : WellFormed state)
    {handle id : Nat} {object : Object} {slot : Slot}
    (found : state.objects.get? handle = some object) (slotFound : state.findSlot id = some slot)
    (keyPath : IsKeyPath slot.directory object.path) : object.slotId = id := by
  by_cases token : object.ownerSession = 0
  · rcases wellFormed.tokenObject handle object found token with
      ⟨_, _, other, otherFound, otherPath⟩
    exact wellFormed.layout.distinct _ _ _ _ otherFound slotFound (otherPath.directory_eq keyPath)
  · exact (keyPath.ne_nil (wellFormed.sessionObject handle object found token).1).elim

/-- Where the slot grants access, the objects of its key files are the same. -/
theorem SameView.samePath {slotId : Nat} {state : State} {objects : OrderedMap Nat Object}
    (view : SameView slotId state objects) {slot : Slot} (found : state.findSlot slotId = some slot)
    (grants : slot.grantsAccess = true) {path : Path} (keyPath : IsKeyPath slot.directory path) :
    SamePath path state.objects objects := by
  rintro handle object rfl
  have mine := @WellFormed.slotId_of_keyPath state view.wellFormed handle slotId object slot
  have other := @WellFormed.slotId_of_keyPath _ view.otherWellFormed handle slotId object slot
  have pair := view.pairs handle
  change objects.get? handle = some object → _ at other
  generalize state.objects.get? handle = first at pair mine ⊢
  generalize objects.get? handle = second at pair other ⊢
  cases pair with
  | same => rfl
  | foreign leftForeign rightForeign =>
      constructor
      · intro isObject
        exact (leftForeign object isObject (mine isObject found keyPath)).elim
      · intro isObject
        exact (rightForeign object isObject (other isObject found keyPath)).elim
  | concealed denies _ =>
      rw [denies slot found] at grants
      contradiction

/-- Two runs of an operation on the two tables give the same result and change the tables
alike. -/
structure Alike {ρ : Type} (state : State) (objects : OrderedMap Nat Object)
    (first second : State × ρ) : Prop where
  frame : second = (first.1.withObjects second.1.objects, first.2)
  objects : SameChange state.objects objects first.1.objects second.1.objects

namespace Alike

variable {ρ : Type} {state : State} {objects : OrderedMap Nat Object}

/-- Neither run looked at the tables. -/
theorem kept {first : State × ρ} (same : first.1.objects = state.objects) :
    Alike state objects first (first.1.withObjects objects, first.2) := by
  refine ⟨rfl, ?_⟩
  rw [same]
  exact SameChange.refl _ _

/-- What happened before can be put in front. -/
theorem after {middle : State} {middleObjects : OrderedMap Nat Object}
    {first second : State × ρ}
    (change : SameChange state.objects objects middle.objects middleObjects)
    (alike : Alike middle middleObjects first second) : Alike state objects first second :=
  ⟨alike.frame, change.trans alike.objects⟩

end Alike

end HsmSimulator
