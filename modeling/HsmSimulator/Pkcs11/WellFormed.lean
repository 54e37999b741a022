import HsmSimulator.Core.Access
import HsmSimulator.Storage.Loading

/-!
# The registry invariant

What holds between the slot, object and session tables, the two counters and the
directories in every state between two calls.  Two further properties, that the key
file of every token object exists and that path and class determine a token object,
hold as long as every pair that was registered got both its halves.
-/

namespace HsmSimulator

/-- Where the directories of the slots are: the storage root itself for the one legacy
slot, else distinct entries of the root. -/
structure SlotLayout (slots : OrderedMap Nat Slot) : Prop where
  distinct : ∀ id other slot otherSlot, slots.get? id = some slot →
    slots.get? other = some otherSlot → slot.directory = otherSlot.directory → id = other
  level : ∀ id other slot otherSlot, slots.get? id = some slot →
    slots.get? other = some otherSlot →
      slot.directory.length = otherSlot.directory.length

/-- A session object: it has no path, and its owner is an open session of its slot. -/
def SessionObject (state : State) (object : Object) : Prop :=
  object.path = [] ∧ ∃ session, state.findSession object.ownerSession = some session ∧
    session.slotId = object.slotId

/-- A token object: its path is a key file of its slot, and its class is one of those
metadata records are kept for. -/
def TokenObject (state : State) (object : Object) : Prop :=
  1 ≤ object.objectClass ∧ object.objectClass ≤ 4 ∧
    ∃ slot, state.findSlot object.slotId = some slot ∧ IsKeyPath slot.directory object.path

structure WellFormed (state : State) : Prop where
  closed : state.initialized = false →
    state.slots = ∅ ∧ state.objects = ∅ ∧ state.sessions = ∅
  counters : 0 < state.nextObjectHandle ∧ 0 < state.nextSessionHandle
  slotKey : ∀ id slot, state.findSlot id = some slot → slot.id = id
  sessionKey : ∀ handle session, state.findSession handle = some session →
    session.handle = handle ∧ 0 < handle ∧ handle < state.nextSessionHandle
  objectKey : ∀ handle object, state.objects.get? handle = some object →
    object.handle = handle ∧ 0 < handle ∧ handle < state.nextObjectHandle
  sessionSlot : ∀ handle session, state.findSession handle = some session →
    ∃ slot, state.findSlot session.slotId = some slot
  objectSlot : ∀ handle object, state.objects.get? handle = some object →
    ∃ slot, state.findSlot object.slotId = some slot
  sessionObject : ∀ handle object, state.objects.get? handle = some object →
    object.ownerSession ≠ 0 → SessionObject state object
  tokenObject : ∀ handle object, state.objects.get? handle = some object →
    object.ownerSession = 0 → TokenObject state object
  layout : SlotLayout state.slots
  /-- What a session has pending names handles that were given out. -/
  pending : ∀ handle session, state.findSession handle = some session →
    session.operation.keyHandle < state.nextObjectHandle ∧
      ∀ found ∈ session.searchMatches, found < state.nextObjectHandle

/-- Path and class determine a token object. -/
def UniqueRecords (state : State) : Prop :=
  ∀ handle other object sibling, state.objects.get? handle = some object →
    state.objects.get? other = some sibling → object.ownerSession = 0 →
    sibling.ownerSession = 0 → object.path = sibling.path →
    object.objectClass = sibling.objectClass → handle = other

/-- The key file of every token object exists. -/
def KeyFilesExist (state : State) : Prop :=
  ∀ handle object, state.objects.get? handle = some object → object.ownerSession = 0 →
    ∃ bytes, state.disk.content object.path = some bytes

namespace WellFormed

variable {state : State}

theorem sessionHandle_ne_zero (wellFormed : WellFormed state) {handle : Nat} {session : Session}
    (found : state.findSession handle = some session) : handle ≠ 0 :=
  (wellFormed.sessionKey handle session found).2.1.ne'

theorem freshObject (wellFormed : WellFormed state) {handle : Nat}
    (fresh : state.nextObjectHandle ≤ handle) : state.objects.get? handle = none := by
  cases found : state.objects.get? handle with
  | none => rfl
  | some object =>
      have below := (wellFormed.objectKey handle object found).2.2
      omega

theorem freshSession (wellFormed : WellFormed state) {handle : Nat}
    (fresh : state.nextSessionHandle ≤ handle) : state.findSession handle = none := by
  cases found : state.findSession handle with
  | none => rfl
  | some session =>
      have below := (wellFormed.sessionKey handle session found).2.2
      omega

/-- Token objects with one path belong to one slot. -/
theorem slotId_eq_of_path (wellFormed : WellFormed state) {handle other : Nat}
    {object sibling : Object} (found : state.objects.get? handle = some object)
    (siblingFound : state.objects.get? other = some sibling) (token : object.ownerSession = 0)
    (siblingToken : sibling.ownerSession = 0) (samePath : object.path = sibling.path) :
    object.slotId = sibling.slotId := by
  rcases wellFormed.tokenObject handle object found token with ⟨_, _, slot, slotFound, keyPath⟩
  rcases wellFormed.tokenObject other sibling siblingFound siblingToken with
    ⟨_, _, siblingSlot, siblingSlotFound, siblingPath⟩
  rw [samePath] at keyPath
  exact wellFormed.layout.distinct _ _ _ _ slotFound siblingSlotFound
    (keyPath.directory_eq siblingPath)

end WellFormed

/-- The freshly loaded module. -/
theorem wellFormed_loaded (disk : FileSystem) : WellFormed (.loaded disk) where
  closed := fun _ => ⟨rfl, rfl, rfl⟩
  counters := by simp [State.loaded]
  slotKey := by simp [State.findSlot, State.loaded]
  sessionKey := by simp [State.findSession, State.loaded]
  objectKey := by simp [State.loaded]
  sessionSlot := by simp [State.findSession, State.loaded]
  objectSlot := by simp [State.loaded]
  sessionObject := by simp [State.loaded]
  tokenObject := by simp [State.loaded]
  layout := by constructor <;> simp [State.loaded]
  pending := by simp [State.findSession, State.loaded]

end HsmSimulator
