import HsmSimulator.Pkcs11.Registry

/-!
# What one call does to a slot

The record of an open slot changes by a login, a logout or a new PIN only.
-/

namespace HsmSimulator

/-- The changes of the record of a slot by a call that returned a code. -/
inductive SlotChange (state : State) : Call → Rv → Slot → Slot → Prop
  | kept {call : Call} {rv : Rv} {slot : Slot} : SlotChange state call rv slot slot
  | loggedOut {call : Call} {rv : Rv} {slot : Slot} : SlotChange state call rv slot slot.loggedOut
  | loggedIn {sessionHandle userType : Nat} {pin : Buffer} {session : Session} {slot : Slot}
      {role : UserType} : LoginGuard state sessionHandle session slot role pin →
      UserType.ofNumber userType = some role →
      SlotChange state (.login sessionHandle userType pin) .ok slot
        { slot with loggedInUser := some role }
  | pinChanged {call : Call} {sessionHandle : Nat} {session : Session} {slot : Slot}
      {role : UserType} {pin : Buffer} : call.session? = some sessionHandle →
      state.findSession sessionHandle = some session → session.isReadWrite = true →
      session.slotId = slot.id → call.pinRequest state = some (slot, role, pin) →
      validatePin pin = .ok () →
      SlotChange state call .ok slot (slot.withPin role pin.content)

/-- Once a slot requires a login it goes on doing so. -/
theorem SlotChange.requiresLogin {state : State} {call : Call} {rv : Rv} {slot changed : Slot}
    (change : SlotChange state call rv slot changed) (required : slot.requiresLogin = true) :
    changed.requiresLogin = true := by
  cases change with
  | kept => exact required
  | loggedOut => exact required
  | loggedIn _ _ => exact required
  | @pinChanged _ _ _ _ role _ _ _ _ _ _ _ =>
      cases role <;> simp [Slot.requiresLogin, Slot.withPin]

/-- A slot stays where it is. -/
theorem SlotChange.place {state : State} {call : Call} {rv : Rv} {slot changed : Slot}
    (change : SlotChange state call rv slot changed) :
    changed.directory = slot.directory ∧ changed.legacyLayout = slot.legacyLayout := by
  cases change with
  | kept => exact ⟨rfl, rfl⟩
  | loggedOut => exact ⟨rfl, rfl⟩
  | loggedIn _ _ => exact ⟨rfl, rfl⟩
  | @pinChanged _ _ _ _ role _ _ _ _ _ _ _ => cases role <;> exact ⟨rfl, rfl⟩

theorem findSlot_putSlot_cases {state next : State} {call : Call} {rv : Rv} {id : Nat}
    {slot stored changed : Slot} (kept : next.slots = state.slots)
    (found : state.findSlot id = some slot) (stored' : state.findSlot stored.id = some stored)
    (change : SlotChange state call rv stored changed) :
    ∃ after, (next.putSlot stored.id changed).findSlot id = some after ∧
      SlotChange state call rv slot after := by
  rw [findSlot_putSlot]
  split
  · rename_i same
    subst same
    rw [found] at stored'
    cases stored'
    exact ⟨changed, rfl, change⟩
  · refine ⟨slot, ?_, .kept⟩
    rw [State.findSlot, kept]
    exact found

/-- The slots of an initialised module stay until it is finalised. -/
theorem Effect.slotChange {host : Host} {oracle : Oracle} {state : State} {call : Call}
    {result : State × Response} (wellFormed : WellFormed state)
    (effect : Effect host oracle state call result) {id : Nat} {slot : Slot}
    (found : state.findSlot id = some slot) :
    (call = .cFinalize false ∧ result.1.initialized = false ∧ result.2.rv = .ok) ∨
      ∃ changed, result.1.findSlot id = some changed ∧
        SlotChange state call result.2.rv slot changed := by
  have slotOf {other : Nat} {stored : Slot} (isSlot : state.findSlot other = some stored) :
      state.findSlot stored.id = some stored := by
    rw [wellFormed.slotKey other stored isSlot]
    exact isSlot
  have put (next : State) {stored changed : Slot} (kept : next.slots = state.slots)
      (stored' : state.findSlot stored.id = some stored)
      (change : SlotChange state call result.2.rv stored changed) :=
    findSlot_putSlot_cases kept found stored' change
  cases effect with
  | closedLast _ slotFound _ => exact Or.inr (put _ rfl (slotOf slotFound) .loggedOut)
  | closedAll slotFound => exact Or.inr (put _ rfl slotFound .loggedOut)
  | loggedIn guard isRole =>
      exact Or.inr (put state rfl (slotOf guard.slotFound) (.loggedIn guard isRole))
  | loggedOut _ slotFound _ => exact Or.inr (put state rfl (slotOf slotFound) .loggedOut)
  | @pinChanged _ _ session stored role pin onSession sessionFound readWrite slotFound asked
      valid =>
      have sameSlot := (wellFormed.slotKey _ _ slotFound).symm
      exact Or.inr (put _ rfl (slotOf slotFound)
        (.pinChanged onSession sessionFound readWrite sameSlot asked valid))
  | creation _ _ ends =>
      right
      refine ⟨slot, ?_, .kept⟩
      rw [ends.frame]
      exact found
  | finalized => exact Or.inl ⟨rfl, rfl, rfl⟩
  | initializing closed =>
      rw [wellFormed.initialized_of_slot found] at closed
      contradiction
  | _ => exact Or.inr ⟨slot, found, .kept⟩

end HsmSimulator
