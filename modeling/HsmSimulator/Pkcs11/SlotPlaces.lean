import HsmSimulator.Pkcs11.TokenEffects

/-!
# Slots stay in place

No call makes, moves or removes the directory of a slot, so every initialisation finds
the slots where the last one did.
-/

namespace HsmSimulator

open FileSystem

variable {host : Host} {oracle : Oracle} {state : State}

/-- On a closed module only an initialisation does anything. -/
theorem step_closed_cases (closed : state.initialized = false) (call : Call) :
    (step host state (call, oracle)).1 = state ∧ (step host state (call, oracle)).2.rv ≠ .ok ∨
      call = .cInitialize false ∧
        Initialization host oracle state (step host state (call, oracle)) := by
  cases call with
  | cInitialize hasReserved =>
      cases hasReserved with
      | true =>
          left
          simp [step, Call.needsInitialization, service, cInitialize, closed]
      | false => exact Or.inr ⟨rfl, cInitialize_initialization host oracle closed⟩
  | _ =>
      left
      simp [step, Call.needsInitialization, closed]

/-- An open module makes and removes no directory. -/
theorem TokenEffect.directories {call : Call} {result : State × Response}
    (isOpen : state.initialized = true) (effect : TokenEffect host oracle state call result) :
    result.1.disk.directories = state.disk.directories := by
  cases effect with
  | kept _ sameDisk => rw [sameDisk]
  | pinWritten _ _ _ written => rw [written, directories_writeFile]
  | altered _ _ _ _ => rfl
  | metadataLeft _ _ _ => rfl
  | @destroyed _ _ object _ _ _ _ removed =>
      have agrees := @keyFileRemoval_agrees _ _ _ [object.path, Metadata.path object.path] _ _ _
        removed (by simp) (by simp)
      exact agrees.directories
  | creation _ _ _ _ _ creation => exact creation.agrees.1.directories
  | finalized => rfl
  | initializing closed _ =>
      rw [isOpen] at closed
      contradiction

theorem slotPlace_of_directories {before after : FileSystem}
    (same : after.directories = before.directories) (root : Path) (id : Nat) (directory : Path)
    (legacyLayout : Bool) :
    SlotPlace after root id directory legacyLayout ↔
      SlotPlace before root id directory legacyLayout := by
  apply slotPlace_congr
  intro entry _ _
  rw [mem_subdirectories, mem_subdirectories, same]

theorem mem_flatMap_slotDirectories {slots : List Slot} {path : Path}
    (member : path ∈ slots.flatMap slotDirectories) :
    ∃ directory : Path,
      path = directory.child asymmetricDirectory ∨ path = directory.child symmetricDirectory := by
  rcases List.mem_flatMap.mp member with ⟨slot, _, inSlot⟩
  exact ⟨slot.directory, by simpa [slotDirectories] using inSlot⟩

theorem Initialization.slotPlace {result : State × Response}
    (initialization : Initialization host oracle state result) (id : Nat) (directory : Path)
    (legacyLayout : Bool) :
    SlotPlace result.1.disk host.dataDirectory id directory legacyLayout ↔
      SlotPlace state.disk host.dataDirectory id directory legacyLayout := by
  cases initialization with
  | failed _ _ _ _ _ _ prepared created =>
      apply slotPlace_prepared prepared
      intro path member
      rcases created path member with isRoot | ⟨_, parent, _, _, isKind⟩
      · exact Or.inl isRoot
      · exact Or.inr ⟨parent, isKind⟩
  | succeeded prepared _ loaded =>
      apply slotPlace_prepared (prepared.trans loaded.prepared)
      intro path member
      rcases List.mem_append.mp member with isRoot | inSlots
      · exact Or.inl (List.mem_singleton.mp isRoot)
      · exact Or.inr (mem_flatMap_slotDirectories inSlots)

/-- No call moves a slot. -/
theorem slotPlace_step (wellFormed : WellFormed state) (input : Call × Oracle) (id : Nat)
    (directory : Path) (legacyLayout : Bool) :
    SlotPlace (step host state input).1.disk host.dataDirectory id directory legacyLayout ↔
      SlotPlace state.disk host.dataDirectory id directory legacyLayout := by
  rcases input with ⟨call, oracle⟩
  cases isOpen : state.initialized with
  | true =>
      exact slotPlace_of_directories ((step_token wellFormed call).directories isOpen) _ _ _ _
  | false =>
      rcases @step_closed_cases host oracle state isOpen call with ⟨same, _⟩ | ⟨_, initialization⟩
      · rw [same]
      · exact initialization.slotPlace id directory legacyLayout

/-- What an initialisation found is what the root says. -/
theorem Discovered.slotPlace_iff {disk : FileSystem} {slots : OrderedMap Nat Slot} {root : Path}
    (discovered : Discovered host disk oracle root slots) {id : Nat} {slot : Slot}
    (found : slots.get? id = some slot) (directory : Path) (legacyLayout : Bool) :
    SlotPlace disk root id directory legacyLayout ↔
      directory = slot.directory ∧ legacyLayout = slot.legacyLayout := by
  constructor
  · intro place
    rcases discovered.listed id directory legacyLayout place with ⟨other, otherFound, loaded⟩
    rw [found] at otherFound
    cases otherFound
    exact ⟨loaded.directory.symm, loaded.layout.symm⟩
  · rintro ⟨rfl, rfl⟩
    rcases discovered.origin id slot found with ⟨directory, legacyLayout, place, loaded⟩
    rw [loaded.directory, loaded.layout]
    exact place

end HsmSimulator
