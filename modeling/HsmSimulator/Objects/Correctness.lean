import HsmSimulator.Objects.Objects
import HsmSimulator.Objects.Policy

/-!
# What the object operations check and change

Inversions of the checks of the object operations, and the law of attribute changes:
only label, id and policies change, and the two policies that protect the key value
change in one direction only.
-/

namespace HsmSimulator

open Checks

/-! ## Changing attributes -/

/-- What protects the value of a key is kept: a sensitive object stays sensitive and
one that is not extractable stays so. -/
structure KeepsProtection (before after : Object) : Prop where
  sensitive : policyValue before ckaSensitive = true → policyValue after ckaSensitive = true
  extractable : policyValue before ckaExtractable = false →
    policyValue after ckaExtractable = false

theorem KeepsProtection.refl (object : Object) : KeepsProtection object object :=
  ⟨id, id⟩

theorem KeepsProtection.trans {first second third : Object} (earlier : KeepsProtection first second)
    (later : KeepsProtection second third) : KeepsProtection first third :=
  ⟨fun sensitive => later.sensitive (earlier.sensitive sensitive),
    fun notExtractable => later.extractable (earlier.extractable notExtractable)⟩

/-- An object whose label, id and policies were replaced. -/
def Object.relabelled (object : Object) (label id : Bytes) (policy : OrderedMap Nat Bool) :
    Object :=
  { object with label := label, id := id, policy := policy }

/-- Policy of an object after storing one entry. -/
theorem policyValue_insert (object : Object) (label id : Bytes) (policy : OrderedMap Nat Bool)
    (stored type : Nat) (value : Bool) :
    policyValue (object.relabelled label id (policy.insert stored value)) type =
      if type = stored then value else policyValue (object.relabelled label id policy) type := by
  simp only [policyValue, Object.relabelled, OrderedMap.get?_insert]
  split <;> rfl

/-- Label and id do not matter for the protection. -/
theorem KeepsProtection.rename {object : Object} {label id : Bytes}
    {policy : OrderedMap Nat Bool}
    (keeps : KeepsProtection object (object.relabelled label id policy)) (label' id' : Bytes) :
    KeepsProtection object (object.relabelled label' id' policy) :=
  ⟨keeps.sensitive, keeps.extractable⟩

/-- Storing one entry that `SetAttributeValue` lets through keeps the protection. -/
theorem KeepsProtection.insert {object : Object} {label id : Bytes}
    {policy : OrderedMap Nat Bool} {type : Nat} {value : Bool}
    (keeps : KeepsProtection object (object.relabelled label id policy))
    (allowed : ¬((type = ckaSensitive ∧ policyValue object type = true ∧ value = false) ∨
      (type = ckaExtractable ∧ policyValue object type = false ∧ value = true))) :
    KeepsProtection object (object.relabelled label id (policy.insert type value)) := by
  constructor
  · intro sensitive
    rw [policyValue_insert]
    split
    · rename_i same
      subst same
      cases value with
      | true => rfl
      | false => exact (allowed (Or.inl ⟨rfl, sensitive, rfl⟩)).elim
    · exact keeps.sensitive sensitive
  · intro extractable
    rw [policyValue_insert]
    split
    · rename_i same
      subst same
      cases value with
      | true => exact (allowed (Or.inr ⟨rfl, extractable, rfl⟩)).elim
      | false => rfl
    · exact keeps.extractable extractable

/-- The loop changes label, id and policies, and keeps the protection. -/
theorem changeAttributes_eq_ok {object result : Object} {entries : List Attribute}
    {label id : Bytes} {policy : OrderedMap Nat Bool}
    (keeps : KeepsProtection object (object.relabelled label id policy))
    (changes : changeAttributes object (object.relabelled label id policy) entries =
      .ok result) :
    (∃ label' id', result =
        object.relabelled label' id' (applyPolicyTemplate policy (.entries entries))) ∧
      KeepsProtection object result := by
  induction entries generalizing label id policy with
  | nil =>
      cases changes
      exact ⟨⟨label, id, rfl⟩, keeps⟩
  | cons entry rest ih =>
      unfold changeAttributes at changes
      split at changes
      · rename_i isLabel
        have notPolicy : isPolicyAttribute entry.type = false := by rw [isLabel]; decide
        have result := ih (keeps.rename (templateString (.entries [entry]) entry.type []) id)
          changes
        simpa [applyPolicyTemplate, Template.toList, notPolicy] using result
      · split at changes
        · rename_i isId
          have notPolicy : isPolicyAttribute entry.type = false := by rw [isId]; decide
          have result :=
            ih (keeps.rename label (templateString (.entries [entry]) entry.type [])) changes
          simpa [applyPolicyTemplate, Template.toList, notPolicy] using result
        · split at changes
          · rename_i isPolicy
            split at changes
            · contradiction
            · rename_i allowed
              have result := ih (keeps.insert allowed) changes
              simpa [applyPolicyTemplate, Template.toList, isPolicy] using result
          · contradiction

/-- The object `SetAttributeValue` works on, before and after. -/
structure AttributeChange (state : State) (sessionHandle handle : Nat) (attributes : Template)
    (object changed : Object) : Prop where
  passes : changedObject state sessionHandle handle attributes = .ok changed
  found : state.findObject sessionHandle handle = some object
  access : state.requireUserLogin sessionHandle = .ok ()
  modifiable : policyValue object ckaModifiable = true
  writable : ∃ session, state.findSession sessionHandle = some session ∧
    (object.ownerSession ≠ 0 ∨ session.isReadWrite = true)
  relabelled : ∃ label id,
    changed = object.relabelled label id (applyPolicyTemplate object.policy attributes)
  keeps : KeepsProtection object changed

theorem alterableObject_eq_ok {state : State} {sessionHandle handle required : Nat}
    {object : Object}
    (passes : alterableObject state sessionHandle handle required = .ok object) :
    state.findObject sessionHandle handle = some object ∧
      state.requireUserLogin sessionHandle = .ok () ∧ policyValue object required = true ∧
      ∃ session, state.findSession sessionHandle = some session ∧
        (object.ownerSession ≠ 0 ∨ session.isReadWrite = true) := by
  simp only [alterableObject, bind_eq_ok_iff, fetch_eq_ok_iff, require_eq_ok_iff, pure_eq_ok,
    Except.ok.injEq] at passes
  rcases passes with ⟨session, sessionFound, stored, found, _, access, _, allowed, _, writable, rfl⟩
  exact ⟨found, access, allowed, session, sessionFound, writable⟩

theorem changedObject_eq_ok {state : State} {sessionHandle handle : Nat} {attributes : Template}
    {changed : Object}
    (passes : changedObject state sessionHandle handle attributes = .ok changed) :
    ∃ object, AttributeChange state sessionHandle handle attributes object changed := by
  have checks := passes
  simp only [changedObject, bind_eq_ok_iff] at checks
  rcases checks with ⟨object, alterable, _, _, changes⟩
  rcases alterableObject_eq_ok alterable with ⟨found, access, allowed, writable⟩
  have unchanged : KeepsProtection object
      (object.relabelled object.label object.id object.policy) := KeepsProtection.refl object
  rcases changeAttributes_eq_ok unchanged changes with ⟨⟨label, id, rfl⟩, keeps⟩
  refine ⟨object, passes, found, access, allowed, writable, ⟨label, id, ?_⟩, keeps⟩
  cases attributes <;> rfl

/-! ## Destroying -/

/-- What `DestroyObject` has established before it removes anything. -/
structure Destruction (state : State) (sessionHandle handle : Nat) (object : Object) : Prop where
  found : state.findObject sessionHandle handle = some object
  access : state.requireUserLogin sessionHandle = .ok ()
  destroyable : policyValue object ckaDestroyable = true
  writable : ∃ session, state.findSession sessionHandle = some session ∧
    (object.ownerSession ≠ 0 ∨ session.isReadWrite = true)
  siblings : object.ownerSession = 0 → ∀ other stored, state.objects.get? other = some stored →
    stored.path = object.path → policyValue stored ckaDestroyable = true

theorem destroyableObject_eq_ok {state : State} {sessionHandle handle : Nat} {object : Object}
    (passes : destroyableObject state sessionHandle handle = .ok object) :
    Destruction state sessionHandle handle object := by
  simp only [destroyableObject, bind_eq_ok_iff, require_eq_ok_iff, pure_eq_ok, Except.ok.injEq]
    at passes
  rcases passes with ⟨stored, alterable, _, veto, rfl⟩
  rcases alterableObject_eq_ok alterable with ⟨found, access, allowed, writable⟩
  refine ⟨found, access, allowed, writable, ?_⟩
  intro token other sibling siblingFound samePath
  have listed : sibling ∈ state.objects.values :=
    OrderedMap.mem_values_iff.mpr ⟨other, siblingFound⟩
  rw [List.any_eq_false] at veto
  have notVetoed := veto sibling listed
  simpa [token, samePath] using notVetoed

/-! ## Searching -/

/-- A search lists only objects that the session may look at. -/
theorem matchesTemplate_accessible {host : Host} {state : State} {sessionHandle handle : Nat}
    {session : Session} {attributes : Template} {object : Object}
    (sessionFound : state.findSession sessionHandle = some session)
    (found : state.objects.get? handle = some object)
    (listed : matchesTemplate host state sessionHandle session attributes object = true) :
    state.Accessible sessionHandle handle := by
  simp only [matchesTemplate, Bool.and_eq_true, decide_eq_true_eq] at listed
  rcases listed with ⟨⟨sameSlot, access⟩, _⟩
  refine ⟨object, State.findObject_eq_some_iff.mpr ⟨session, sessionFound, found, sameSlot⟩, ?_⟩
  cases status : state.objectAccessStatus sessionHandle object with
  | ok value => rfl
  | error code => simp [status] at access

end HsmSimulator
