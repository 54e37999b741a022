import Mathlib

/-!
# Early returns

A routine that tests its arguments one after the other and returns the code of
the first test that fails is a computation in `Except`.  The lemmas below invert
such a computation: it returns `.ok` exactly when every test passed, and each
step of it can be peeled off without unfolding the rest.
-/

namespace Checks

variable {ε α β : Type}

/-- Return `code` unless the condition holds. -/
def require (condition : Prop) [Decidable condition] (code : ε) : Except ε Unit :=
  if condition then .ok () else .error code

/-- Return `code` unless the value is there. -/
def fetch (value : Option α) (code : ε) : Except ε α :=
  match value with
  | some found => .ok found
  | none => .error code

@[simp]
theorem require_eq_ok_iff {condition : Prop} [Decidable condition] {code : ε} {value : Unit} :
    require condition code = .ok value ↔ condition := by
  unfold require
  split <;> simp_all

@[simp]
theorem require_eq_error_iff {condition : Prop} [Decidable condition] {code other : ε} :
    require condition code = .error other ↔ ¬condition ∧ code = other := by
  unfold require
  split <;> simp_all

@[simp]
theorem fetch_eq_ok_iff {value : Option α} {code : ε} {found : α} :
    fetch value code = .ok found ↔ value = some found := by
  cases value <;> simp [fetch]

@[simp]
theorem fetch_eq_error_iff {value : Option α} {code other : ε} :
    fetch value code = .error other ↔ value = none ∧ code = other := by
  cases value <;> simp [fetch]

@[simp]
theorem fetch_some (found : α) (code : ε) : fetch (some found) code = .ok found :=
  rfl

@[simp]
theorem fetch_none (code : ε) : fetch (none : Option α) code = .error code :=
  rfl

/-- A sequence of checks passes exactly when its first step passes and the rest
passes on the value of that step. -/
theorem bind_eq_ok_iff {first : Except ε α} {rest : α → Except ε β} {result : β} :
    (first >>= rest) = .ok result ↔ ∃ value, first = .ok value ∧ rest value = .ok result := by
  cases first <;> simp [bind, Except.bind]

theorem bind_eq_error_iff {first : Except ε α} {rest : α → Except ε β} {code : ε} :
    (first >>= rest) = .error code ↔
      first = .error code ∨ ∃ value, first = .ok value ∧ rest value = .error code := by
  cases first <;> simp [bind, Except.bind]

@[simp]
theorem ok_bind (value : α) (rest : α → Except ε β) :
    ((Except.ok value : Except ε α) >>= rest) = rest value :=
  rfl

@[simp]
theorem error_bind (code : ε) (rest : α → Except ε β) :
    ((Except.error code : Except ε α) >>= rest) = .error code :=
  rfl

@[simp]
theorem pure_eq_ok (value : α) : (pure value : Except ε α) = .ok value :=
  rfl

theorem fetch_map (value : Option α) (update : α → β) (code : ε) :
    fetch (value.map update) code = update <$> fetch value code := by
  cases value <;> rfl

theorem toOption_eq_some_iff {checked : Except ε α} {value : α} :
    checked.toOption = some value ↔ checked = .ok value := by
  cases checked <;> simp [Except.toOption]

end Checks
