import HsmSimulator.Storage.Slots

/-!
# Names of slot directories

A slot directory is named by a number, an underscore and a label.  The number is read
digit by digit with a test for overflow before each digit; it is refused exactly where
the exact value is out of range.
-/

namespace HsmSimulator

/-- The first number that is no `CK_SLOT_ID`. -/
def slotIdLimit : Nat := 2 ^ 64

/-- Value of a run of digits after the value of those before it. -/
def decimalFrom (value : Nat) (digits : Bytes) : Nat :=
  digits.foldl (fun value digit => value * 10 + (digit.toNat - 48)) value

/-- Exact value of a run of digits. -/
def decimalValue (digits : Bytes) : Nat := decimalFrom 0 digits

/-- The name is a non-empty run of digits, an underscore and a label. -/
structure SlotName (name digits label : Bytes) : Prop where
  parts : name = digits ++ 95 :: label
  nonempty : digits ≠ []
  digits : ∀ c ∈ digits, isDigit c = true

/-! ## Numbers -/

theorem decimalFrom_cons (value : Nat) (digit : UInt8) (rest : Bytes) :
    decimalFrom value (digit :: rest) = decimalFrom (value * 10 + (digit.toNat - 48)) rest := by
  simp only [decimalFrom, List.foldl_cons]

theorem le_decimalFrom (value : Nat) (digits : Bytes) : value ≤ decimalFrom value digits := by
  induction digits generalizing value with
  | nil => exact Nat.le_refl value
  | cons digit rest ih =>
      have further := ih (value * 10 + (digit.toNat - 48))
      rw [decimalFrom_cons]
      omega

/-- The test before each digit refuses exactly the numbers out of range. -/
theorem slotIdValue_eq {digits : Bytes} (areDigits : ∀ c ∈ digits, isDigit c = true) {value : Nat}
    (below : value < slotIdLimit) :
    slotIdValue digits value =
      if decimalFrom value digits < slotIdLimit then some (decimalFrom value digits) else none := by
  induction digits generalizing value with
  | nil => simp [slotIdValue, decimalFrom, below]
  | cons digit rest ih =>
      rcases List.forall_mem_cons.mp areDigits with ⟨isDigitFirst, restDigits⟩
      have small : digit.toNat - 48 ≤ 9 := by
        simp only [isDigit, Bool.and_eq_true, decide_eq_true_eq, UInt8.le_iff_toNat_le]
          at isDigitFirst
        have upper : digit.toNat ≤ 57 := isDigitFirst.2
        omega
      rw [slotIdValue, decimalFrom_cons]
      unfold slotIdLimit at below ih ⊢
      by_cases large : (2 ^ 64 - 1 - (digit.toNat - 48)) / 10 < value
      · have further := le_decimalFrom (value * 10 + (digit.toNat - 48)) rest
        rw [if_pos large, if_neg (by omega)]
      · rw [if_neg large]
        exact ih restDigits (by omega)

/-! ## Names -/

theorem not_mem_of_digits {digits : Bytes} (areDigits : ∀ c ∈ digits, isDigit c = true) :
    ∀ c ∈ digits, c ≠ 95 := by
  rintro c member rfl
  have isDigitHere := areDigits 95 member
  revert isDigitHere
  decide

theorem SlotName.number {name digits label : Bytes} (named : SlotName name digits label) :
    slotNumber name = digits := by
  rw [named.parts, slotNumber, List.takeWhile_append_of_pos]
  · simp
  · simpa using not_mem_of_digits named.digits

theorem SlotName.label {name digits label : Bytes} (named : SlotName name digits label) :
    slotLabel name = label := by
  rw [named.parts, slotLabel, List.dropWhile_append_of_pos]
  · simp
  · simpa using not_mem_of_digits named.digits

/-- What precedes and what follows the first underscore. -/
theorem slotName_iff {name digits label : Bytes} : SlotName name digits label ↔
    name.contains 95 = true ∧ slotNumber name = digits ∧ slotLabel name = label ∧ digits ≠ [] ∧
      digits.all isDigit = true := by
  constructor
  · intro named
    refine ⟨?_, named.number, named.label, named.nonempty, List.all_eq_true.mpr named.digits⟩
    rw [named.parts]
    simp
  · rintro ⟨separated, rfl, rfl, nonempty, areDigits⟩
    refine ⟨?_, nonempty, List.all_eq_true.mp areDigits⟩
    have whole : slotNumber name ++ name.dropWhile (· ≠ 95) = name :=
      List.takeWhile_append_dropWhile
    cases rest : name.dropWhile (· ≠ 95) with
    | nil =>
        have none' := List.dropWhile_eq_nil_iff.mp rest
        rw [List.contains_iff_mem] at separated
        have different := none' 95 separated
        simp at different
    | cons separator label =>
        have isSeparator : separator = 95 := by
          have head := List.head?_dropWhile_not (fun c : UInt8 => decide (c ≠ 95)) name
          rw [rest] at head
          simpa using head
        rw [rest, isSeparator] at whole
        rw [slotLabel, rest, List.tail_cons]
        exact whole.symm

/-- A name that is not of the form is ignored; one that is has to have a label and a
number in range. -/
theorem parseSlotId_of_slotName {name digits label : Bytes} (named : SlotName name digits label) :
    parseSlotId name =
      if label ≠ [] ∧ decimalValue digits < slotIdLimit then some (some (decimalValue digits))
      else none := by
  rcases slotName_iff.mp named with ⟨separated, number, label_eq, nonempty, areDigits⟩
  unfold parseSlotId
  dsimp only
  rw [number, label_eq, separated, areDigits, if_neg (by simp [nonempty]),
    slotIdValue_eq named.digits (by decide)]
  change (if label = [] then none else
    (if decimalValue digits < slotIdLimit then some (decimalValue digits) else none).map some) = _
  by_cases noLabel : label = []
  · simp [noLabel]
  · by_cases inRange : decimalValue digits < slotIdLimit
    · simp [noLabel, inRange]
    · simp [noLabel, inRange]

theorem parseSlotId_eq_some_none_iff {name : Bytes} :
    parseSlotId name = some none ↔ ∀ digits label, ¬SlotName name digits label := by
  constructor
  · intro ignored digits label named
    rw [parseSlotId_of_slotName named] at ignored
    split at ignored
    · cases ignored
    · contradiction
  · intro none'
    unfold parseSlotId
    refine if_pos ?_
    by_contra other
    simp only [Bool.or_eq_true, decide_eq_true_eq, not_or, Bool.not_eq_false] at other
    rcases other with ⟨⟨separated, nonempty⟩, areDigits⟩
    exact none' _ _ (slotName_iff.mpr ⟨separated, rfl, rfl, nonempty, areDigits⟩)

theorem parseSlotId_eq_some_iff {name : Bytes} {id : Nat} :
    parseSlotId name = some (some id) ↔ ∃ digits label, SlotName name digits label ∧
      label ≠ [] ∧ decimalValue digits < slotIdLimit ∧ decimalValue digits = id := by
  constructor
  · intro parsed
    by_cases form : ∃ digits label, SlotName name digits label
    · rcases form with ⟨digits, label, named⟩
      rw [parseSlotId_of_slotName named] at parsed
      split at parsed
      · rename_i valid
        cases parsed
        exact ⟨digits, label, named, valid.1, valid.2, rfl⟩
      · contradiction
    · push Not at form
      rw [parseSlotId_eq_some_none_iff.mpr form] at parsed
      cases parsed
  · rintro ⟨digits, label, named, hasLabel, inRange, rfl⟩
    rw [parseSlotId_of_slotName named, if_pos ⟨hasLabel, inRange⟩]

end HsmSimulator
