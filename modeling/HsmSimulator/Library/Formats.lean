import Mathlib

/-!
# Readers of binary formats

A reader takes a value off the front of its input and hands on the rest.  A format says
which inputs encode which value; a value may have several encodings.  A reader reads a
format if it succeeds exactly on the inputs that start with an encoding.  The rules below
build this for a composed reader from its parts: sequences, guards, and the repetition
that adds the items it reads to a total.
-/

universe u v w x y

namespace Formats

variable {β : Type u} {α : Type v} {γ : Type w} {ι : Type x} {τ : Type y}

/-- A reader takes a value off the front of its input. -/
abbrev Reader (β : Type u) (α : Type v) := List β → Option (α × List β)

/-- A format relates values to their encodings. -/
abbrev Format (β : Type u) (α : Type v) := α → List β → Prop

/-- The reader succeeds exactly where the input starts with an encoding of the value. -/
def Reads (read : Reader β α) (format : Format β α) : Prop :=
  ∀ input value rest, read input = some (value, rest) ↔
    ∃ encoding, format value encoding ∧ input = encoding ++ rest

/-! ## Composed formats -/

/-- The format of nothing at all. -/
def Nothing (value : α) : Format β α := fun result encoding => result = value ∧ encoding = []

/-- A value of the first format and then one of the format it selects. -/
def Then (first : Format β α) (second : α → Format β γ) : Format β γ := fun result encoding =>
  ∃ value front back, first value front ∧ second value result back ∧ encoding = front ++ back

/-- Encodings of all items, one after the other. -/
def Each (item : Format β ι) : List ι → List β → Prop
  | [], encoding => encoding = []
  | value :: rest, encoding =>
      ∃ front back, item value front ∧ Each item rest back ∧ encoding = front ++ back

/-- Read items, adding each of them to the total. -/
def readInto (read : Reader β ι) (add : γ → ι → Option γ) : Nat → γ → Reader β γ
  | 0, total, input => some (total, input)
  | count + 1, total, input =>
      (read input).bind fun result => (add total result.1).bind fun sum =>
        readInto read add count sum result.2

/-- A number of items that add up to the result. -/
def Into (item : Format β ι) (add : γ → ι → Option γ) (count : Nat) (total : γ) : Format β γ :=
  fun result encoding =>
    ∃ items, items.length = count ∧ items.foldlM add total = some result ∧
      Each item items encoding

/-- Read a number of elements as they are. -/
def readBlock (count : Nat) : Reader β (List β) := fun input =>
  if input.length < count then none else some (input.take count, input.drop count)

/-- A block of a length. -/
def Block (count : Nat) : Format β (List β) := fun value encoding =>
  value.length = count ∧ encoding = value

/-! ## Rules -/

theorem Reads.nothing (value : α) :
    Reads (fun input : List β => some (value, input)) (Nothing value) := by
  intro input result rest
  simp only [Option.some.injEq, Prod.mk.injEq, Nothing]
  constructor
  · rintro ⟨rfl, rfl⟩
    exact ⟨[], ⟨rfl, rfl⟩, rfl⟩
  · rintro ⟨encoding, ⟨rfl, rfl⟩, rfl⟩
    exact ⟨rfl, rfl⟩

theorem Reads.block (count : Nat) : Reads (readBlock count : Reader β (List β)) (Block count) := by
  intro input value rest
  unfold readBlock Block
  constructor
  · intro taken
    split at taken
    · contradiction
    · rename_i long
      cases taken
      refine ⟨input.take count, ⟨?_, rfl⟩, (List.take_append_drop count input).symm⟩
      rw [List.length_take]
      omega
  · rintro ⟨encoding, ⟨rfl, rfl⟩, rfl⟩
    simp

theorem Reads.andThen {read : Reader β α} {first : Format β α} {next : α → Reader β γ}
    {second : α → Format β γ} (reads : Reads read first)
    (continues : ∀ value, Reads (next value) (second value)) :
    Reads (fun input => (read input).bind fun result => next result.1 result.2)
      (Then first second) := by
  intro input result rest
  simp only [Option.bind_eq_some_iff, Prod.exists, Then]
  constructor
  · rintro ⟨value, middle, readFirst, readSecond⟩
    rcases (reads _ _ _).mp readFirst with ⟨front, isFirst, rfl⟩
    rcases (continues value _ _ _).mp readSecond with ⟨back, isSecond, rfl⟩
    exact ⟨front ++ back, ⟨value, front, back, isFirst, isSecond, rfl⟩,
      (List.append_assoc _ _ _).symm⟩
  · rintro ⟨encoding, ⟨value, front, back, isFirst, isSecond, rfl⟩, rfl⟩
    refine ⟨value, back ++ rest, ?_, (continues value _ _ _).mpr ⟨back, isSecond, rfl⟩⟩
    exact (reads _ _ _).mpr ⟨front, isFirst, List.append_assoc _ _ _⟩

theorem Reads.guard {read : Reader β α} {format : Format β α} {bad : Prop} [Decidable bad]
    (reads : Reads read format) :
    Reads (fun input => if bad then none else read input)
      (fun value encoding => ¬bad ∧ format value encoding) := by
  intro input value rest
  by_cases isBad : bad
  · simp [isBad]
  · simpa [isBad] using reads input value rest

theorem Reads.congr {read : Reader β α} {format other : Format β α} (reads : Reads read format)
    (same : ∀ value encoding, format value encoding ↔ other value encoding) :
    Reads read other := by
  intro input value rest
  simp only [reads input value rest, same]

theorem Reads.into {read : Reader β ι} {item : Format β ι} (reads : Reads read item)
    (add : γ → ι → Option γ) (count : Nat) (total : γ) :
    Reads (readInto read add count total) (Into item add count total) := by
  induction count generalizing total with
  | zero =>
      intro input result rest
      simp only [readInto, Option.some.injEq, Prod.mk.injEq, Into, List.length_eq_zero_iff]
      constructor
      · rintro ⟨rfl, rfl⟩
        exact ⟨[], ⟨[], rfl, rfl, rfl⟩, rfl⟩
      · rintro ⟨encoding, ⟨items, rfl, added, isEach⟩, rfl⟩
        cases added
        cases isEach
        exact ⟨rfl, rfl⟩
  | succ count ih =>
      intro input result rest
      simp only [readInto, Option.bind_eq_some_iff, Prod.exists]
      constructor
      · rintro ⟨first, middle, readFirst, sum, added, readRest⟩
        rcases (reads _ _ _).mp readFirst with ⟨front, isFirst, rfl⟩
        rcases (ih sum _ _ _).mp readRest with ⟨back, ⟨items, rfl, addedRest, isEach⟩, rfl⟩
        refine ⟨front ++ back, ⟨first :: items, rfl, ?_, front, back, isFirst, isEach, rfl⟩,
          (List.append_assoc _ _ _).symm⟩
        simp [added, addedRest]
      · rintro ⟨encoding, ⟨items, length, added, isEach⟩, rfl⟩
        cases items with
        | nil => contradiction
        | cons first items =>
            rcases isEach with ⟨front, back, isFirst, isEach, rfl⟩
            simp only [List.foldlM_cons, Option.bind_eq_bind, Option.bind_eq_some_iff] at added
            rcases added with ⟨sum, added, addedRest⟩
            refine ⟨first, back ++ rest, (reads _ _ _).mpr ⟨front, isFirst, ?_⟩, sum, added, ?_⟩
            · exact List.append_assoc _ _ _
            · exact (ih sum _ _ _).mpr
                ⟨back, ⟨items, by simpa using length, addedRest, isEach⟩, rfl⟩

/-- Nothing is left exactly where the whole input is an encoding. -/
theorem Reads.whole {read : Reader β α} {format : Format β α} (reads : Reads read format)
    {input : List β} {value : α} : read input = some (value, []) ↔ format value input := by
  rw [reads]
  simp

/-! ## Formats a reader takes in part -/

/-- On an encoding the reader reads the value, or it fails. -/
def Respects (read : Reader β α) (format : Format β α) : Prop :=
  ∀ value encoding rest result, format value encoding →
    read (encoding ++ rest) = some result → result = (value, rest)

theorem Reads.respects {read : Reader β α} {format : Format β α} (reads : Reads read format) :
    Respects read format := by
  intro value encoding rest result encoded isRead
  rw [(reads _ _ _).mpr ⟨encoding, encoded, rfl⟩] at isRead
  exact (Option.some.inj isRead).symm

theorem Respects.andThen {read : Reader β α} {first : Format β α} {next : α → Reader β γ}
    {second : α → Format β γ} (respects : Respects read first)
    (continues : ∀ value, Respects (next value) (second value)) :
    Respects (fun input => (read input).bind fun result => next result.1 result.2)
      (Then first second) := by
  rintro result _ rest outcome ⟨value, front, back, isFirst, isSecond, rfl⟩ isRead
  rcases Option.bind_eq_some_iff.mp isRead with ⟨middle, readFirst, readSecond⟩
  rw [List.append_assoc] at readFirst
  rw [respects value front (back ++ rest) middle isFirst readFirst] at readSecond
  exact continues value result back rest outcome isSecond readSecond

/-- A reader may refuse more. -/
theorem Respects.guard {read : Reader β α} {format : Format β α} (bad : Prop) [Decidable bad]
    (respects : Respects read format) :
    Respects (fun input => if bad then none else read input) format := by
  intro value encoding rest result encoded isRead
  dsimp only at isRead
  split at isRead
  · contradiction
  · exact respects value encoding rest result encoded isRead

theorem Respects.mono {read : Reader β α} {format other : Format β α}
    (respects : Respects read format)
    (narrower : ∀ value encoding, other value encoding → format value encoding) :
    Respects read other := by
  intro value encoding rest result encoded
  exact respects value encoding rest result (narrower value encoding encoded)

theorem Respects.into {read : Reader β ι} {item : Format β ι} (respects : Respects read item)
    (add : γ → ι → Option γ) (count : Nat) (total : γ) :
    Respects (readInto read add count total) (Into item add count total) := by
  induction count generalizing total with
  | zero =>
      rintro value _ rest result ⟨items, length, added, isEach⟩ isRead
      rw [List.length_eq_zero_iff] at length
      subst length
      cases added
      cases isEach
      exact (Option.some.inj isRead).symm
  | succ count ih =>
      rintro value _ rest result ⟨items, length, added, isEach⟩ isRead
      cases items with
      | nil => contradiction
      | cons first items =>
          rcases isEach with ⟨front, back, isFirst, isEach, rfl⟩
          simp only [readInto, Option.bind_eq_some_iff] at isRead
          rcases isRead with ⟨middle, readFirst, sum, sumAdded, readRest⟩
          rw [List.append_assoc] at readFirst
          rw [respects first front (back ++ rest) middle isFirst readFirst] at sumAdded readRest
          simp only [List.foldlM_cons, Option.bind_eq_bind, Option.bind_eq_some_iff] at added
          rcases added with ⟨other, otherAdded, addedRest⟩
          rw [sumAdded] at otherAdded
          cases otherAdded
          exact ih sum value back rest result
            ⟨items, by simpa using length, addedRest, isEach⟩ readRest

/-! ## Formats with a syntax -/

/-- The encodings of a value are the renderings of the valid texts that mean it. -/
def Rendered (Valid : τ → Prop) (meaning : τ → α) (render : τ → List β) :
    Format β α := fun value encoding =>
  ∃ text, Valid text ∧ meaning text = value ∧ render text = encoding

theorem each_rendered_iff {Valid : τ → Prop} {meaning : τ → ι}
    {render : τ → List β} {items : List ι} {encoding : List β} :
    Each (Rendered Valid meaning render) items encoding ↔
      ∃ texts : List τ, (∀ text ∈ texts, Valid text) ∧ texts.map meaning = items ∧
        texts.flatMap render = encoding := by
  induction items generalizing encoding with
  | nil =>
      simp only [Each, List.map_eq_nil_iff]
      constructor
      · rintro rfl
        exact ⟨[], by simp, rfl, rfl⟩
      · rintro ⟨texts, _, rfl, rfl⟩
        rfl
  | cons item items ih =>
      simp only [Each, ih]
      constructor
      · rintro ⟨front, back, ⟨text, valid, rfl, rfl⟩, ⟨texts, allValid, rfl, rfl⟩, rfl⟩
        refine ⟨text :: texts, ?_, rfl, rfl⟩
        intro other member
        rcases List.mem_cons.mp member with rfl | member
        · exact valid
        · exact allValid other member
      · rintro ⟨texts, allValid, same, rfl⟩
        cases texts with
        | nil => contradiction
        | cons text texts =>
            simp only [List.map_cons, List.cons.injEq] at same
            refine ⟨render text, texts.flatMap render,
              ⟨text, allValid text (by simp), same.1, rfl⟩,
              ⟨texts, fun other member => allValid other (by simp [member]), same.2, rfl⟩, rfl⟩

end Formats
