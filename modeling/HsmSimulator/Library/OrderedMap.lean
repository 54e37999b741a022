import Mathlib

/-!
# Ordered finite maps

A finite map is the list of its entries in strictly increasing key order.  The
order is a field of the structure, so two maps with the same lookups are equal
and every function below can be evaluated by the kernel.  The operations are
those of an ordered associative container: assignment, insertion that keeps an
existing entry, erasure by key and by predicate, and a pointwise update.
-/

set_option linter.unusedSectionVars false

universe u v

/-- Entries with strictly increasing keys. -/
structure OrderedMap (κ : Type u) (α : Type v) [Ord κ] where
  entries : List (κ × α)
  sorted : entries.Pairwise fun left right => compare left.1 right.1 = .lt

namespace OrderedMap

variable {κ : Type u} {α : Type v} [Ord κ]

/-- First value stored under a key in a list of entries. -/
def lookupEntry (key : κ) : List (κ × α) → Option α
  | [] => none
  | (stored, value) :: rest =>
      if compare key stored = .eq then some value else lookupEntry key rest

/-- Place an entry at its position, replacing an entry with the same key. -/
def insertEntry (key : κ) (value : α) : List (κ × α) → List (κ × α)
  | [] => [(key, value)]
  | (stored, old) :: rest =>
      match compare key stored with
      | .lt => (key, value) :: (stored, old) :: rest
      | .eq => (key, value) :: rest
      | .gt => (stored, old) :: insertEntry key value rest

theorem mem_insertEntry {key : κ} {value : α} {entry : κ × α} {entries : List (κ × α)}
    (member : entry ∈ insertEntry key value entries) :
    entry = (key, value) ∨ entry ∈ entries := by
  induction entries with
  | nil => simpa [insertEntry] using member
  | cons head rest ih =>
      obtain ⟨stored, old⟩ := head
      simp only [insertEntry] at member
      split at member <;> grind

variable [Std.TransOrd κ] [Std.LawfulEqOrd κ]

theorem insertEntry_sorted (key : κ) (value : α) {entries : List (κ × α)}
    (sorted : entries.Pairwise fun left right => compare left.1 right.1 = .lt) :
    (insertEntry key value entries).Pairwise
      fun left right => compare left.1 right.1 = .lt := by
  induction entries with
  | nil => simp [insertEntry]
  | cons head rest ih =>
      obtain ⟨stored, old⟩ := head
      obtain ⟨below, restSorted⟩ := List.pairwise_cons.mp sorted
      simp only [insertEntry]
      split
      · rename_i before
        refine List.pairwise_cons.mpr ⟨?_, sorted⟩
        intro entry member
        rcases List.mem_cons.mp member with rfl | member
        · exact before
        · exact Std.TransCmp.lt_trans before (below entry member)
      · rename_i same
        obtain rfl := Std.LawfulEqOrd.eq_of_compare same
        exact List.pairwise_cons.mpr ⟨below, restSorted⟩
      · rename_i after
        refine List.pairwise_cons.mpr ⟨?_, ih restSorted⟩
        intro entry member
        rcases mem_insertEntry member with rfl | member
        · exact Std.OrientedCmp.lt_of_gt after
        · exact below entry member

/-- The map without entries. -/
def empty : OrderedMap κ α := ⟨[], List.Pairwise.nil⟩

instance : EmptyCollection (OrderedMap κ α) := ⟨empty⟩

instance : Inhabited (OrderedMap κ α) := ⟨∅⟩

instance [DecidableEq κ] [DecidableEq α] : DecidableEq (OrderedMap κ α) := fun left right =>
  decidable_of_iff (left.entries = right.entries) (by
    cases left
    cases right
    simp)

/-- The value stored under a key. -/
def get? (map : OrderedMap κ α) (key : κ) : Option α :=
  lookupEntry key map.entries

/-- Assignment: afterwards the key has this value. -/
def insert (map : OrderedMap κ α) (key : κ) (value : α) : OrderedMap κ α :=
  ⟨insertEntry key value map.entries, insertEntry_sorted key value map.sorted⟩

/-- Insertion that keeps the entry a key already has. -/
def emplace (map : OrderedMap κ α) (key : κ) (value : α) : OrderedMap κ α :=
  if (map.get? key).isSome then map else map.insert key value

/-- Keep the entries that satisfy a test. -/
def filter (map : OrderedMap κ α) (keep : κ → α → Bool) : OrderedMap κ α :=
  ⟨map.entries.filter fun entry => keep entry.1 entry.2, map.sorted.filter _⟩

/-- Remove the entry of a key. -/
def erase [DecidableEq κ] (map : OrderedMap κ α) (key : κ) : OrderedMap κ α :=
  map.filter fun stored _ => stored ≠ key

/-- Remove the entries that satisfy a test. -/
def eraseIf (map : OrderedMap κ α) (drop : κ → α → Bool) : OrderedMap κ α :=
  map.filter fun key value => !drop key value

/-- Apply a function to every value. -/
def mapValues {β : Type v} (map : OrderedMap κ α) (update : α → β) : OrderedMap κ β :=
  ⟨map.entries.map fun entry => (entry.1, update entry.2),
    List.pairwise_map.mpr map.sorted⟩

/-- Number of entries. -/
def size (map : OrderedMap κ α) : Nat := map.entries.length

/-- The keys, in increasing order. -/
def keys (map : OrderedMap κ α) : List κ := map.entries.map Prod.fst

/-- The values, in the order of their keys. -/
def values (map : OrderedMap κ α) : List α := map.entries.map Prod.snd

/-! ## Lookup and membership -/

/-- A key below every listed entry is not listed. -/
theorem not_mem_of_below {key : κ} {value : α} {entries : List (κ × α)}
    (below : ∀ entry ∈ entries, compare key entry.1 = .lt) : (key, value) ∉ entries := by
  intro member
  have irrefl := below _ member
  simp [Std.ReflCmp.compare_self] at irrefl

theorem lookupEntry_eq_some_iff {key : κ} {value : α} {entries : List (κ × α)}
    (sorted : entries.Pairwise fun left right => compare left.1 right.1 = .lt) :
    lookupEntry key entries = some value ↔ (key, value) ∈ entries := by
  induction entries with
  | nil => simp [lookupEntry]
  | cons head rest ih =>
      obtain ⟨stored, old⟩ := head
      obtain ⟨below, restSorted⟩ := List.pairwise_cons.mp sorted
      simp only [lookupEntry, List.mem_cons, Prod.mk.injEq]
      by_cases same : compare key stored = .eq
      · obtain rfl := Std.LawfulEqOrd.eq_of_compare same
        have absent : (key, value) ∉ rest := not_mem_of_below below
        simp [absent, Std.ReflCmp.compare_self, eq_comm]
      · have different : key ≠ stored := by
          rintro rfl
          exact same Std.ReflCmp.compare_self
        simp [same, different, ih restSorted]

theorem get?_eq_some_iff {map : OrderedMap κ α} {key : κ} {value : α} :
    map.get? key = some value ↔ (key, value) ∈ map.entries :=
  lookupEntry_eq_some_iff map.sorted

/-- Maps with the same lookups are equal. -/
theorem ext_get? {first second : OrderedMap κ α}
    (same : ∀ key, first.get? key = second.get? key) : first = second := by
  have members (entry : κ × α) : entry ∈ first.entries ↔ entry ∈ second.entries := by
    obtain ⟨key, value⟩ := entry
    constructor
    · intro member
      exact get?_eq_some_iff.mp ((same key) ▸ get?_eq_some_iff.mpr member)
    · intro member
      exact get?_eq_some_iff.mp ((same key).symm ▸ get?_eq_some_iff.mpr member)
  have irreflexive (left right : κ × α) (less : compare left.1 right.1 = .lt) :
      left ≠ right := by
    rintro rfl
    simp [Std.ReflCmp.compare_self] at less
  have perm : first.entries.Perm second.entries :=
    (List.perm_ext_iff_of_nodup (first.sorted.imp (irreflexive _ _))
      (second.sorted.imp (irreflexive _ _))).mpr members
  have entries_eq : first.entries = second.entries := by
    refine perm.eq_of_pairwise ?_ first.sorted second.sorted
    intro left right _ _ forward backward
    have swapped := Std.OrientedCmp.gt_of_lt backward
    rw [forward] at swapped
    contradiction
  cases first
  cases second
  cases entries_eq
  rfl

@[simp]
theorem get?_empty (key : κ) : (∅ : OrderedMap κ α).get? key = none :=
  rfl

theorem mem_insertEntry_iff {key stored : κ} {value old : α} {entries : List (κ × α)}
    (sorted : entries.Pairwise fun left right => compare left.1 right.1 = .lt) :
    (stored, old) ∈ insertEntry key value entries ↔
      stored = key ∧ old = value ∨ stored ≠ key ∧ (stored, old) ∈ entries := by
  induction entries with
  | nil => simp [insertEntry]
  | cons head rest ih =>
      obtain ⟨first, kept⟩ := head
      obtain ⟨below, restSorted⟩ := List.pairwise_cons.mp sorted
      have firstAbsent (value : α) : (first, value) ∉ rest := not_mem_of_below below
      simp only [insertEntry]
      split
      · rename_i before
        have absent (value : α) : (key, value) ∉ (first, kept) :: rest := by
          refine not_mem_of_below fun entry member => ?_
          rcases List.mem_cons.mp member with rfl | member
          · exact before
          · exact Std.TransCmp.lt_trans before (below entry member)
        by_cases same : stored = key
        · subst same
          simp [absent]
        · simp [same]
      · rename_i same
        obtain rfl := Std.LawfulEqOrd.eq_of_compare same
        by_cases same : stored = key
        · subst same
          simp [firstAbsent]
        · simp [same]
      · rename_i after
        have different : first ≠ key := by
          rintro rfl
          simp [Std.ReflCmp.compare_self] at after
        simp only [List.mem_cons, Prod.mk.injEq, ih restSorted]
        by_cases same : stored = first
        · subst same
          simp [different]
        · simp [same]

variable [DecidableEq κ]

theorem get?_insert (map : OrderedMap κ α) (key other : κ) (value : α) :
    (map.insert key value).get? other = if other = key then some value else map.get? other := by
  ext old
  have inserted : (map.insert key value).get? other = some old ↔
      other = key ∧ old = value ∨ other ≠ key ∧ (other, old) ∈ map.entries := by
    rw [get?_eq_some_iff]
    exact mem_insertEntry_iff map.sorted
  rw [inserted]
  split
  · rename_i same
    simp [same, eq_comm]
  · rename_i different
    simp [different, get?_eq_some_iff]

@[simp]
theorem get?_insert_self (map : OrderedMap κ α) (key : κ) (value : α) :
    (map.insert key value).get? key = some value := by
  simp [get?_insert]

theorem get?_insert_of_ne (map : OrderedMap κ α) {key other : κ} (different : other ≠ key)
    (value : α) : (map.insert key value).get? other = map.get? other := by
  simp [get?_insert, different]

/-- The second of two assignments to a key counts. -/
theorem insert_insert (map : OrderedMap κ α) (key : κ) (first second : α) :
    (map.insert key first).insert key second = map.insert key second := by
  apply ext_get?
  intro other
  simp only [get?_insert]
  split <;> rfl

/-- Assignments to different keys can be exchanged. -/
theorem insert_comm (map : OrderedMap κ α) {key other : κ} (different : key ≠ other)
    (value stored : α) :
    (map.insert key value).insert other stored = (map.insert other stored).insert key value := by
  apply ext_get?
  intro asked
  simp only [get?_insert]
  by_cases first : asked = key
  · subst first
    simp only [different, if_false, if_true]
  · simp only [first, if_false]

theorem get?_emplace (map : OrderedMap κ α) (key other : κ) (value : α) :
    (map.emplace key value).get? other =
      if other = key then some ((map.get? key).getD value) else map.get? other := by
  unfold emplace
  cases stored : map.get? key with
  | none => simp [get?_insert]
  | some old =>
      by_cases same : other = key
      · simp [same, stored]
      · simp [same]

/-- Emplacing under a fresh key is assignment. -/
theorem emplace_of_fresh {map : OrderedMap κ α} {key : κ} (fresh : map.get? key = none)
    (value : α) : map.emplace key value = map.insert key value := by
  simp [emplace, fresh]

theorem get?_filter (map : OrderedMap κ α) (keep : κ → α → Bool) (key : κ) :
    (map.filter keep).get? key = (map.get? key).filter (keep key) := by
  ext value
  rw [get?_eq_some_iff, Option.filter_eq_some_iff, get?_eq_some_iff]
  simp [filter]

theorem get?_erase (map : OrderedMap κ α) (key other : κ) :
    (map.erase key).get? other = if other = key then none else map.get? other := by
  rw [erase, get?_filter]
  cases map.get? other <;> by_cases same : other = key <;> simp [same]

@[simp]
theorem get?_erase_self (map : OrderedMap κ α) (key : κ) : (map.erase key).get? key = none := by
  simp [get?_erase]

theorem get?_eraseIf (map : OrderedMap κ α) (drop : κ → α → Bool) (key : κ) :
    (map.eraseIf drop).get? key = (map.get? key).filter fun value => !drop key value :=
  get?_filter _ _ _

theorem get?_eraseIf_eq_some_iff {map : OrderedMap κ α} {drop : κ → α → Bool} {key : κ}
    {value : α} : (map.eraseIf drop).get? key = some value ↔
      map.get? key = some value ∧ drop key value = false := by
  rw [get?_eraseIf, Option.filter_eq_some_iff]
  simp

theorem get?_mapValues {β : Type v} (map : OrderedMap κ α) (update : α → β) (key : κ) :
    (map.mapValues update).get? key = (map.get? key).map update := by
  have lookup (entries : List (κ × α)) :
      lookupEntry key (entries.map fun entry => (entry.1, update entry.2)) =
        (lookupEntry key entries).map update := by
    induction entries with
    | nil => rfl
    | cons head rest ih =>
        obtain ⟨stored, value⟩ := head
        simp only [List.map_cons, lookupEntry, ih]
        split <;> simp
  exact lookup map.entries

/-! ## An update of all values passes through the other operations -/

section

variable {β : Type v} (map : OrderedMap κ α) (update : α → β)

theorem mapValues_insert (key : κ) (value : α) :
    (map.insert key value).mapValues update =
      (map.mapValues update).insert key (update value) := by
  apply ext_get?
  intro other
  simp only [get?_insert, get?_mapValues]
  split <;> rfl

theorem mapValues_emplace (key : κ) (value : α) :
    (map.emplace key value).mapValues update =
      (map.mapValues update).emplace key (update value) := by
  apply ext_get?
  intro other
  simp only [get?_emplace, get?_mapValues]
  split
  · cases map.get? key <;> rfl
  · rfl

theorem mapValues_erase (key : κ) :
    (map.erase key).mapValues update = (map.mapValues update).erase key := by
  apply ext_get?
  intro other
  simp only [get?_erase, get?_mapValues]
  split <;> rfl

theorem mapValues_filter {keep : κ → α → Bool} {keepUpdated : κ → β → Bool}
    (same : ∀ key value, map.get? key = some value →
      keepUpdated key (update value) = keep key value) :
    (map.filter keep).mapValues update = (map.mapValues update).filter keepUpdated := by
  apply ext_get?
  intro key
  simp only [get?_filter, get?_mapValues]
  cases found : map.get? key with
  | none => rfl
  | some value =>
      cases kept : keep key value <;> simp [Option.filter, same key value found, kept]

theorem mapValues_eraseIf {drop : κ → α → Bool} {dropUpdated : κ → β → Bool}
    (same : ∀ key value, map.get? key = some value →
      dropUpdated key (update value) = drop key value) :
    (map.eraseIf drop).mapValues update = (map.mapValues update).eraseIf dropUpdated := by
  apply mapValues_filter
  intro key value found
  rw [same key value found]

theorem keys_mapValues : (map.mapValues update).keys = map.keys := by
  simp [keys, mapValues]

theorem values_mapValues : (map.mapValues update).values = map.values.map update := by
  simp [values, mapValues]

end

/-! ## Tests over all entries -/

theorem entries_eq_nil_iff {map : OrderedMap κ α} :
    map.entries = [] ↔ ∀ key value, map.get? key ≠ some value := by
  rw [List.eq_nil_iff_forall_not_mem, Prod.forall]
  simp only [← get?_eq_some_iff, ne_eq]

theorem mem_values_iff {map : OrderedMap κ α} {value : α} :
    value ∈ map.values ↔ ∃ key, map.get? key = some value := by
  simp [values, get?_eq_some_iff]

theorem mem_keys_iff {map : OrderedMap κ α} {key : κ} :
    key ∈ map.keys ↔ ∃ value, map.get? key = some value := by
  simp [keys, get?_eq_some_iff]

theorem keys_sorted (map : OrderedMap κ α) :
    map.keys.Pairwise fun left right => compare left right = .lt :=
  List.pairwise_map.mpr map.sorted

theorem keys_nodup (map : OrderedMap κ α) : map.keys.Nodup := by
  refine List.pairwise_map.mpr (map.sorted.imp fun {left right} less same => ?_)
  rw [same] at less
  simp [Std.ReflCmp.compare_self] at less

/-- A relation between values with different keys holds between all listed values. -/
theorem values_pairwise {map : OrderedMap κ α} {related : α → α → Prop}
    (relates : ∀ key other value stored, map.get? key = some value →
      map.get? other = some stored → key ≠ other → related value stored) :
    map.values.Pairwise related := by
  refine List.pairwise_map.mpr (map.sorted.imp_of_mem fun {left right} first second less => ?_)
  refine relates left.1 right.1 left.2 right.2 (get?_eq_some_iff.mpr first)
    (get?_eq_some_iff.mpr second) ?_
  intro same
  rw [same] at less
  simp [Std.ReflCmp.compare_self] at less

/-! ## Assigning several entries -/

/-- Assigning the listed entries one after the other. -/
def insertAll (map : OrderedMap κ α) (entries : List (κ × α)) : OrderedMap κ α :=
  entries.foldl (fun current entry => current.insert entry.1 entry.2) map

@[simp]
theorem insertAll_nil (map : OrderedMap κ α) : map.insertAll [] = map :=
  rfl

@[simp]
theorem insertAll_cons (map : OrderedMap κ α) (key : κ) (value : α) (rest : List (κ × α)) :
    map.insertAll ((key, value) :: rest) = (map.insert key value).insertAll rest :=
  rfl

/-- With distinct keys every listed entry is found, and nothing else changes. -/
theorem get?_insertAll {entries : List (κ × α)} (distinct : (entries.map Prod.fst).Nodup)
    (map : OrderedMap κ α) (key : κ) (value : α) :
    (map.insertAll entries).get? key = some value ↔
      (key, value) ∈ entries ∨ key ∉ entries.map Prod.fst ∧ map.get? key = some value := by
  induction entries generalizing map with
  | nil => simp
  | cons head rest ih =>
      obtain ⟨stored, old⟩ := head
      rw [List.map_cons, List.nodup_cons] at distinct
      rw [insertAll_cons, ih distinct.2, get?_insert]
      by_cases same : key = stored
      · subst same
        have absent (value : α) : (key, value) ∉ rest := by
          intro member
          exact distinct.1 (List.mem_map.mpr ⟨(key, value), member, rfl⟩)
        simp [absent, distinct.1, eq_comm]
      · simp [same]

/-- Emplacing the listed entries one after the other: the first entry of a key stays. -/
def emplaceAll (map : OrderedMap κ α) (entries : List (κ × α)) : OrderedMap κ α :=
  entries.foldl (fun current entry => current.emplace entry.1 entry.2) map

@[simp]
theorem emplaceAll_nil (map : OrderedMap κ α) : map.emplaceAll [] = map :=
  rfl

@[simp]
theorem emplaceAll_cons (map : OrderedMap κ α) (key : κ) (value : α) (rest : List (κ × α)) :
    map.emplaceAll ((key, value) :: rest) = (map.emplace key value).emplaceAll rest :=
  rfl

/-- What is found was there or is listed. -/
theorem get?_of_emplaceAll {entries : List (κ × α)} {map : OrderedMap κ α} {key : κ} {value : α}
    (found : (map.emplaceAll entries).get? key = some value) :
    map.get? key = some value ∨ (key, value) ∈ entries := by
  induction entries generalizing map with
  | nil => exact Or.inl found
  | cons head rest ih =>
      rcases head with ⟨first, stored⟩
      rw [emplaceAll_cons] at found
      rcases ih found with old | listed
      · rw [get?_emplace] at old
        split at old
        · rename_i isFirst
          subst isFirst
          cases present : map.get? key with
          | none =>
              rw [present, Option.getD_none, Option.some.injEq] at old
              exact Or.inr (by simp [old])
          | some kept =>
              rw [present, Option.getD_some] at old
              exact Or.inl old
        · exact Or.inl old
      · exact Or.inr (List.mem_cons_of_mem _ listed)

/-- With distinct keys every listed entry whose key was free is found. -/
theorem get?_emplaceAll {entries : List (κ × α)} (distinct : (entries.map Prod.fst).Nodup)
    (map : OrderedMap κ α) (key : κ) (value : α) :
    (map.emplaceAll entries).get? key = some value ↔
      map.get? key = some value ∨ map.get? key = none ∧ (key, value) ∈ entries := by
  induction entries generalizing map with
  | nil => simp
  | cons head rest ih =>
      obtain ⟨stored, first⟩ := head
      rw [List.map_cons, List.nodup_cons] at distinct
      rw [emplaceAll_cons, ih distinct.2, get?_emplace]
      by_cases same : key = stored
      · subst same
        have absent (value : α) : (key, value) ∉ rest := by
          intro member
          exact distinct.1 (List.mem_map.mpr ⟨(key, value), member, rfl⟩)
        cases map.get? key <;> simp [absent, eq_comm]
      · simp [same]

/-- Entries are the lookups, so the map of its own entries is the map. -/
theorem insertAll_entries (map : OrderedMap κ α) :
    (∅ : OrderedMap κ α).insertAll map.entries = map := by
  apply ext_get?
  intro key
  ext value
  rw [get?_insertAll (keys_nodup map), get?_empty, ← get?_eq_some_iff]
  simp

/-- The entries of a map that was built from distinct ones are those, in key order. -/
theorem entries_insertAll_perm {entries : List (κ × α)}
    (distinct : (entries.map Prod.fst).Nodup) :
    ((∅ : OrderedMap κ α).insertAll entries).entries.Perm entries := by
  have listed := List.Nodup.of_map Prod.fst distinct
  have stored := List.Nodup.of_map Prod.fst
    (keys_nodup ((∅ : OrderedMap κ α).insertAll entries))
  rw [List.perm_ext_iff_of_nodup stored listed]
  rintro ⟨key, value⟩
  rw [← get?_eq_some_iff, get?_insertAll distinct]
  simp

/-! ## Refusing duplicates -/

/-- Insertion of an entry whose key must be new. -/
def insertNew (map : OrderedMap κ α) (entry : κ × α) : Option (OrderedMap κ α) :=
  if (map.get? entry.1).isSome = true then none else some (map.insert entry.1 entry.2)

/-- Entries go in one after the other exactly where their keys are new and distinct. -/
theorem foldlM_insertNew_eq_some_iff {entries : List (κ × α)} {map result : OrderedMap κ α} :
    entries.foldlM insertNew map = some result ↔
      (entries.map Prod.fst).Nodup ∧ (∀ entry ∈ entries, map.get? entry.1 = none) ∧
        map.insertAll entries = result := by
  induction entries generalizing map with
  | nil => simp [eq_comm]
  | cons head rest ih =>
      obtain ⟨key, value⟩ := head
      simp only [List.foldlM_cons, Option.bind_eq_bind, Option.bind_eq_some_iff, insertNew,
        List.map_cons, List.nodup_cons, List.forall_mem_cons, insertAll_cons]
      constructor
      · rintro ⟨next, inserted, added⟩
        split at inserted
        · contradiction
        · rename_i isNew
          cases inserted
          rcases ih.mp added with ⟨distinct, fresh, same⟩
          have absent : key ∉ rest.map Prod.fst := by
            intro member
            rcases List.mem_map.mp member with ⟨entry, listed, rfl⟩
            have free := fresh entry listed
            rw [get?_insert_self] at free
            contradiction
          refine ⟨⟨absent, distinct⟩, ⟨by simpa using isNew, ?_⟩, same⟩
          intro entry listed
          have different : entry.1 ≠ key := by
            rintro rfl
            exact absent (List.mem_map.mpr ⟨entry, listed, rfl⟩)
          rw [← get?_insert_of_ne map different value]
          exact fresh entry listed
      · rintro ⟨⟨absent, distinct⟩, ⟨isNew, fresh⟩, same⟩
        refine ⟨map.insert key value, by simp [isNew], ih.mpr ⟨distinct, ?_, same⟩⟩
        intro entry listed
        have different : entry.1 ≠ key := by
          rintro rfl
          exact absent (List.mem_map.mpr ⟨entry, listed, rfl⟩)
        rw [get?_insert_of_ne map different]
        exact fresh entry listed

end OrderedMap
