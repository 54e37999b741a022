import Mathlib

/-!
# Paging through a snapshot

A list is fixed once and then given out in pages.  Each page goes through the list from
where the last one ended, drops what it does not show, and ends at its capacity or at the
end of the list.  What is shown may differ from page to page.

The file says what the pages together are: in the order of the list, each item shown at
the page that reached it; and if all pages show the same, where they were cut does not
matter.
-/

universe u

namespace Paging

variable {α : Type u}

/-- A page: what it shows, how much fits on it, and what it gave out. -/
structure Page (α : Type u) where
  shows : α → Bool
  capacity : Nat
  items : List α

/-- The page gives out what it shows of the part, and is full unless it ends the list. -/
structure Page.Covers (page : Page α) (part rest : List α) : Prop where
  items : page.items = part.filter page.shows
  fits : page.items.length ≤ page.capacity
  full : page.items.length < page.capacity → rest = []

/-- The pages were given out of the list one after the other, up to the rest. -/
inductive Turned : List α → List (Page α) → List α → Prop
  | start {all : List α} : Turned all [] all
  | turn {all part rest : List α} {pages : List (Page α)} {page : Page α} :
      Turned all pages (part ++ rest) → page.Covers part rest → Turned all (pages ++ [page]) rest

namespace Turned

variable {all rest : List α} {pages : List (Page α)}

/-- The pages divide what was reached of the list. -/
theorem parts (turned : Turned all pages rest) :
    ∃ parts : List (List α), parts.flatten ++ rest = all ∧
      List.Forall₂ (fun part page => page.items = part.filter page.shows) parts pages := by
  induction turned with
  | start => exact ⟨[], rfl, .nil⟩
  | @turn part rest pages page _ covers ih =>
      rcases ih with ⟨parts, whole, each⟩
      refine ⟨parts ++ [part], ?_, ?_⟩
      · rw [List.flatten_append, List.flatten_singleton, List.append_assoc]
        exact whole
      · exact List.rel_append each (.cons covers.items .nil)

theorem fits (turned : Turned all pages rest) :
    ∀ page ∈ pages, page.items.length ≤ page.capacity := by
  induction turned with
  | start => simp
  | turn _ covers ih =>
      intro page member
      rcases List.mem_append.mp member with earlier | last
      · exact ih page earlier
      · rw [List.mem_singleton.mp last]
        exact covers.fits

/-- The items come in the order of the list, and the rest after them. -/
theorem sublist (turned : Turned all pages rest) :
    (pages.flatMap Page.items ++ rest).Sublist all := by
  induction turned with
  | start => exact List.Sublist.refl _
  | @turn part rest pages page _ covers ih =>
      refine List.Sublist.trans ?_ ih
      rw [List.flatMap_append, List.flatMap_singleton, List.append_assoc, covers.items]
      exact (List.Sublist.refl _).append (List.filter_sublist.append (List.Sublist.refl _))

/-- At the end of the list a page has nothing left to give out. -/
theorem of_nil (turned : Turned [] pages rest) :
    rest = [] ∧ ∀ page ∈ pages, page.items = [] := by
  have nothing := List.append_eq_nil_iff.mp (List.sublist_nil.mp turned.sublist)
  exact ⟨nothing.2, List.flatMap_eq_nil_iff.mp nothing.1⟩

/-- The pages before a page, it, and the pages after it. -/
theorem split {before after : List (Page α)} {page : Page α}
    (turned : Turned all (before ++ page :: after) rest) :
    ∃ part middle, Turned all before (part ++ middle) ∧ page.Covers part middle ∧
      Turned middle after rest := by
  generalize isPages : before ++ page :: after = pages at turned
  induction turned generalizing after with
  | start => simp at isPages
  | @turn part rest pages last earlier covers ih =>
      rcases List.eq_nil_or_concat after with rfl | ⟨others, final, rfl⟩
      · rcases List.append_inj' isPages rfl with ⟨rfl, same⟩
        cases same
        exact ⟨part, rest, earlier, covers, .start⟩
      · have regrouped : (before ++ page :: others) ++ [final] = pages ++ [last] := by
          simpa using isPages
        rcases List.append_inj' regrouped rfl with ⟨same, sameLast⟩
        cases sameLast
        rcases ih same with ⟨part, middle, first, pageCovers, later⟩
        rw [List.concat_eq_append]
        exact ⟨part, middle, first, pageCovers, .turn later covers⟩

/-- A page that is not full ended the list. -/
theorem short (turned : Turned all pages rest) {before after : List (Page α)} {page : Page α}
    (isPages : pages = before ++ page :: after) (notFull : page.items.length < page.capacity) :
    rest = [] ∧ ∀ later ∈ after, later.items = [] := by
  subst isPages
  rcases turned.split with ⟨part, middle, _, covers, later⟩
  rw [covers.full notFull] at later
  exact later.of_nil

/-- If all pages show the same, what they gave out is the first of it, as much as fits on
them together. -/
theorem uniform (turned : Turned all pages rest) (shows : α → Bool)
    (same : ∀ page ∈ pages, ∀ item ∈ all, page.shows item = shows item) :
    pages.flatMap Page.items = (all.filter shows).take (pages.map Page.capacity).sum := by
  have counted : pages.flatMap Page.items ++ rest.filter shows = all.filter shows ∧
      (pages.flatMap Page.items).length ≤ (pages.map Page.capacity).sum ∧
      ((pages.flatMap Page.items).length < (pages.map Page.capacity).sum → rest = []) := by
    induction turned with
    | start => simp
    | @turn part rest pages page earlier covers ih =>
        rcases ih fun page member => same page (List.mem_append_left _ member) with
          ⟨whole, fits, full⟩
        have reached : ∀ item ∈ part, item ∈ all := fun item member =>
          earlier.sublist.subset (List.mem_append_right _ (List.mem_append_left _ member))
        have items : page.items = part.filter shows := by
          rw [covers.items]
          refine List.filter_congr fun item member => ?_
          exact same page (by simp) item (reached item member)
        rw [List.filter_append] at whole
        rw [List.flatMap_append, List.flatMap_singleton, List.map_append, List.sum_append,
          List.length_append, List.map_singleton, List.sum_singleton]
        refine ⟨?_, Nat.add_le_add fits covers.fits, ?_⟩
        · rw [List.append_assoc, items]
          exact whole
        · intro notFull
          by_cases last : page.items.length < page.capacity
          · exact covers.full last
          · exact (List.append_eq_nil_iff.mp (full (by omega))).2
  rcases counted with ⟨whole, fits, full⟩
  rw [← whole]
  by_cases notFull : (pages.flatMap Page.items).length < (pages.map Page.capacity).sum
  · rw [full notFull, List.filter_nil, List.append_nil, List.take_of_length_le fits]
  · rw [List.take_append_of_le_length (by omega), List.take_of_length_le fits]

end Turned

end Paging
