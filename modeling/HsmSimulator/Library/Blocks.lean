import Mathlib

/-!
# Blockwise maps

A list is cut into blocks of one size, and each block is mapped on its own, as a block
cipher without chaining does.  A prefix of the result depends on the blocks it is cut from
and on no others, and a block of the result determines the block it comes from where the
map of the blocks is injective.
-/

universe u v

namespace Blocks

variable {α : Type u} {β : Type v} {size : Nat}

/-- A block of a list. -/
def block (size index : Nat) (data : List α) : List α := (data.drop (size * index)).take size

/-- The images of a number of leading blocks. -/
def mapBlocks (image : List α → Vector β size) : Nat → List α → List β
  | 0, _ => []
  | count + 1, data =>
      (image (data.take size)).toList ++ mapBlocks image count (data.drop size)

theorem block_zero (data : List α) : block size 0 data = data.take size := by
  rw [block, Nat.mul_zero, List.drop_zero]

theorem block_succ (index : Nat) (data : List α) :
    block size (index + 1) data = block size index (data.drop size) := by
  rw [block, block, List.drop_drop, Nat.mul_succ, Nat.add_comm]

theorem length_block {index : Nat} {data : List α} (inside : size * (index + 1) ≤ data.length) :
    (block size index data).length = size := by
  rw [block, List.length_take, List.length_drop]
  rw [Nat.mul_succ] at inside
  omega

/-- A block within a prefix is a block of the whole. -/
theorem block_take {index length : Nat} (inside : size * (index + 1) ≤ length) (data : List α) :
    block size index (data.take length) = block size index data := by
  rw [Nat.mul_succ] at inside
  rw [block, block, List.drop_take, List.take_take, Nat.min_eq_left (by omega)]

@[simp]
theorem length_mapBlocks (image : List α → Vector β size) (count : Nat) (data : List α) :
    (mapBlocks image count data).length = size * count := by
  induction count generalizing data with
  | zero => rfl
  | succ count ih =>
      rw [mapBlocks, List.length_append, ih, Vector.length_toList, Nat.mul_succ, Nat.add_comm]

/-- Leading blocks of the result come from leading blocks of the data. -/
theorem take_mapBlocks (image : List α → Vector β size) {few many : Nat} (fewer : few ≤ many)
    (data : List α) :
    (mapBlocks image many data).take (size * few) = mapBlocks image few data := by
  induction few generalizing many data with
  | zero => rw [Nat.mul_zero, List.take_zero, mapBlocks]
  | succ few ih =>
      obtain ⟨rest, rfl⟩ : ∃ rest, many = rest + 1 := ⟨many - 1, by omega⟩
      have here : (image (data.take size)).toList.length = size := Vector.length_toList
      rw [mapBlocks, mapBlocks, List.take_append, here, Nat.mul_succ, Nat.add_sub_cancel,
        ih (by omega), List.take_of_length_le (by omega)]

/-- What lies beyond the blocks that are mapped does not matter. -/
theorem mapBlocks_congr (image : List α → Vector β size) {count : Nat} {data other : List α}
    (same : data.take (size * count) = other.take (size * count)) :
    mapBlocks image count data = mapBlocks image count other := by
  induction count generalizing data other with
  | zero => rfl
  | succ count ih =>
      have first : data.take size = other.take size := by
        have cut := congrArg (List.take size) same
        rw [Nat.mul_succ, List.take_take, List.take_take, Nat.min_eq_left (by omega)] at cut
        exact cut
      have rest : (data.drop size).take (size * count) = (other.drop size).take (size * count) := by
        have cut := congrArg (List.drop size) same
        rw [Nat.mul_succ, List.drop_take, List.drop_take, Nat.add_sub_cancel] at cut
        exact cut
      rw [mapBlocks, mapBlocks, first, ih rest]

theorem mapBlocks_take (image : List α → Vector β size) {count length : Nat}
    (inside : size * count ≤ length) (data : List α) :
    mapBlocks image count (data.take length) = mapBlocks image count data := by
  apply mapBlocks_congr
  rw [List.take_take, Nat.min_eq_left inside]

/-- A prefix of the result needs no more blocks than it is cut from. -/
theorem take_mapBlocks_of_le (image : List α → Vector β size) {few many length : Nat}
    (fewer : few ≤ many) (inside : length ≤ size * few) (data : List α) :
    (mapBlocks image few data).take length = (mapBlocks image many data).take length := by
  rw [← take_mapBlocks image fewer, List.take_take, Nat.min_eq_left inside]

/-- A block of the result is the image of the block it comes from. -/
theorem block_mapBlocks (image : List α → Vector β size) {index count : Nat}
    (inside : index < count) (data : List α) :
    block size index (mapBlocks image count data) = (image (block size index data)).toList := by
  induction index generalizing count data with
  | zero =>
      obtain ⟨rest, rfl⟩ : ∃ rest, count = rest + 1 := ⟨count - 1, by omega⟩
      rw [block_zero, block_zero, mapBlocks, List.take_left' Vector.length_toList]
  | succ index ih =>
      obtain ⟨rest, rfl⟩ : ∃ rest, count = rest + 1 := ⟨count - 1, by omega⟩
      rw [block_succ, block_succ, mapBlocks, List.drop_left' Vector.length_toList,
        ih (by omega)]

/-- Where the map of the blocks is injective, prefixes that contain the images of
different blocks differ. -/
theorem take_mapBlocks_ne {image : List α → Vector β size}
    (injective : ∀ first second : List α, first.length = size → second.length = size →
      image first = image second → first = second)
    {index count length : Nat} {data other : List α} (inside : index < count)
    (whole : size * (index + 1) ≤ length) (long : size * count ≤ data.length)
    (otherLong : size * count ≤ other.length)
    (different : block size index data ≠ block size index other) :
    (mapBlocks image count data).take length ≠ (mapBlocks image count other).take length := by
  intro same
  have bound : size * (index + 1) ≤ size * count := Nat.mul_le_mul_left size inside
  have images : (image (block size index data)).toList =
      (image (block size index other)).toList := by
    rw [← block_mapBlocks image inside, ← block_mapBlocks image inside, ← block_take whole, same,
      block_take whole]
  exact different (injective _ _ (length_block (bound.trans long))
    (length_block (bound.trans otherLong)) (Vector.toList_inj.mp images))

end Blocks
