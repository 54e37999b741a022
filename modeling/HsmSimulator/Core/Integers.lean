import HsmSimulator.Core.Utilities

/-!
# Integers as bytes

The big-endian encoding on a fixed number of bytes and the value of a byte string are
inverse to each other, as long as the number fits.
-/

namespace HsmSimulator

theorem length_bigEndianBytes (width number : Nat) :
    (bigEndianBytes width number).length = width := by
  induction width with
  | zero => rfl
  | succ width ih => simp [bigEndianBytes, ih]

theorem bigEndianValue_nil : bigEndianValue [] = 0 :=
  rfl

theorem bigEndianValue_concat (bytes : Bytes) (last : UInt8) :
    bigEndianValue (bytes ++ [last]) = bigEndianValue bytes * 256 + last.toNat := by
  simp [bigEndianValue]

/-- The first byte counts most. -/
theorem bigEndianValue_cons (first : UInt8) (rest : Bytes) :
    bigEndianValue (first :: rest) = first.toNat * 256 ^ rest.length + bigEndianValue rest := by
  induction rest using List.reverseRecOn with
  | nil => simp [bigEndianValue]
  | append_singleton rest last ih =>
      rw [← List.cons_append, bigEndianValue_concat, ih, bigEndianValue_concat, List.length_append,
        List.length_singleton, pow_succ]
      ring

theorem bigEndianValue_lt (bytes : Bytes) : bigEndianValue bytes < 256 ^ bytes.length := by
  induction bytes with
  | nil => simp [bigEndianValue_nil]
  | cons first rest ih =>
      have bound := first.toNat_lt
      rw [bigEndianValue_cons, List.length_cons, pow_succ]
      have scaled : (first.toNat + 1) * 256 ^ rest.length ≤ 256 * 256 ^ rest.length :=
        Nat.mul_le_mul_right _ (by omega)
      linarith [scaled, ih]

/-- The value of an encoding is the number, up to what the width cuts off. -/
theorem bigEndianValue_bytes (width number : Nat) :
    bigEndianValue (bigEndianBytes width number) = number % 256 ^ width := by
  induction width with
  | zero => simp [bigEndianBytes, bigEndianValue_nil, Nat.mod_one]
  | succ width ih =>
      rw [bigEndianBytes, bigEndianValue_cons, ih, length_bigEndianBytes, pow_succ]
      have byte : (number / 256 ^ width).toUInt8.toNat = number / 256 ^ width % 256 := by
        simp [Nat.toUInt8]
      rw [byte, Nat.mod_mul, Nat.mul_comm, Nat.add_comm]

/-- What is above the width does not show. -/
theorem bigEndianBytes_add (width above number : Nat) :
    bigEndianBytes width (above * 256 ^ width + number) = bigEndianBytes width number := by
  induction width generalizing above with
  | zero => rfl
  | succ width ih =>
      have shifted : above * 256 ^ (width + 1) = above * 256 * 256 ^ width := by
        rw [pow_succ]
        ring
      have positive : 0 < 256 ^ width := by positivity
      have quotient : (above * 256 * 256 ^ width + number) / 256 ^ width =
          above * 256 + number / 256 ^ width := by
        rw [Nat.add_comm, Nat.add_mul_div_right _ _ positive, Nat.add_comm]
      have byte : (above * 256 + number / 256 ^ width).toUInt8 =
          (number / 256 ^ width).toUInt8 := by
        rw [← UInt8.toNat_inj]
        simp only [Nat.toUInt8, UInt8.toNat_ofNat']
        omega
      rw [bigEndianBytes, bigEndianBytes, shifted, ih, quotient, byte]

/-- Encoding the value of a byte string gives the string back. -/
theorem bigEndianBytes_value (bytes : Bytes) :
    bigEndianBytes bytes.length (bigEndianValue bytes) = bytes := by
  induction bytes with
  | nil => rfl
  | cons first rest ih =>
      have positive : 0 < 256 ^ rest.length := by positivity
      have leading : (first.toNat * 256 ^ rest.length + bigEndianValue rest) / 256 ^ rest.length =
          first.toNat := by
        rw [Nat.add_comm, Nat.add_mul_div_right _ _ positive,
          Nat.div_eq_of_lt (bigEndianValue_lt rest), Nat.zero_add]
      rw [List.length_cons, bigEndianBytes, bigEndianValue_cons, leading, bigEndianBytes_add, ih]
      simp [Nat.toUInt8]

theorem littleEndianValue_reverse (bytes : Bytes) :
    littleEndianValue bytes.reverse = bigEndianValue bytes := by
  induction bytes using List.reverseRecOn with
  | nil => rfl
  | append_singleton rest last ih =>
      rw [bigEndianValue_concat, ← ih, List.reverse_append]
      simp only [littleEndianValue, List.reverse_singleton, List.singleton_append,
        List.foldr_cons]
      ring

theorem toInt_eq_self_iff {value : Nat} : toInt value = value ↔ value < 2 ^ 31 := by
  unfold toInt
  split <;> omega

theorem toInt_of_lt {value : Nat} (bound : value < 2 ^ 31) : toInt value = value :=
  toInt_eq_self_iff.mpr bound

end HsmSimulator
