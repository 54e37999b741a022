import HsmSimulator.Core.Paths
import HsmSimulator.Storage.Discovery

/-!
# PIN files

What is read back from a PIN file depends on its content only.  A PIN holds no line
ending, so the one thing reading may take from a stored PIN is a byte order mark in front.
-/

namespace HsmSimulator

open Checks FileSystem

/-- The UTF-8 byte order mark. -/
def byteOrderMark : Bytes := [0xEF, 0xBB, 0xBF]

/-- The PIN in a password file of this content. -/
def pinOfContent : Option Bytes → Option (Option Bytes)
  | none => some none
  | some content => (parsePassword content).map some

theorem readPassword_eq_some {disk : FileSystem} {oracle : Oracle} {path : Path}
    {stored : Option Bytes} (reads : readPassword disk oracle path = some stored) :
    pinOfContent (disk.content path) = some stored := by
  unfold readPassword at reads
  split at reads
  · contradiction
  · split at reads
    · rename_i absent
      cases reads
      rw [content_of_absent absent]
      rfl
    · split at reads
      · contradiction
      · rcases Option.bind_eq_some_iff.mp reads with ⟨content, found, parsed⟩
        rw [found]
        exact parsed

theorem readPassword_of_content {disk : FileSystem} {oracle : Oracle} {path : Path}
    {content : Bytes} (statted : oracle.statFails path = false)
    (reads : oracle.readFails path = false) (found : disk.content path = some content) :
    readPassword disk oracle path = (parsePassword content).map some := by
  have there : disk.hasPath path = true := by
    rw [FileSystem.content] at found
    simp [hasPath, found]
  unfold readPassword
  rw [if_neg (by simp [statted]), if_neg (by simp [there]), if_neg (by simp [reads]), found,
    Option.bind_some]

/-! ## Reading what was stored -/

theorem stripByteOrderMark_eq_self_iff (value : Bytes) :
    stripByteOrderMark value = value ↔ ¬byteOrderMark <+: value := by
  constructor
  · rintro same ⟨rest, rfl⟩
    have lengths := congrArg List.length same
    simp only [byteOrderMark, List.cons_append, List.nil_append, stripByteOrderMark,
      List.length_cons] at lengths
    omega
  · intro unmarked
    unfold stripByteOrderMark
    split
    · rename_i rest
      exact (unmarked ⟨rest, rfl⟩).elim
    · rfl

theorem stripByteOrderMark_suffix (value : Bytes) : stripByteOrderMark value <:+ value := by
  unfold stripByteOrderMark
  split
  · rename_i rest
    exact ⟨byteOrderMark, rfl⟩
  · exact List.suffix_refl _

theorem stripLineEnding_of_not_mem {value : Bytes} (noLineFeed : 10 ∉ value) :
    stripLineEnding value = value := by
  unfold stripLineEnding
  rw [if_neg]
  intro last
  exact noLineFeed (List.mem_of_getLast? last)

theorem validatePin_eq_ok_iff {value : Bytes} :
    validatePin (.bytes value) = .ok () ↔
      value.length ≤ maximumPinLength ∧ ∀ c ∈ value, isPinSeparator c = false := by
  simp only [validatePin, bind_eq_ok_iff, require_eq_ok_iff]
  simp only [Buffer.isMissing, Buffer.length, Buffer.content, List.any_eq_false,
    Bool.not_eq_true]
  constructor
  · rintro ⟨_, _, _, length, plain⟩
    exact ⟨length, plain⟩
  · rintro ⟨length, plain⟩
    exact ⟨(), trivial, (), length, plain⟩

/-- A valid PIN is read back as what follows its byte order mark. -/
theorem parsePassword_valid {value : Bytes} (valid : validatePin (.bytes value) = .ok ()) :
    parsePassword value = some (stripByteOrderMark value) := by
  rcases validatePin_eq_ok_iff.mp valid with ⟨length, plain⟩
  have within := stripByteOrderMark_suffix value
  have noLineFeed : 10 ∉ stripByteOrderMark value := by
    intro member
    have separator := plain 10 (within.subset member)
    revert separator
    decide
  have stillValid : validatePin (.bytes (stripByteOrderMark value)) = .ok () := by
    rw [validatePin_eq_ok_iff]
    exact ⟨within.length_le.trans length, fun c member => plain c (within.subset member)⟩
  unfold parsePassword
  rw [if_neg (by omega), stripLineEnding_of_not_mem noLineFeed]
  dsimp only
  rw [stillValid]

/-- Which PINs survive being stored. -/
theorem parsePassword_eq_self_iff {value : Bytes} (valid : validatePin (.bytes value) = .ok ()) :
    parsePassword value = some value ↔ ¬byteOrderMark <+: value := by
  rw [parsePassword_valid valid, Option.some.injEq]
  exact stripByteOrderMark_eq_self_iff value

/-! ## What a password file may contain -/

/-- A password file holds a password, after a byte order mark or none and before a line
ending or none. -/
structure PasswordContent (content value : Bytes) : Prop where
  parts : ∃ mark ending, content = mark ++ value ++ ending ∧
    (mark = byteOrderMark ∨ mark = [] ∧ ¬byteOrderMark <+: content) ∧
    (ending = [] ∨ ending = [10] ∨ ending = [13, 10])
  length : value.length ≤ maximumPinLength
  plain : ∀ c ∈ value, c ≠ 0 ∧ c ≠ 13 ∧ c ≠ 10

theorem isPinSeparator_eq_false_iff {c : UInt8} :
    isPinSeparator c = false ↔ c ≠ 0 ∧ c ≠ 13 ∧ c ≠ 10 := by
  simp [isPinSeparator, and_assoc]

theorem stripByteOrderMark_marked (value : Bytes) :
    stripByteOrderMark (byteOrderMark ++ value) = value :=
  rfl

theorem stripLineEnding_append {value ending : Bytes} (plain : ∀ c ∈ value, c ≠ 13 ∧ c ≠ 10)
    (isEnding : ending = [] ∨ ending = [10] ∨ ending = [13, 10]) :
    stripLineEnding (value ++ ending) = value := by
  rcases isEnding with rfl | rfl | rfl
  · rw [List.append_nil]
    exact stripLineEnding_of_not_mem fun member => (plain 10 member).2 rfl
  · have noReturn : value.getLast? ≠ some 13 := by
      intro last
      exact (plain 13 (List.mem_of_getLast? last)).1 rfl
    simp [stripLineEnding, noReturn]
  · have parts : value ++ [13, 10] = (value ++ [13]) ++ [10] := by simp
    rw [parts, stripLineEnding]
    simp

/-- What is stripped is a line ending. -/
theorem stripLineEnding_parts (value : Bytes) : ∃ ending, value = stripLineEnding value ++ ending ∧
    (ending = [] ∨ ending = [10] ∨ ending = [13, 10]) := by
  have whole (text : Bytes) (last : UInt8) (isLast : text.getLast? = some last) :
      text = text.dropLast ++ [last] := by
    rw [List.dropLast_append_getLast? last isLast]
  unfold stripLineEnding
  split
  · rename_i feed
    split
    · rename_i carriage
      refine ⟨[13, 10], ?_, Or.inr (Or.inr rfl)⟩
      have outer := whole value 10 feed
      rw [whole value.dropLast 13 carriage] at outer
      simpa using outer
    · exact ⟨[10], whole value 10 feed, Or.inr (Or.inl rfl)⟩
  · exact ⟨[], (List.append_nil value).symm, Or.inl rfl⟩

theorem stripByteOrderMark_parts (content : Bytes) :
    ∃ mark, content = mark ++ stripByteOrderMark content ∧
      (mark = byteOrderMark ∨ mark = [] ∧ ¬byteOrderMark <+: content) := by
  by_cases marked : byteOrderMark <+: content
  · rcases marked with ⟨rest, rfl⟩
    exact ⟨byteOrderMark, by rw [stripByteOrderMark_marked], Or.inl rfl⟩
  · refine ⟨[], ?_, Or.inr ⟨rfl, marked⟩⟩
    rw [(stripByteOrderMark_eq_self_iff content).mpr marked, List.nil_append]

/-- The limit on the size of the file takes nothing from the limit on the password. -/
theorem parsePassword_eq_some_iff {content value : Bytes} :
    parsePassword content = some value ↔ PasswordContent content value := by
  have valid_iff (text : Bytes) : validatePin (.bytes text) = .ok () ↔
      text.length ≤ maximumPinLength ∧ ∀ c ∈ text, c ≠ 0 ∧ c ≠ 13 ∧ c ≠ 10 := by
    rw [validatePin_eq_ok_iff]
    simp only [isPinSeparator_eq_false_iff]
  constructor
  · intro parsed
    unfold parsePassword at parsed
    split at parsed
    · contradiction
    · dsimp only at parsed
      split at parsed
      · rename_i valid
        cases parsed
        rcases stripByteOrderMark_parts content with ⟨mark, marked, isMark⟩
        rcases stripLineEnding_parts (stripByteOrderMark content) with ⟨ending, ended, isEnding⟩
        rcases (valid_iff _).mp valid with ⟨length, plain⟩
        refine ⟨⟨mark, ending, ?_, isMark, isEnding⟩, length, plain⟩
        rw [List.append_assoc, ← ended]
        exact marked
      · contradiction
  · rintro ⟨⟨mark, ending, parts, isMark, isEnding⟩, length, plain⟩
    have stripped : stripByteOrderMark content = value ++ ending := by
      rcases isMark with rfl | ⟨rfl, unmarked⟩
      · rw [parts, List.append_assoc, stripByteOrderMark_marked]
      · rw [(stripByteOrderMark_eq_self_iff content).mpr unmarked, parts, List.nil_append]
    have short : content.length < maximumPinLength + 6 := by
      have markLength : mark.length ≤ 3 := by
        rcases isMark with rfl | ⟨rfl, _⟩ <;> decide
      have endingLength : ending.length ≤ 2 := by
        rcases isEnding with rfl | rfl | rfl <;> decide
      rw [parts, List.length_append, List.length_append]
      omega
    have taken := stripLineEnding_append (fun c member => (plain c member).2) isEnding
    unfold parsePassword
    rw [if_neg (by omega), stripped, taken]
    dsimp only
    rw [(valid_iff value).mpr ⟨length, plain⟩]

end HsmSimulator
