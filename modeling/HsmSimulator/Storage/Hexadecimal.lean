import HsmSimulator.Storage.KeyStore

/-!
# Hexadecimal key files

`decodeHex` inverts `encodeHex`, also where white space was inserted.  `std::stoul` accepts
more than two digits, however: a sign in front of a digit, and a digit in front of any
character.  What it makes of a text is exact unless such a pair occurs in it.
-/

namespace HsmSimulator

def isHexDigit (c : UInt8) : Bool := (hexDigitValue c).isSome

/-- A sign that `std::stoul` skips. -/
def isSign (c : UInt8) : Bool := c = 43 || c = 45

/-- A digit of either case as `encodeHex` writes it. -/
def upperHexDigit (c : UInt8) : UInt8 := if 97 ≤ c && c ≤ 102 then c - 32 else c

def stripSpace (text : Bytes) : Bytes := text.filter fun c => !isSpace c

/-- The two-character groups of a text. -/
def hexPairs : Bytes → List (UInt8 × UInt8)
  | first :: second :: rest => (first, second) :: hexPairs rest
  | _ => []

/-- The groups `std::stoul` reads a number from. -/
def readablePair (pair : UInt8 × UInt8) : Bool :=
  isHexDigit pair.1 || isSign pair.1 && isHexDigit pair.2

/-- The text is read although it holds something else than digits. -/
structure Misread (text : Bytes) : Prop where
  even : (stripSpace text).length % 2 = 0
  readable : ∀ pair ∈ hexPairs (stripSpace text), readablePair pair = true
  malformed : ∃ c ∈ stripSpace text, isHexDigit c = false

/-- The text consists of an even number of digits, and white space. -/
structure HexText (text : Bytes) : Prop where
  even : (stripSpace text).length % 2 = 0
  digits : ∀ c ∈ stripSpace text, isHexDigit c = true

/-! ## Digits -/

theorem hexDigitValue_hexDigit {value : Nat} (bound : value < 16) :
    hexDigitValue (hexDigit value) = some value := by
  have digits : ∀ small : Fin 16, hexDigitValue (hexDigit small) = some small.val := by decide
  exact digits ⟨value, bound⟩

theorem hexDigitValue_eq_some {c : UInt8} {value : Nat} (isDigit : hexDigitValue c = some value) :
    value < 16 ∧ hexDigit value = upperHexDigit c ∧ isSpace c = false ∧ isSign c = false := by
  have digits : ∀ code : Fin 256, ∀ value, hexDigitValue (UInt8.ofNat code) = some value →
      value < 16 ∧ hexDigit value = upperHexDigit (UInt8.ofNat code) ∧
        isSpace (UInt8.ofNat code) = false ∧ isSign (UInt8.ofNat code) = false := by
    intro code value found
    have valueOf : value = (hexDigitValue (UInt8.ofNat code)).getD 0 := by rw [found]; rfl
    have checked : ∀ code : Fin 256, (hexDigitValue (UInt8.ofNat code)).isSome = true →
        (hexDigitValue (UInt8.ofNat code)).getD 0 < 16 ∧
          hexDigit ((hexDigitValue (UInt8.ofNat code)).getD 0) = upperHexDigit (UInt8.ofNat code) ∧
          isSpace (UInt8.ofNat code) = false ∧ isSign (UInt8.ofNat code) = false := by
      decide +kernel
    rw [valueOf]
    exact checked code (by rw [found]; rfl)
  have code := digits ⟨c.toNat, c.toNat_lt⟩ value
  rw [UInt8.ofNat_toNat] at code
  exact code isDigit

theorem isSpace_hexDigit {value : Nat} (bound : value < 16) :
    isSpace (hexDigit value) = false :=
  (hexDigitValue_eq_some (hexDigitValue_hexDigit bound)).2.2.1

/-! ## One group -/

/-- What `std::stoul` makes of two characters that are no white space. -/
theorem stoulHex_pair {first second : UInt8} (notSpace : isSpace first = false) :
    stoulHex [first, second] =
      match hexDigitValue first, hexDigitValue second with
      | some high, some low => some (high * 16 + low)
      | some value, none => some value
      | none, some value =>
          if first = 45 then some ((2 ^ 64 - value) % 2 ^ 64)
          else if first = 43 then some value else none
      | none, none => none := by
  cases isFirst : hexDigitValue first with
  | some high =>
      rcases hexDigitValue_eq_some isFirst with ⟨bound, _, _, notSign⟩
      simp only [isSign, Bool.or_eq_false_iff, decide_eq_false_iff_not] at notSign
      cases isSecond : hexDigitValue second with
      | some low =>
          have lowBound := (hexDigitValue_eq_some isSecond).1
          have inRange : high * 16 + low < 18446744073709551616 := by omega
          simp [stoulHex, notSpace, notSign, skipHexPrefix, isFirst, isSecond, inRange]
      | none =>
          have inRange : high < 18446744073709551616 := by omega
          simp [stoulHex, notSpace, notSign, skipHexPrefix, isFirst, isSecond, inRange]
  | none =>
      cases isSecond : hexDigitValue second with
      | some low =>
          have lowBound := (hexDigitValue_eq_some isSecond).1
          have inRange : low < 18446744073709551616 := by omega
          by_cases minus : first = 45
          · subst minus
            simp [stoulHex, notSpace, skipHexPrefix, isSecond, inRange]
          · by_cases plus : first = 43
            · subst plus
              simp [stoulHex, notSpace, skipHexPrefix, isSecond, inRange]
            · simp [stoulHex, notSpace, minus, plus, skipHexPrefix, isFirst]
      | none =>
          by_cases sign : first = 45 ∨ first = 43
          · rcases sign with rfl | rfl
            · simp [stoulHex, notSpace, skipHexPrefix, isSecond]
            · simp [stoulHex, notSpace, skipHexPrefix, isSecond]
          · push Not at sign
            simp [stoulHex, notSpace, sign, skipHexPrefix, isFirst]

theorem stoulHex_isSome_iff {first second : UInt8} (notSpace : isSpace first = false) :
    (stoulHex [first, second]).isSome = readablePair (first, second) := by
  rw [stoulHex_pair notSpace, readablePair, isHexDigit, isHexDigit]
  cases hexDigitValue first with
  | some high => cases hexDigitValue second <;> rfl
  | none =>
      cases hexDigitValue second with
      | none => simp
      | some low =>
          by_cases minus : first = 45
          · simp [minus, isSign]
          · by_cases plus : first = 43
            · simp [plus, isSign]
            · simp [minus, plus, isSign]

/-! ## Texts -/

theorem decodeHexPairs_encodeHex (bytes : Bytes) :
    decodeHexPairs (encodeHex bytes) = some bytes := by
  induction bytes with
  | nil => rfl
  | cons byte rest ih =>
      have bound := byte.toNat_lt
      have high := hexDigitValue_hexDigit (show byte.toNat / 16 < 16 by omega)
      have low := hexDigitValue_hexDigit (show byte.toNat % 16 < 16 by omega)
      have pair : stoulHex [hexDigit (byte.toNat / 16), hexDigit (byte.toNat % 16)] =
          some byte.toNat := by
        rw [stoulHex_pair (isSpace_hexDigit (by omega)), high, low]
        simp only [Option.some.injEq]
        omega
      change decodeHexPairs (hexDigit (byte.toNat / 16) :: hexDigit (byte.toNat % 16) ::
        encodeHex rest) = _
      simp [decodeHexPairs, pair, ih]

theorem length_encodeHex (bytes : Bytes) : (encodeHex bytes).length = 2 * bytes.length := by
  induction bytes with
  | nil => rfl
  | cons byte rest ih =>
      change (hexDigit _ :: hexDigit _ :: encodeHex rest).length = _
      simp only [List.length_cons, ih]
      omega

/-- Decoding inverts encoding, whatever white space was inserted. -/
theorem decodeHex_of_strip {text bytes : Bytes} (same : stripSpace text = encodeHex bytes) :
    decodeHex text = bytes := by
  unfold decodeHex
  change (if (stripSpace text).length % 2 ≠ 0 then _
    else (decodeHexPairs (stripSpace text)).getD [])
    = _
  rw [same, length_encodeHex, if_neg (by omega), decodeHexPairs_encodeHex]
  rfl

theorem eq_nil_of_even {text : Bytes} (even : text.length % 2 = 0)
    (short : ∀ first second rest, text ≠ first :: second :: rest) : text = [] := by
  cases text with
  | nil => rfl
  | cons first rest =>
      cases rest with
      | nil => simp at even
      | cons second rest => exact (short first second rest rfl).elim

/-- A text of digits decodes, and encoding gives its digits back in upper case. -/
theorem decodeHexPairs_digits {text : Bytes} (even : text.length % 2 = 0)
    (digits : ∀ c ∈ text, isHexDigit c = true) :
    ∃ bytes, decodeHexPairs text = some bytes ∧ encodeHex bytes = text.map upperHexDigit := by
  induction text using hexPairs.induct with
  | case2 rest short =>
      rcases eq_nil_of_even even short with rfl
      exact ⟨[], rfl, rfl⟩
  | case1 first second rest ih =>
      simp only [List.length_cons] at even
      rcases ih (by omega) fun c member => digits c (by simp [member]) with
        ⟨bytes, decoded, encoded⟩
      rcases Option.isSome_iff_exists.mp (digits first (by simp)) with ⟨high, isHigh⟩
      rcases Option.isSome_iff_exists.mp (digits second (by simp)) with ⟨low, isLow⟩
      rcases hexDigitValue_eq_some isHigh with ⟨highBound, upperHigh, notSpace, _⟩
      rcases hexDigitValue_eq_some isLow with ⟨lowBound, upperLow, _, _⟩
      have pair : stoulHex [first, second] = some (high * 16 + low) := by
        rw [stoulHex_pair notSpace, isHigh, isLow]
      refine ⟨(high * 16 + low).toUInt8 :: bytes, by simp [decodeHexPairs, pair, decoded], ?_⟩
      have value : (high * 16 + low).toUInt8.toNat = high * 16 + low := by
        simp only [Nat.toUInt8, UInt8.toNat_ofNat']
        omega
      change hexDigit _ :: hexDigit _ :: encodeHex bytes = _
      rw [value, encoded, List.map_cons, List.map_cons, ← upperHigh, ← upperLow]
      congr 2
      · omega
      · congr 1
        omega

/-- A text decodes where its length is even and every group is readable. -/
theorem decodeHexPairs_isSome_iff {text : Bytes} (noSpace : ∀ c ∈ text, isSpace c = false) :
    (decodeHexPairs text).isSome = true ↔
      text.length % 2 = 0 ∧ ∀ pair ∈ hexPairs text, readablePair pair = true := by
  induction text using hexPairs.induct with
  | case2 rest short =>
      cases rest with
      | nil => simp [decodeHexPairs, hexPairs]
      | cons first rest =>
          cases rest with
          | nil => simp [decodeHexPairs]
          | cons second rest => exact (short first second rest rfl).elim
  | case1 first second rest ih =>
      have later := ih fun c member => noSpace c (by simp [member])
      have here := @stoulHex_isSome_iff first second (noSpace first (by simp))
      have parity : (first :: second :: rest).length % 2 = rest.length % 2 := by
        simp only [List.length_cons]
        omega
      rw [parity, hexPairs, List.forall_mem_cons, ← here, and_left_comm, ← later, decodeHexPairs]
      cases stoulHex [first, second] <;> cases decodeHexPairs rest <;> simp

theorem stripSpace_noSpace (text : Bytes) : ∀ c ∈ stripSpace text, isSpace c = false := by
  simp [stripSpace]

/-- Decoding gives no bytes, or the text is one of digits that encoding gives back up to
case, unless the text is misread. -/
theorem decodeHex_exact_iff (text : Bytes) :
    (decodeHex text ≠ [] → HexText text ∧
        encodeHex (decodeHex text) = (stripSpace text).map upperHexDigit) ↔ ¬Misread text := by
  have unfolded : decodeHex text = if (stripSpace text).length % 2 ≠ 0 then []
      else (decodeHexPairs (stripSpace text)).getD [] := rfl
  have decodes := decodeHexPairs_isSome_iff (stripSpace_noSpace text)
  constructor
  · rintro isExact ⟨even, readable, c, member, notDigit⟩
    rcases Option.isSome_iff_exists.mp (decodes.mpr ⟨even, readable⟩) with ⟨bytes, decoded⟩
    have nonempty : bytes ≠ [] := by
      rintro rfl
      cases stripped : stripSpace text with
      | nil => simp [stripped] at member
      | cons first rest =>
          cases rest with
          | nil => simp [stripped] at even
          | cons second rest =>
              rw [stripped, decodeHexPairs] at decoded
              split at decoded <;> simp at decoded
    rw [unfolded, if_neg (by omega), decoded] at isExact
    have digit := (isExact nonempty).1.digits c member
    rw [notDigit] at digit
    contradiction
  · intro notMisread decoded
    have even : (stripSpace text).length % 2 = 0 := by
      by_contra odd
      rw [unfolded, if_pos odd] at decoded
      contradiction
    rw [unfolded, if_neg (by omega)] at decoded ⊢
    have isSome : (decodeHexPairs (stripSpace text)).isSome = true := by
      by_contra isNone
      rw [Bool.not_eq_true, Option.isSome_eq_false_iff, Option.isNone_iff_eq_none] at isNone
      rw [isNone] at decoded
      contradiction
    have digits : ∀ c ∈ stripSpace text, isHexDigit c = true := by
      intro c member
      by_contra notDigit
      exact notMisread ⟨even, (decodes.mp isSome).2, c, member, by simpa using notDigit⟩
    rcases decodeHexPairs_digits even digits with ⟨bytes, isBytes, encoded⟩
    rw [isBytes]
    exact ⟨⟨even, digits⟩, encoded⟩

/-! ## Key files -/

theorem isSpace_encodeHex (bytes : Bytes) : stripSpace (encodeHex bytes) = encodeHex bytes := by
  refine List.filter_eq_self.mpr fun c member => ?_
  rcases List.mem_flatMap.mp member with ⟨byte, _, isDigit⟩
  have bound := byte.toNat_lt
  rcases List.mem_cons.mp isDigit with rfl | isLow
  · simp [isSpace_hexDigit (show byte.toNat / 16 < 16 by omega)]
  · rcases List.mem_singleton.mp isLow with rfl
    simp [isSpace_hexDigit (show byte.toNat % 16 < 16 by omega)]

/-- A misread text gives some bytes. -/
theorem Misread.decodeHex_ne_nil {text : Bytes} (misread : Misread text) : decodeHex text ≠ [] := by
  intro isNil
  exact (decodeHex_exact_iff text).mp (fun decoded => absurd isNil decoded) misread

/-- A file that is no hexadecimal text is passed over, unless it is misread. -/
theorem loadSymmetricFile_malformed_iff {host : Host} {oracle : Oracle} {slotId : Nat}
    {state : State} {path : Path} {content : Bytes}
    (isKey : Path.extension path.filename = ascii ".key")
    (opened : state.disk.opened oracle path = some content) (malformed : ¬HexText content) :
    loadSymmetricFile host oracle slotId state path = (state, true) ↔ ¬Misread content := by
  constructor
  · intro skipped misread
    have decoded := misread.decodeHex_ne_nil
    simp only [loadSymmetricFile, isKey, ne_eq, not_true_eq_false, if_false, opened,
      Option.getD_some, if_neg decoded] at skipped
    cases found : objectIdForFilename host path.filename with
    | none =>
        rw [found] at skipped
        cases congrArg Prod.snd skipped
    | some id =>
        rw [found] at skipped
        have handles := congrArg (fun result => result.1.nextObjectHandle) skipped
        simp [State.register] at handles
  · intro notMisread
    have notDecoded : decodeHex content = [] := by
      by_contra decoded
      exact malformed ((decodeHex_exact_iff content).mpr notMisread decoded).1
    simp [loadSymmetricFile, isKey, opened, notDecoded]

/-- Hexadecimal key files are read exactly but for the texts that are misread. -/
theorem hexadecimal_exact (text : Bytes) :
    (∀ bytes, decodeHex (encodeHex bytes) = bytes) ∧
      (∀ bytes, stripSpace text = encodeHex bytes → decodeHex text = bytes) ∧
      ((decodeHex text ≠ [] → HexText text ∧
        encodeHex (decodeHex text) = (stripSpace text).map upperHexDigit) ↔ ¬Misread text) ∧
      ∀ (host : Host) (oracle : Oracle) (slotId : Nat) (state : State) (path : Path),
        Path.extension path.filename = ascii ".key" →
        state.disk.opened oracle path = some text → ¬HexText text →
        (loadSymmetricFile host oracle slotId state path = (state, true) ↔ ¬Misread text) := by
  constructor
  · intro bytes
    exact decodeHex_of_strip (isSpace_encodeHex bytes)
  · constructor
    · intro bytes same
      exact decodeHex_of_strip same
    · constructor
      · exact decodeHex_exact_iff text
      · intro host oracle slotId state path isKey opened malformed
        exact loadSymmetricFile_malformed_iff isKey opened malformed

/-- A sign and a digit are loaded as a key of one byte. -/
theorem hexadecimal_exact_signedDigit :
    decodeHex (ascii "+5") = [5] ∧ ¬HexText (ascii "+5") ∧
      (loadSymmetricFile .plain .plain 1
        (.loaded ⟨(∅ : OrderedMap Path Bytes).insert [ascii "data", ascii "a.key"] (ascii "+5"), ∅⟩)
        [ascii "data", ascii "a.key"]).1.objects.values.map Object.secretValue = [[5]] := by
  constructor
  · decide
  · constructor
    · intro isText
      have digit := isText.digits 43 (by decide)
      revert digit
      decide
    · decide

end HsmSimulator
