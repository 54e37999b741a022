import HsmSimulator.Core.Runtime

/-!
# Byte encodings

Hexadecimal key files, file names made from labels, decimal identifiers and the
fixed-width strings of the information structures.
-/

namespace HsmSimulator

/-- `std::isspace` in the C locale. -/
def isSpace (c : UInt8) : Bool := c = 32 || 9 ≤ c && c ≤ 13

/-- `std::isalnum` in the C locale. -/
def isAlnum (c : UInt8) : Bool :=
  48 ≤ c && c ≤ 57 || 65 ≤ c && c ≤ 90 || 97 ≤ c && c ≤ 122

/-- The digit with a value below 16, upper case. -/
def hexDigit (value : Nat) : UInt8 :=
  if value < 10 then (48 + value).toUInt8 else (55 + value).toUInt8

def encodeHex (bytes : Bytes) : Bytes :=
  bytes.flatMap fun byte => [hexDigit (byte.toNat / 16), hexDigit (byte.toNat % 16)]

/-- Value of a hexadecimal digit of either case. -/
def hexDigitValue (c : UInt8) : Option Nat :=
  if 48 ≤ c && c ≤ 57 then some (c.toNat - 48)
  else if 65 ≤ c && c ≤ 70 then some (c.toNat - 55)
  else if 97 ≤ c && c ≤ 102 then some (c.toNat - 87)
  else none

/-- Skip the `0x` prefix that base 16 allows in front of a digit. -/
def skipHexPrefix : Bytes → Bytes
  | 48 :: x :: digit :: rest =>
      if (x = 120 || x = 88) && (hexDigitValue digit).isSome then digit :: rest
      else 48 :: x :: digit :: rest
  | text => text

/-- `std::stoul(text, nullptr, 16)`: white space, a sign, a prefix and the longest
run of digits; `none` is a thrown exception. -/
def stoulHex (text : Bytes) : Option Nat :=
  let trimmed := text.dropWhile isSpace
  let negative := trimmed.head? = some 45
  let unsigned := if negative || trimmed.head? = some 43 then trimmed.tail else trimmed
  let digits := (skipHexPrefix unsigned).map hexDigitValue |>.takeWhile Option.isSome
  let value := digits.foldl (fun number digit => number * 16 + digit.getD 0) 0
  if digits = [] || 2 ^ 64 ≤ value then none
  else some (if negative then (2 ^ 64 - value) % 2 ^ 64 else value)

/-- Decode two characters at a time. -/
def decodeHexPairs : Bytes → Option Bytes
  | [] => some []
  | [_] => none
  | first :: second :: rest =>
      match stoulHex [first, second], decodeHexPairs rest with
      | some value, some bytes => some (value.toUInt8 :: bytes)
      | _, _ => none

/-- An odd number of characters and a pair `std::stoul` rejects give no bytes. -/
def decodeHex (encoded : Bytes) : Bytes :=
  let stripped := encoded.filter fun c => !isSpace c
  if stripped.length % 2 ≠ 0 then [] else (decodeHexPairs stripped).getD []

/-- A character that stays in a file name. -/
def isFilenameChar (c : UInt8) : Bool := isAlnum c || c = 45 || c = 95

def safeFilename (label : Bytes) : Bytes :=
  if label = [] then ascii "key"
  else label.map fun c => if isFilenameChar c then c else 95

/-- `std::to_string` of an unsigned number. -/
def decimal (number : Nat) : Bytes :=
  if number = 0 then [48]
  else ((Nat.digits 10 number).map fun digit => (48 + digit).toUInt8).reverse

/-- The part of a string before its first NUL. -/
def cString (value : Bytes) : Bytes := value.takeWhile (· ≠ 0)

/-- A NUL-terminated string cut or padded with spaces to a width. -/
def writePaddedString (capacity : Nat) (value : Bytes) : Bytes :=
  let kept := (cString value).take capacity
  kept ++ List.replicate (capacity - kept.length) 32

/-- Big-endian number of a byte string. -/
def bigEndianValue (bytes : Bytes) : Nat :=
  bytes.foldl (fun number byte => number * 256 + byte.toNat) 0

/-- Big-endian encoding on a number of bytes. -/
def bigEndianBytes : Nat → Nat → Bytes
  | 0, _ => []
  | width + 1, number => (number / 256 ^ width).toUInt8 :: bigEndianBytes width number

/-- Value of the bytes of a `CK_ULONG` in memory, least significant byte first. -/
def littleEndianValue (bytes : Bytes) : Nat :=
  bytes.foldr (fun byte number => byte.toNat + 256 * number) 0

/-- Bytes of a `CK_ULONG` in memory. -/
def ulongBytes (number : Nat) : Bytes :=
  (bigEndianBytes sizeofCkUlong number).reverse

end HsmSimulator
