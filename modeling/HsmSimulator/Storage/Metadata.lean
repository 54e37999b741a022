import HsmSimulator.Core.Files
import HsmSimulator.Core.Utilities

/-!
# Metadata files

A metadata file stands beside a key file and holds, for every object class stored
in the key file, the label, the id and (since the second format) the policies.
The reader is a parser that hands on the rest of its input and fails where the
source throws; the writer stops where the source throws and keeps what it had
written by then.
-/

namespace HsmSimulator

namespace Metadata

/-- HSM1 stores label and id. -/
def legacyFormat : Nat := 0x48534D31

/-- HSM2 additionally stores per-class boolean policies. -/
def policyFormat : Nat := 0x48534D32

structure Attributes where
  label : Bytes
  id : Bytes
  policy : OrderedMap Nat Bool
  deriving DecidableEq

abbrev Records := OrderedMap Nat Attributes

/-- Name of the metadata file of a key file. -/
def path (key : Path) : Path := key.extend (ascii ".meta")

/-- Name of the file that is written before it is renamed. -/
def temporaryPath (key : Path) : Path := (path key).extend (ascii ".tmp")

/-! ## Reading -/

def readUint32 : Bytes → Option (Nat × Bytes)
  | a :: b :: c :: d :: rest => some (bigEndianValue [a, b, c, d], rest)
  | _ => none

def readString (input : Bytes) : Option (Bytes × Bytes) := do
  let (n, input) ← readUint32 input
  if 65536 < n ∨ input.length < n then none
  else some (input.take n, input.drop n)

def readPolicies : Nat → OrderedMap Nat Bool → Bytes → Option (OrderedMap Nat Bool × Bytes)
  | 0, policy, input => some (policy, input)
  | n + 1, policy, input => do
      let (type, input) ← readUint32 input
      let (value, input) ← readUint32 input
      if 1 < value ∨ (policy.get? type).isSome = true then none
      else readPolicies n (policy.insert type (value ≠ 0)) input

/-- The policies of one record; the first format has none. -/
def readPolicy (version : Nat) (input : Bytes) : Option (OrderedMap Nat Bool × Bytes) :=
  if version = policyFormat then do
    let (n, input) ← readUint32 input
    if 32 < n then none else readPolicies n ∅ input
  else some (∅, input)

def readRecord (version : Nat) (input : Bytes) : Option ((Nat × Attributes) × Bytes) := do
  let (cls, input) ← readUint32 input
  if cls < 1 ∨ 4 < cls then none
  else
    let (label, input) ← readString input
    let (id, input) ← readString input
    let (policy, input) ← readPolicy version input
    some ((cls, ⟨label, id, policy⟩), input)

def readRecords (version : Nat) : Nat → Records → Bytes → Option (Records × Bytes)
  | 0, records, input => some (records, input)
  | n + 1, records, input => do
      let ((cls, entry), input) ← readRecord version input
      if (records.get? cls).isSome = true then none
      else readRecords version n (records.insert cls entry) input

/-- Records of the content of a metadata file; `none` is a thrown exception. -/
def decode (content : Bytes) : Option Records :=
  if 1024 * 1024 < content.length then none
  else do
    let (version, input) ← readUint32 content
    if version ≠ legacyFormat ∧ version ≠ policyFormat then none
    else
      let (count, input) ← readUint32 input
      if 4 < count then none
      else
        let (records, input) ← readRecords version count ∅ input
        if input ≠ [] then none else some records

/-- Records of a key file; a missing metadata file has none. -/
def read (disk : FileSystem) (oracle : Oracle) (key : Path) : Option Records :=
  if oracle.statFails (path key) then none
  else if disk.hasPath (path key) = false then some ∅
  else if oracle.readFails (path key) then none
  else (disk.content (path key)).bind decode

/-! ## Writing -/

/-- What was written, and whether the writer came to its end. -/
structure Written where
  bytes : Bytes
  complete : Bool

namespace Written

def done (bytes : Bytes) : Written := ⟨bytes, true⟩

def andThen (first second : Written) : Written :=
  if first.complete then ⟨first.bytes ++ second.bytes, second.complete⟩ else first

end Written

def writeUint32 (n : Nat) : Bytes := bigEndianBytes 4 n

def writeString (value : Bytes) : Written :=
  if 65536 < value.length then ⟨[], false⟩ else .done (writeUint32 value.length ++ value)

def writePolicies (policies : List (Nat × Bool)) : Bytes :=
  policies.flatMap fun entry => writeUint32 entry.1 ++ writeUint32 (if entry.2 then 1 else 0)

def writeRecord (cls : Nat) (entry : Attributes) : Written :=
  (Written.done (writeUint32 cls)).andThen <|
    (writeString entry.label).andThen <|
      (writeString entry.id).andThen <|
        .done (writeUint32 entry.policy.size ++ writePolicies entry.policy.entries)

def writeRecords : List (Nat × Attributes) → Written
  | [] => .done []
  | (cls, entry) :: rest => (writeRecord cls entry).andThen (writeRecords rest)

def encode (records : Records) : Written :=
  (Written.done (writeUint32 policyFormat ++ writeUint32 records.size)).andThen
    (writeRecords records.entries)

/-- Create-only publication, or atomic replacement for attribute updates.  The flag
says whether the file was published; otherwise an exception was thrown. -/
def create (disk : FileSystem) (oracle : Oracle) (key : Path) (records : Records)
    (replace : Bool) : FileSystem × Bool :=
  let file := path key
  let temporary := temporaryPath key
  if (!replace && (oracle.statFails file || disk.hasPath file)) ||
      (oracle.statFails temporary || disk.hasPath temporary) then (disk, false)
  else
    let written := encode records
    disk.publish oracle temporary file written.bytes written.complete

end Metadata

end HsmSimulator
