import HsmSimulator.Core.Environment

/-!
# Responses

What a call gives back: its return code, what it wrote to the caller's memory,
and the cryptographic primitive it reached.
-/

namespace HsmSimulator

/-- `CK_ATTRIBUTE` as an output: the type asked for, whether a buffer is given, and
the length the caller says it has. -/
structure AttributeQuery where
  type : Nat
  hasBuffer : Bool
  length : Nat
  deriving DecidableEq, Repr

/-- An array of output attributes with its count. -/
inductive QueryTemplate
  | null (count : Nat)
  | entries (queries : List AttributeQuery)
  deriving DecidableEq, Repr

/-- `ulValueLen` after the call, and the bytes written to the buffer. -/
structure AttributeResult where
  length : Nat
  written : Option Bytes
  deriving DecidableEq, Repr

/-- A caller's buffer with a length variable. -/
structure OutputBuffer where
  hasBuffer : Bool
  length : Nat
  deriving DecidableEq, Repr

/-- The variable parts of `CK_INFO` and of the structures of slots, tokens,
sessions and mechanisms. -/
inductive Info
  | library (manufacturer description : Bytes)
  | slot (description manufacturer : Bytes) (flags : Nat)
  | token (label manufacturer model serialNumber : Bytes)
      (flags maxSessionCount sessionCount maxRwSessionCount rwSessionCount : Nat)
      (maxPinLen minPinLen : Nat)
  | session (slotId state flags : Nat)
  | mechanism (minKeySize maxKeySize flags : Nat)
  deriving DecidableEq, Repr

/-- What a call wrote through its output pointers. -/
inductive Output
  | none
  | handle (handle : Nat)
  | keyPair (publicHandle privateHandle : Nat)
  | found (handles : List Nat)
  | attributes (results : List AttributeResult)
  | buffer (length : Nat) (written : Option Bytes)
  | bytes (written : Bytes)
  | numbers (count : Nat) (written : Option (List Nat))
  | info (info : Info)
  deriving DecidableEq, Repr

structure Response where
  rv : Rv
  output : Output
  primitive : Option Primitive
  deriving DecidableEq

namespace Response

/-- A response without output. -/
def plain (rv : Rv) : Response := ⟨rv, .none, none⟩

/-- A successful response with an output. -/
def success (output : Output) : Response := ⟨.ok, output, none⟩

@[simp]
theorem plain_rv (rv : Rv) : (plain rv).rv = rv :=
  rfl

@[simp]
theorem plain_output (rv : Rv) : (plain rv).output = .none :=
  rfl

@[simp]
theorem plain_primitive (rv : Rv) : (plain rv).primitive = none :=
  rfl

@[simp]
theorem success_rv (output : Output) : (success output).rv = .ok :=
  rfl

@[simp]
theorem success_output (output : Output) : (success output).output = output :=
  rfl

@[simp]
theorem success_primitive (output : Output) : (success output).primitive = none :=
  rfl

end Response

end HsmSimulator
