import HsmSimulator.Core.Utilities
import HsmSimulator.Library.Checks

/-!
# Attribute templates

Caller-owned templates, their validation, and the boolean policies of objects
with the defaults that legacy key files rely on.
-/

namespace HsmSimulator

open Checks

/-- A pointer with a length: either a null pointer, whose length is whatever the
caller says, or readable memory of exactly that length. -/
inductive Buffer
  | null (length : Nat)
  | bytes (content : Bytes)
  deriving DecidableEq, Repr

namespace Buffer

def isNull : Buffer → Bool
  | null _ => true
  | bytes _ => false

def length : Buffer → Nat
  | null length => length
  | bytes content => content.length

/-- The bytes behind the pointer; none behind a null pointer. -/
def content : Buffer → Bytes
  | null _ => []
  | bytes content => content

/-- `!pointer && length`. -/
def isMissing : Buffer → Bool
  | null length => length ≠ 0
  | bytes _ => false

end Buffer

/-- `CK_ATTRIBUTE` as an input: its value is `pValue` with `ulValueLen`. -/
structure Attribute where
  type : Nat
  value : Buffer
  deriving DecidableEq, Repr

/-- `CK_ATTRIBUTE_PTR` with its count. -/
inductive Template
  | null (count : Nat)
  | entries (attributes : List Attribute)
  deriving DecidableEq, Repr

namespace Template

/-- `!attributes && attributeCount`. -/
def isMissing : Template → Bool
  | null count => count ≠ 0
  | entries _ => false

/-- The entries that are there to be read. -/
def toList : Template → List Attribute
  | null _ => []
  | entries attributes => attributes

end Template

/-- Bytes of the first entry of a type.  A null pointer with a length is as good as
no entry. -/
def templateBytes (attributes : Template) (attributeType : Nat) : Option Bytes :=
  match attributes.toList.find? fun entry => entry.type = attributeType with
  | none => none
  | some entry =>
      if entry.value.length = 0 then some []
      else if entry.value.isNull then none
      else some entry.value.content

def templateString (attributes : Template) (attributeType : Nat) (fallback : Bytes) : Bytes :=
  (templateBytes attributes attributeType).getD fallback

def templateUnsigned (attributes : Template) (attributeType : Nat) : Option Nat :=
  match templateBytes attributes attributeType with
  | none => none
  | some value =>
      if value.length = sizeofCkUlong then some (littleEndianValue value) else none

/-! ## Policies -/

/-- The boolean attributes an object stores. -/
def policyAttributes : List Nat :=
  [ckaSign, ckaVerify, ckaWrap, ckaUnwrap, ckaDerive, ckaEncrypt, ckaDecrypt, ckaExtractable,
    ckaSensitive, ckaPrivate, ckaModifiable, ckaDestroyable]

def isPolicyAttribute (attributeType : Nat) : Bool :=
  policyAttributes.contains attributeType

/-- The value of a policy an object does not store. -/
def policyDefault (objectClass keyType attributeType : Nat) : Bool :=
  if attributeType = ckaSign ∨ attributeType = ckaPrivate then
    objectClass = ckoPrivateKey
  else if attributeType = ckaVerify then
    objectClass = ckoPublicKey
  else if attributeType = ckaWrap ∨ attributeType = ckaUnwrap ∨ attributeType = ckaDerive ∨
      attributeType = ckaEncrypt ∨ attributeType = ckaDecrypt then
    objectClass = ckoSecretKey && keyType = ckkAes
  else if attributeType = ckaSensitive then
    false
  else
    attributeType = ckaExtractable || attributeType = ckaModifiable ||
      attributeType = ckaDestroyable

def policyValue (object : Object) (attributeType : Nat) : Bool :=
  (object.policy.get? attributeType).getD
    (policyDefault object.objectClass object.keyType attributeType)

/-! ## Validation -/

/-- Attribute types whose value is a `CK_ULONG`. -/
def ulongAttributes : List Nat :=
  [ckaClass, ckaKeyType, ckaValueLen, ckaModulusBits, ckaParameterSet]

/-- Attribute types whose value is a byte string. -/
def stringAttributes : List Nat := [ckaLabel, ckaId, ckaEcParams, ckaPublicExponent]

/-- Attribute types that only the token may set. -/
def readOnlyAttributes : List Nat :=
  [ckaAlwaysSensitive, ckaNeverExtractable, ckaLocal, ckaKeyGenMechanism]

/-- `CK_FALSE` or `CK_TRUE`. -/
def isBoolean : Bytes → Bool
  | [value] => value = 0 || value = 1
  | _ => false

/-- The checks on one entry of a creation template. -/
def validateCreationAttribute (entry : Attribute) : Except Rv Unit := do
  require (entry.value.isMissing = false) .attributeValueInvalid
  if isPolicyAttribute entry.type || entry.type = ckaToken then
    require (isBoolean entry.value.content = true) .attributeValueInvalid
  else if ulongAttributes.contains entry.type then
    require (entry.value.isNull = false ∧ entry.value.length = sizeofCkUlong)
      .attributeValueInvalid
  else if stringAttributes.contains entry.type then
    .ok ()
  else if readOnlyAttributes.contains entry.type then
    .error .attributeReadOnly
  else if entry.type = ckaValue then
    .error .templateInconsistent
  else
    .error .attributeTypeInvalid

/-- Entries are checked in order; `seen` holds the types of the earlier ones. -/
def validateEntries (validate : Attribute → Except Rv Unit) (seen : List Nat) :
    List Attribute → Except Rv Unit
  | [] => .ok ()
  | entry :: rest => do
      require (entry.type ∉ seen) .templateInconsistent
      validate entry
      validateEntries validate (entry.type :: seen) rest

def validateCreationTemplate (attributes : Template) : Except Rv Unit := do
  require (attributes.isMissing = false) .argumentsBad
  validateEntries validateCreationAttribute [] attributes.toList

def isTokenTemplate (attributes : Template) (fallback : Bool) : Bool :=
  match templateBytes attributes ckaToken with
  | none => fallback
  | some value => value.headD 0 ≠ 0

/-- `*static_cast<CK_BBOOL*>(pValue) != 0`. -/
def Attribute.boolean (entry : Attribute) : Bool :=
  entry.value.content.headD 0 ≠ 0

def applyPolicyTemplate (policy : OrderedMap Nat Bool) (attributes : Template) :
    OrderedMap Nat Bool :=
  attributes.toList.foldl
    (fun current entry =>
      if isPolicyAttribute entry.type then
        current.insert entry.type entry.boolean
      else current)
    policy

end HsmSimulator
