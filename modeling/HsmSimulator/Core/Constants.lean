import Mathlib

/-!
# PKCS#11 constants

The numeric constants of the OASIS headers that the simulator uses, under the
names of the headers, and the return codes it produces.  Attribute types, object
classes, key types and mechanisms stay numbers: callers and metadata files may
name any of them.
-/

namespace HsmSimulator

/-- The return codes (`CK_RV`) the simulator can produce. -/
inductive Rv
  | ok
  | hostMemory
  | generalError
  | argumentsBad
  | attributeReadOnly
  | attributeSensitive
  | attributeTypeInvalid
  | attributeValueInvalid
  | actionProhibited
  | bufferTooSmall
  | cryptokiAlreadyInitialized
  | cryptokiNotInitialized
  | dataInvalid
  | dataLenRange
  | deviceError
  | encryptedDataInvalid
  | functionNotSupported
  | keyFunctionNotPermitted
  | keyHandleInvalid
  | keySizeRange
  | keyTypeInconsistent
  | keyUnextractable
  | mechanismInvalid
  | mechanismParamInvalid
  | objectHandleInvalid
  | operationActive
  | operationNotInitialized
  | pinIncorrect
  | pinInvalid
  | pinLenRange
  | sessionHandleInvalid
  | sessionParallelNotSupported
  | sessionReadOnly
  | sessionReadOnlyExists
  | sessionReadWriteSoExists
  | signatureInvalid
  | signatureLenRange
  | slotIdInvalid
  | templateIncomplete
  | templateInconsistent
  | userAlreadyLoggedIn
  | userAnotherAlreadyLoggedIn
  | userNotLoggedIn
  | userPinNotInitialized
  | userTypeInvalid
  deriving DecidableEq, Repr

/-- The roles that can be logged in. -/
inductive UserType
  | so
  | user
  deriving DecidableEq, Repr

/-- `CK_USER_TYPE` values of the two roles; every other value is invalid. -/
def UserType.ofNumber : Nat → Option UserType
  | 0 => some .so
  | 1 => some .user
  | _ => none

/-- Exceptions that leave a service and reach the entry-point boundary. -/
inductive Exception
  | filesystemError
  | other
  deriving DecidableEq, Repr

/-- The code the boundary (`invoke`) returns for an exception. -/
def Exception.code : Exception → Rv
  | .filesystemError => .deviceError
  | .other => .generalError

/-! ## Attribute types -/

abbrev ckaClass : Nat := 0x00
abbrev ckaToken : Nat := 0x01
abbrev ckaPrivate : Nat := 0x02
abbrev ckaLabel : Nat := 0x03
abbrev ckaValue : Nat := 0x11
abbrev ckaKeyType : Nat := 0x100
abbrev ckaId : Nat := 0x102
abbrev ckaSensitive : Nat := 0x103
abbrev ckaEncrypt : Nat := 0x104
abbrev ckaDecrypt : Nat := 0x105
abbrev ckaWrap : Nat := 0x106
abbrev ckaUnwrap : Nat := 0x107
abbrev ckaSign : Nat := 0x108
abbrev ckaVerify : Nat := 0x10a
abbrev ckaDerive : Nat := 0x10c
abbrev ckaModulus : Nat := 0x120
abbrev ckaModulusBits : Nat := 0x121
abbrev ckaPublicExponent : Nat := 0x122
abbrev ckaValueLen : Nat := 0x161
abbrev ckaExtractable : Nat := 0x162
abbrev ckaLocal : Nat := 0x163
abbrev ckaNeverExtractable : Nat := 0x164
abbrev ckaAlwaysSensitive : Nat := 0x165
abbrev ckaKeyGenMechanism : Nat := 0x166
abbrev ckaModifiable : Nat := 0x170
abbrev ckaDestroyable : Nat := 0x172
abbrev ckaEcParams : Nat := 0x180
abbrev ckaEcPoint : Nat := 0x181
abbrev ckaParameterSet : Nat := 0x61d

/-! ## Object classes and key types -/

abbrev ckoCertificate : Nat := 1
abbrev ckoPublicKey : Nat := 2
abbrev ckoPrivateKey : Nat := 3
abbrev ckoSecretKey : Nat := 4

abbrev ckkRsa : Nat := 0x00
abbrev ckkEc : Nat := 0x03
abbrev ckkAes : Nat := 0x1f
abbrev ckkMlDsa : Nat := 0x4a
abbrev ckkSlhDsa : Nat := 0x4b

/-! ## Mechanisms -/

abbrev ckmRsaPkcsKeyPairGen : Nat := 0x00
abbrev ckmRsaPkcs : Nat := 0x01
abbrev ckmRsaPkcsPss : Nat := 0x0d
abbrev ckmMlDsaKeyPairGen : Nat := 0x1c
abbrev ckmMlDsa : Nat := 0x1d
abbrev ckmSlhDsaKeyPairGen : Nat := 0x2d
abbrev ckmSlhDsa : Nat := 0x2e
abbrev ckmSha256RsaPkcs : Nat := 0x40
abbrev ckmSha384RsaPkcs : Nat := 0x41
abbrev ckmSha512RsaPkcs : Nat := 0x42
abbrev ckmSha256RsaPkcsPss : Nat := 0x43
abbrev ckmSha384RsaPkcsPss : Nat := 0x44
abbrev ckmSha512RsaPkcsPss : Nat := 0x45
abbrev ckmSha256 : Nat := 0x250
abbrev ckmSha384 : Nat := 0x260
abbrev ckmSha512 : Nat := 0x270
abbrev ckmEcKeyPairGen : Nat := 0x1040
abbrev ckmEcdsa : Nat := 0x1041
abbrev ckmEcdsaSha256 : Nat := 0x1044
abbrev ckmEcdsaSha384 : Nat := 0x1045
abbrev ckmEcdsaSha512 : Nat := 0x1046
abbrev ckmAesKeyGen : Nat := 0x1080
abbrev ckmAesEcbEncryptData : Nat := 0x1104
abbrev ckmAesKeyWrap : Nat := 0x2109
abbrev ckmAesKeyWrapPad : Nat := 0x210a

abbrev ckgMgf1Sha256 : Nat := 2
abbrev ckgMgf1Sha384 : Nat := 3
abbrev ckgMgf1Sha512 : Nat := 4

/-! ## Flags and session states -/

abbrev ckfRwSession : Nat := 0x02
abbrev ckfSerialSession : Nat := 0x04
abbrev ckfTokenPresent : Nat := 0x01
abbrev ckfRng : Nat := 0x01
abbrev ckfLoginRequired : Nat := 0x04
abbrev ckfUserPinInitialized : Nat := 0x08
abbrev ckfTokenInitialized : Nat := 0x400
abbrev ckfSign : Nat := 0x800
abbrev ckfVerify : Nat := 0x2000
abbrev ckfGenerate : Nat := 0x8000
abbrev ckfGenerateKeyPair : Nat := 0x10000
abbrev ckfWrap : Nat := 0x20000
abbrev ckfUnwrap : Nat := 0x40000
abbrev ckfDerive : Nat := 0x80000

abbrev cksRoPublicSession : Nat := 0
abbrev cksRoUserFunctions : Nat := 1
abbrev cksRwPublicSession : Nat := 2
abbrev cksRwUserFunctions : Nat := 3
abbrev cksRwSoFunctions : Nat := 4

/-- `CK_UNAVAILABLE_INFORMATION`, which is `~0UL` for a 64-bit `CK_ULONG`. -/
abbrev ckUnavailableInformation : Nat := 2 ^ 64 - 1

/-- `sizeof(CK_ULONG)` of the LP64 build. -/
abbrev sizeofCkUlong : Nat := 8

/-- `std::numeric_limits<int>::max()`. -/
abbrev intMax : Nat := 2 ^ 31 - 1

/-- Conversion of an unsigned value to a 32-bit `int`. -/
def toInt (value : Nat) : Int :=
  if value % 2 ^ 32 < 2 ^ 31 then (value % 2 ^ 32 : Nat) else (value % 2 ^ 32 : Nat) - 2 ^ 32

end HsmSimulator
