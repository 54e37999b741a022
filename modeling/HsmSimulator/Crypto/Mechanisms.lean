import HsmSimulator.Core.Environment
import HsmSimulator.Objects.Template

/-!
# Mechanisms

The supported mechanisms and what each of them says about keys, digests and
parameter sets.
-/

namespace HsmSimulator

/-- The parameter a mechanism points to, by the structure it has the size of. -/
inductive Parameter
  | null (length : Nat)
  | pss (params : PssParams)
  | stringData (data : Buffer)
  | other (length : Nat)
  deriving DecidableEq, Repr

/-- `CK_MECHANISM`. -/
structure Mechanism where
  mechanism : Nat
  parameter : Parameter
  deriving DecidableEq, Repr

/-- `pParameter || ulParameterLen`. -/
def Parameter.isGiven : Parameter → Bool
  | .null length => length ≠ 0
  | _ => true

def supportedMechanisms : List Nat :=
  [ckmAesEcbEncryptData, ckmRsaPkcsKeyPairGen, ckmRsaPkcs, ckmSha256RsaPkcs, ckmSha384RsaPkcs,
    ckmSha512RsaPkcs, ckmEcKeyPairGen, ckmEcdsa, ckmEcdsaSha256, ckmEcdsaSha384, ckmEcdsaSha512,
    ckmAesKeyGen, ckmAesKeyWrap, ckmAesKeyWrapPad, ckmMlDsaKeyPairGen, ckmMlDsa,
    ckmSlhDsaKeyPairGen, ckmSlhDsa, ckmRsaPkcsPss, ckmSha256RsaPkcsPss, ckmSha384RsaPkcsPss,
    ckmSha512RsaPkcsPss]

/-- A key that OpenSSL names otherwise has the type `~0UL`. -/
def keyType (openSsl : OpenSsl) (key : EvpKey) : Nat :=
  if openSsl.isA key (ascii "RSA") then ckkRsa
  else if openSsl.isA key (ascii "EC") then ckkEc
  else if (ascii "ML-DSA-").isPrefixOf (openSsl.typeName key) then ckkMlDsa
  else if (ascii "SLH-DSA-").isPrefixOf (openSsl.typeName key) then ckkSlhDsa
  else 2 ^ 64 - 1

def keyAlgorithmName (openSsl : OpenSsl) (key : EvpKey) : Bytes := openSsl.typeName key

def isRsaPss (mechanism : Nat) : Bool :=
  mechanism = ckmRsaPkcsPss || mechanism = ckmSha256RsaPkcsPss ||
    mechanism = ckmSha384RsaPkcsPss || mechanism = ckmSha512RsaPkcsPss

def supportsSignature (type mechanism : Nat) : Bool :=
  if type = ckkRsa then
    isRsaPss mechanism || mechanism = ckmRsaPkcs || mechanism = ckmSha256RsaPkcs ||
      mechanism = ckmSha384RsaPkcs || mechanism = ckmSha512RsaPkcs
  else if type = ckkEc then
    mechanism = ckmEcdsa || mechanism = ckmEcdsaSha256 || mechanism = ckmEcdsaSha384 ||
      mechanism = ckmEcdsaSha512
  else if type = ckkMlDsa then mechanism = ckmMlDsa
  else if type = ckkSlhDsa then mechanism = ckmSlhDsa
  else false

def pssDigest (mechanism : Nat) : Option Digest :=
  if mechanism = ckmSha256 then some .sha256
  else if mechanism = ckmSha384 then some .sha384
  else if mechanism = ckmSha512 then some .sha512
  else none

def mgfDigest (maskGenerationFunction : Nat) : Option Digest :=
  if maskGenerationFunction = ckgMgf1Sha256 then some .sha256
  else if maskGenerationFunction = ckgMgf1Sha384 then some .sha384
  else if maskGenerationFunction = ckgMgf1Sha512 then some .sha512
  else none

def signatureDigest (mechanism : Nat) : Option Digest :=
  if mechanism = ckmSha256RsaPkcs ∨ mechanism = ckmEcdsaSha256 then some .sha256
  else if mechanism = ckmSha384RsaPkcs ∨ mechanism = ckmEcdsaSha384 then some .sha384
  else if mechanism = ckmSha512RsaPkcs ∨ mechanism = ckmEcdsaSha512 then some .sha512
  else none

/-- The SLH-DSA parameter sets, in the order of their numbers. -/
def slhDsaNames : List Bytes :=
  [ascii "SHA2-128s", ascii "SHAKE-128s", ascii "SHA2-128f", ascii "SHAKE-128f",
    ascii "SHA2-192s", ascii "SHAKE-192s", ascii "SHA2-192f", ascii "SHAKE-192f",
    ascii "SHA2-256s", ascii "SHAKE-256s", ascii "SHA2-256f", ascii "SHAKE-256f"]

/-- Zero is no parameter set. -/
def keyParameterSet (object : Object) : Nat :=
  if object.keyType = ckkMlDsa then
    if ascii "44" <:+: object.algorithmName then 1
    else if ascii "87" <:+: object.algorithmName then 3
    else 2
  else if object.keyType = ckkSlhDsa then
    match slhDsaNames.findIdx? fun name => name <:+: object.algorithmName with
    | some index => index + 1
    | none => 0
  else 0

/-- Name of the key type to generate; empty where there is none. -/
def generationAlgorithm (mechanism : Nat) (attributes : Template) : Bytes :=
  if mechanism = ckmRsaPkcsKeyPairGen then ascii "RSA"
  else if mechanism = ckmEcKeyPairGen then ascii "EC"
  else if mechanism = ckmMlDsaKeyPairGen then
    match (templateUnsigned attributes ckaParameterSet).getD 2 with
    | 1 => ascii "ML-DSA-44"
    | 2 => ascii "ML-DSA-65"
    | 3 => ascii "ML-DSA-87"
    | _ => []
  else if mechanism = ckmSlhDsaKeyPairGen then
    let parameterSet := (templateUnsigned attributes ckaParameterSet).getD 1
    match slhDsaNames[parameterSet - 1]? with
    | some name => if parameterSet = 0 then [] else ascii "SLH-DSA-" ++ name
    | none => []
  else []

end HsmSimulator
