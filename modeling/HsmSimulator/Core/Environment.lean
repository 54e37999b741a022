import HsmSimulator.Core.Runtime

/-!
# The environment of the module

What the module calls but does not contain.  `Host` is fixed over a run: the
process environment and what OpenSSL computes from its arguments alone.
`Oracle` is drawn afresh for every call: which file operations and OpenSSL
calls fail, the random bytes and the results of randomised primitives.  All
fields are arbitrary, so a theorem about every oracle covers every pattern of
failures.
-/

namespace HsmSimulator

/-- The message digests the simulator names. -/
inductive Digest
  | sha256
  | sha384
  | sha512
  deriving DecidableEq, Repr

/-- `EVP_MD_get_size`. -/
def Digest.size : Digest → Nat
  | .sha256 => 32
  | .sha384 => 48
  | .sha512 => 64

/-- One call of `EVP_PKEY_sign`, `EVP_PKEY_verify`, `EVP_DigestSign` or
`EVP_DigestVerify` with everything it was configured with. -/
structure Primitive where
  verify : Bool
  mechanism : Nat
  digest : Option Digest
  pss : PssParams
  /-- The salt length as the `int` OpenSSL is given. -/
  saltLength : Int
  key : EvpKey
  data : Bytes
  inputSignature : Bytes
  deriving DecidableEq

/-- What `EVP_PKEY_generate` is asked for. -/
structure KeygenRequest where
  algorithm : Bytes
  rsaBits : Option Int
  ecParams : Option Bytes
  deriving DecidableEq

/-- The deterministic part of OpenSSL. -/
structure OpenSsl where
  /-- `EVP_Digest` with SHA-256. -/
  sha256 : Bytes → Option Bytes
  /-- `EVP_PKEY_is_a`. -/
  isA : EvpKey → Bytes → Bool
  /-- `EVP_PKEY_get0_type_name`. -/
  typeName : EvpKey → Bytes
  /-- `EVP_PKEY_get_bits`. -/
  bits : EvpKey → Nat
  /-- `EVP_PKEY_get_size`. -/
  size : EvpKey → Nat
  /-- `EVP_PKEY_get_bn_param` and `BN_bn2bin` for a parameter name. -/
  bnParam : EvpKey → Bytes → Option Bytes
  /-- Group name of an EC key. -/
  groupName : EvpKey → Option Bytes
  /-- DER encoding of the object identifier of a group. -/
  groupOid : Bytes → Option Bytes
  /-- Encoded public point of an EC key. -/
  encodedPoint : EvpKey → Option Bytes
  /-- DER encoding of an octet string. -/
  octetString : Bytes → Option Bytes
  /-- `d2i_PKCS12` and `PKCS12_parse`: the private key and the certificate's DER. -/
  parsePkcs12 : Bytes → Bytes → Option (EvpKey × Option Bytes)
  /-- `EVP_PKEY2PKCS8` and `i2d_PKCS8_PRIV_KEY_INFO`. -/
  encodePkcs8 : EvpKey → Option Bytes
  /-- `d2i_PKCS8_PRIV_KEY_INFO` of the whole input and `EVP_PKCS82PKEY`. -/
  decodePkcs8 : Bytes → Option EvpKey
  /-- The AES block permutation under a key. -/
  aesBlock : Bytes → Bytes → Vector UInt8 16
  /-- AES key wrap; the flag selects the variant with padding. -/
  keyWrap : Bool → Bytes → Bytes → Option Bytes
  keyUnwrap : Bool → Bytes → Bytes → Option Bytes
  /-- `i2d_ECDSA_SIG`. -/
  encodeEcdsaSig : Nat → Nat → Option Bytes
  /-- `d2i_ECDSA_SIG`. -/
  decodeEcdsaSig : Bytes → Option (Nat × Nat)

/-- Environment variables with an empty fallback. -/
inductive Variable
  | pin
  | p12Password
  deriving DecidableEq, Repr

structure Host where
  /-- `HSM_SIM_DATA_DIR`, or `data`. -/
  dataDirectory : Path
  getenv : Variable → Option Bytes
  openSsl : OpenSsl

/-- `environmentValue(name, "")`. -/
def environmentValue (host : Host) (name : Variable) : Bytes :=
  (host.getenv name).getD []

/-- Fate of an `ofstream` that creates a file.  A stream buffers: an error may
show while writing or only when the stream is closed, and leaves a prefix of the
data in the file. -/
inductive WriteResult
  | openFails
  | failsAtWrite (kept : Nat)
  | failsAtClose (kept : Nat)
  | complete
  deriving DecidableEq, Repr

/-- An unspecified order, as of a directory iterator or of a hash table. -/
structure Order (α : Type) where
  reorder : List α → List α
  perm : ∀ entries, (reorder entries).Perm entries

/-- The order of the ordered map. -/
def Order.stored {α : Type} : Order α :=
  ⟨id, fun entries => List.Perm.refl entries⟩

/-- The opposite of the order of the ordered map. -/
def Order.reversed {α : Type} : Order α :=
  ⟨List.reverse, List.reverse_perm⟩

/-- Answers of the file system, OpenSSL and the random generator to one call. -/
structure Oracle where
  /-- `fs::exists` throws for this path. -/
  statFails : Path → Bool
  /-- Opening or reading this file fails. -/
  readFails : Path → Bool
  /-- Creating this directory fails. -/
  directoryFails : Path → Bool
  /-- Listing this directory fails. -/
  listingFails : Path → Bool
  writeResult : Path → WriteResult
  /-- Renaming this file fails. -/
  renameFails : Path → Bool
  /-- Removing this file fails. -/
  removeFails : Path → Bool
  /-- Order of the directory iterators. -/
  listing : Order Path
  /-- Iteration order of the object table. -/
  tableOrder : Order Nat
  /-- `RAND_bytes` for a number of bytes. -/
  randomBytes : Int → Option (Nat → UInt8)
  /-- `EVP_PKEY_CTX_new_from_name` and `EVP_PKEY_keygen_init`. -/
  keygenContext : Bool
  /-- `EVP_PKEY_CTX_set_rsa_keygen_bits`. -/
  acceptsRsaBits : Int → Bool
  /-- `d2i_ASN1_OBJECT` of the whole value and `EVP_PKEY_CTX_set_group_name`. -/
  acceptsEcParams : Bytes → Bool
  /-- `EVP_PKEY_generate`. -/
  generate : KeygenRequest → Option EvpKey
  /-- `i2d_PUBKEY` followed by `d2i_PUBKEY`. -/
  publicHalf : EvpKey → Option EvpKey
  /-- `PKCS12_create` and `i2d_PKCS12` for a password, a name and a key. -/
  createPkcs12 : Bytes → Bytes → EvpKey → Option Bytes
  /-- `EVP_CIPHER_fetch` and `EVP_CIPHER_CTX_new`. -/
  cipherContext : Bool
  /-- Initialisation of the cipher context. -/
  cipherInit : Bool
  /-- Update and final of the cipher. -/
  cipherRuns : Bool
  /-- `EVP_PKEY_CTX_new_from_pkey` or `EVP_MD_CTX_new`. -/
  signatureContext : Bool
  /-- Initialisation of the signature context. -/
  signatureInit : Bool
  /-- `EVP_PKEY_CTX_set_rsa_padding`. -/
  rsaPadding : Bool
  /-- The four calls of `configureRsaPss`. -/
  pssConfigured : Bool
  /-- `ECDSA_SIG_new` and the two `BN_bin2bn`. -/
  ecdsaAllocated : Bool
  /-- `ECDSA_SIG_set0`. -/
  ecdsaAssigned : Bool
  signPrimitive : Primitive → Option Bytes
  verifyPrimitive : Primitive → Bool

/-! ## A plain environment

Concrete runs are evaluated in it: nothing fails, a container is its key behind one
byte, and the primitives are the identity. -/

def OpenSsl.plain : OpenSsl where
  sha256 name := some name
  isA key name := key.content = name
  typeName key := key.content
  bits _ := 3072
  size _ := 384
  bnParam _ _ := none
  groupName _ := none
  groupOid _ := none
  encodedPoint _ := none
  octetString bytes := some bytes
  parsePkcs12 _ content :=
    match content with
    | 48 :: key => some (⟨key⟩, none)
    | _ => none
  encodePkcs8 key := some key.content
  decodePkcs8 bytes := some ⟨bytes⟩
  aesBlock _ _ := Vector.replicate 16 0
  keyWrap _ _ bytes := some bytes
  keyUnwrap _ _ bytes := some bytes
  encodeEcdsaSig _ _ := none
  decodeEcdsaSig _ := none

def Host.plain : Host where
  dataDirectory := [ascii "data"]
  getenv _ := none
  openSsl := .plain

def Oracle.plain : Oracle where
  statFails _ := false
  readFails _ := false
  directoryFails _ := false
  listingFails _ := false
  writeResult _ := .complete
  renameFails _ := false
  removeFails _ := false
  listing := .stored
  tableOrder := .stored
  randomBytes _ := some fun _ => 7
  keygenContext := true
  acceptsRsaBits _ := true
  acceptsEcParams _ := true
  generate request := some ⟨request.algorithm⟩
  publicHalf key := some key
  createPkcs12 _ _ key := some (48 :: key.content)
  cipherContext := true
  cipherInit := true
  cipherRuns := true
  signatureContext := true
  signatureInit := true
  rsaPadding := true
  pssConfigured := true
  ecdsaAllocated := true
  ecdsaAssigned := true
  signPrimitive primitive := some primitive.data
  verifyPrimitive _ := true

end HsmSimulator
