import HsmSimulator.Core.Integers
import HsmSimulator.Pkcs11.SignatureData

/-!
# Lengths given to OpenSSL

OpenSSL takes lengths as `int`.  Wrapping, unwrapping, derivation and PSS check theirs
before the conversion.  `GenerateRandom` and the modulus of a key pair do not: a value
beyond the range becomes another one, which is refused only where it is negative or too
small.
-/

namespace HsmSimulator

open Checks

section

variable {host : Host} {oracle : Oracle} {state : State} {sessionHandle : Nat}

end

end HsmSimulator
