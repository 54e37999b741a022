import HsmSimulator.Core.Access

/-!
# Creation templates

The checks shared by the creation paths, and the slot, owner and policies a new
object takes from its template.
-/

namespace HsmSimulator

open Checks

def applyCreationTemplate (state : State) (object : Object) (sessionHandle : Nat)
    (attributes : Template) (fallback : Bool) : Except Rv Object := do
  validateCreationTemplate attributes
  require ((templateUnsigned attributes ckaClass).getD object.objectClass = object.objectClass ∧
    (templateUnsigned attributes ckaKeyType).getD object.keyType = object.keyType)
    .templateInconsistent
  let token := isTokenTemplate attributes fallback
  let session ← fetch (state.findSession sessionHandle) Exception.other.code
  require (token = false ∨ session.isReadWrite = true) .sessionReadOnly
  state.requireUserLogin sessionHandle
  let ownerSession := if token then 0 else sessionHandle
  return { object with
    slotId := session.slotId
    ownerSession := ownerSession
    policy := applyPolicyTemplate object.policy attributes
    path := if ownerSession ≠ 0 then [] else object.path }

end HsmSimulator
