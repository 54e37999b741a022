import HsmSimulator.Crypto.Derivation
import HsmSimulator.Crypto.Signature
import HsmSimulator.Crypto.Wrapping
import HsmSimulator.Library.Runs
import HsmSimulator.Objects.Objects
import HsmSimulator.Pkcs11.Token

/-!
# Entry points

The exported calls with their arguments.  One call is one step: it runs under the
lock of the module, tests whether the module is initialised, and turns exceptions
into return codes.  A run is a list of calls, each with the answers its environment
gives.
-/

namespace HsmSimulator

/-- An exported call.  A Boolean argument says whether an output pointer is given. -/
inductive Call
  | cInitialize (hasReserved : Bool)
  | cFinalize (hasReserved : Bool)
  | getInfo (hasInfo : Bool)
  | getSlotList (hasList : Bool) (count : Option Nat)
  | getSlotInfo (slotId : Nat) (hasInfo : Bool)
  | getTokenInfo (slotId : Nat) (hasInfo : Bool)
  | getMechanismList (slotId : Nat) (hasList : Bool) (count : Option Nat)
  | getMechanismInfo (slotId mechanism : Nat) (hasInfo : Bool)
  | openSession (slotId flags : Nat) (hasHandle : Bool)
  | closeSession (sessionHandle : Nat)
  | closeAllSessions (slotId : Nat)
  | getSessionInfo (sessionHandle : Nat) (hasInfo : Bool)
  | initPin (sessionHandle : Nat) (pin : Buffer)
  | setPin (sessionHandle : Nat) (oldPin newPin : Buffer)
  | login (sessionHandle userType : Nat) (pin : Buffer)
  | logout (sessionHandle : Nat)
  | destroyObject (sessionHandle objectHandle : Nat)
  | getAttributeValue (sessionHandle objectHandle : Nat) (attributes : QueryTemplate)
  | setAttributeValue (sessionHandle objectHandle : Nat) (attributes : Template)
  | findObjectsInit (sessionHandle : Nat) (attributes : Template)
  | findObjects (sessionHandle : Nat) (hasOutput : Bool) (capacity : Nat) (hasCount : Bool)
  | findObjectsFinal (sessionHandle : Nat)
  | signInit (sessionHandle : Nat) (mechanism : Option Mechanism) (keyHandle : Nat)
  | sign (sessionHandle : Nat) (data : Buffer) (signature : OutputBuffer) (hasLength : Bool)
  | signUpdate (sessionHandle : Nat) (data : Buffer)
  | signFinal (sessionHandle : Nat) (signature : OutputBuffer) (hasLength : Bool)
  | verifyInit (sessionHandle : Nat) (mechanism : Option Mechanism) (keyHandle : Nat)
  | verify (sessionHandle : Nat) (data signature : Buffer)
  | verifyUpdate (sessionHandle : Nat) (data : Buffer)
  | verifyFinal (sessionHandle : Nat) (signature : Buffer)
  | generateKey (sessionHandle : Nat) (mechanism : Option Mechanism) (attributes : Template)
      (hasHandle : Bool)
  | generateKeyPair (sessionHandle : Nat) (mechanism : Option Mechanism)
      (publicTemplate privateTemplate : Template) (hasHandles : Bool)
  | wrapKey (sessionHandle : Nat) (mechanism : Option Mechanism) (wrappingHandle keyHandle : Nat)
      (output : OutputBuffer) (hasLength : Bool)
  | unwrapKey (sessionHandle : Nat) (mechanism : Option Mechanism) (wrappingHandle : Nat)
      (input : Buffer) (attributes : Template) (hasHandle : Bool)
  | deriveKey (sessionHandle : Nat) (mechanism : Option Mechanism) (baseKey : Nat)
      (attributes : Template) (hasHandle : Bool)
  | generateRandom (sessionHandle : Nat) (output : Buffer)
  /-- A function of the interface that the simulator does not support. -/
  | unsupported
  deriving DecidableEq

/-- The service of a call, on an initialised module. -/
def service (host : Host) (oracle : Oracle) (state : State) : Call → State × Response
  | .cInitialize hasReserved => cInitialize host state oracle hasReserved
  | .cFinalize hasReserved => cFinalize state hasReserved
  | .getInfo hasInfo => (state, getInfo hasInfo)
  | .getSlotList hasList count => (state, getSlotList state hasList count)
  | .getSlotInfo slotId hasInfo => (state, getSlotInfo state slotId hasInfo)
  | .getTokenInfo slotId hasInfo => (state, getTokenInfo state slotId hasInfo)
  | .getMechanismList slotId hasList count => (state, getMechanismList state slotId hasList count)
  | .getMechanismInfo slotId mechanism hasInfo =>
      (state, getMechanismInfo state slotId mechanism hasInfo)
  | .openSession slotId flags hasHandle => openSession state slotId flags hasHandle
  | .closeSession sessionHandle => closeSession state sessionHandle
  | .closeAllSessions slotId => closeAllSessions state slotId
  | .getSessionInfo sessionHandle hasInfo => (state, getSessionInfo state sessionHandle hasInfo)
  | .initPin sessionHandle pin => initPin state oracle sessionHandle pin
  | .setPin sessionHandle oldPin newPin => setPin state oracle sessionHandle oldPin newPin
  | .login sessionHandle userType pin => login state sessionHandle userType pin
  | .logout sessionHandle => logout state sessionHandle
  | .destroyObject sessionHandle objectHandle =>
      destroyObject state oracle sessionHandle objectHandle
  | .getAttributeValue sessionHandle objectHandle attributes =>
      (state, getAttributeValue host state sessionHandle objectHandle attributes)
  | .setAttributeValue sessionHandle objectHandle attributes =>
      setAttributeValue state oracle sessionHandle objectHandle attributes
  | .findObjectsInit sessionHandle attributes =>
      findObjectsInit host state sessionHandle attributes
  | .findObjects sessionHandle hasOutput capacity hasCount =>
      findObjects state sessionHandle hasOutput capacity hasCount
  | .findObjectsFinal sessionHandle => findObjectsFinal state sessionHandle
  | .signInit sessionHandle mechanism keyHandle =>
      signInit host state sessionHandle mechanism keyHandle
  | .sign sessionHandle data signature hasLength =>
      sign host oracle state sessionHandle data signature hasLength
  | .signUpdate sessionHandle data => signUpdate state sessionHandle data
  | .signFinal sessionHandle signature hasLength =>
      signFinal host oracle state sessionHandle signature hasLength
  | .verifyInit sessionHandle mechanism keyHandle =>
      verifyInit host state sessionHandle mechanism keyHandle
  | .verify sessionHandle data signature =>
      verify host oracle state sessionHandle data signature
  | .verifyUpdate sessionHandle data => verifyUpdate state sessionHandle data
  | .verifyFinal sessionHandle signature =>
      verifyFinal host oracle state sessionHandle signature
  | .generateKey sessionHandle mechanism attributes hasHandle =>
      generateKey oracle state sessionHandle mechanism attributes hasHandle
  | .generateKeyPair sessionHandle mechanism publicTemplate privateTemplate hasHandles =>
      generateKeyPair host oracle state sessionHandle mechanism publicTemplate privateTemplate
        hasHandles
  | .wrapKey sessionHandle mechanism wrappingHandle keyHandle output hasLength =>
      (state, wrapKey host oracle state sessionHandle mechanism wrappingHandle keyHandle output
        hasLength)
  | .unwrapKey sessionHandle mechanism wrappingHandle input attributes hasHandle =>
      unwrapKey host oracle state sessionHandle mechanism wrappingHandle input attributes
        hasHandle
  | .deriveKey sessionHandle mechanism baseKey attributes hasHandle =>
      deriveKey host oracle state sessionHandle mechanism baseKey attributes hasHandle
  | .generateRandom sessionHandle output =>
      (state, generateRandom oracle state sessionHandle output)
  | .unsupported => (state, .plain .functionNotSupported)

/-- Every call but `C_Initialize` needs an initialised module. -/
def Call.needsInitialization : Call → Bool
  | .cInitialize _ => false
  | _ => true

/-- `invoke`: one call with the answers of its environment. -/
def step (host : Host) (state : State) (input : Call × Oracle) : State × Response :=
  if input.1.needsInitialization = true ∧ state.initialized = false then
    (state, .plain .cryptokiNotInitialized)
  else service host input.2 state input.1

theorem step_of_open {host : Host} {oracle : Oracle} {state : State}
    (isOpen : state.initialized = true) (call : Call) :
    step host state (call, oracle) = service host oracle state call := by
  simp [step, isOpen]

/-- States between public calls: what some run of a freshly loaded module reaches. -/
def Reachable (host : Host) (state : State) : Prop :=
  ∃ disk inputs, state = Runs.final (step host) (.loaded disk) inputs

/-! ## Plain runs -/

/-- The calls, each answered by the plain environment. -/
def plainRun (calls : List Call) : List (Call × Oracle) := calls.map fun call => (call, .plain)

/-- What holds of all calls in the plain environment holds along a plain run. -/
theorem plainRun_along {host : Host} {condition : State → Call × Oracle → Prop}
    (holds : ∀ state call, condition state (call, .plain)) (state : State) (calls : List Call) :
    Runs.Along (step host) condition state (plainRun calls) := by
  apply Runs.along_of_forall
  intro input member state
  obtain ⟨call, _, rfl⟩ := List.mem_map.mp member
  exact holds state call

/-- The plain state with a read-write session of the one legacy slot. -/
def plainSession : State :=
  Runs.final (step .plain) (.loaded ⟨∅, ∅⟩) (plainRun [.cInitialize false, .openSession 1 6 true])

/-- An AES key of the token. -/
def aesKey (sessionHandle : Nat) : Call :=
  .generateKey sessionHandle (some ⟨ckmAesKeyGen, .null 0⟩) (.entries []) true

/-- A session key pair. -/
def sessionPair (sessionHandle : Nat) : Call :=
  .generateKeyPair sessionHandle (some ⟨ckmRsaPkcsKeyPairGen, .null 0⟩)
    (.entries [⟨ckaToken, .bytes [0]⟩]) (.entries [⟨ckaToken, .bytes [0]⟩]) true

end HsmSimulator
