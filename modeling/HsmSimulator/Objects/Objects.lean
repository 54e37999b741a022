import HsmSimulator.Objects.Attributes

/-!
# Destroying and finding objects

Destroying a token object removes its key file and with it every object of that
file.  A search takes the handles that match when it starts and gives out those
that are still there and accessible.
-/

namespace HsmSimulator

open Checks

/-- Removal of a token object: of its key file, its metadata file, and every object
of the key file. -/
def destroyKeyFile (state : State) (oracle : Oracle) (path : Path) : State × Response :=
  let (disk, failed) := state.disk.remove oracle path
  if failed then ({ state with disk := disk }, .plain .deviceError)
  else
    let (disk, failed) := disk.remove oracle (Metadata.path path)
    ({ state with
        disk := disk
        objects := state.objects.eraseIf fun _ object => object.path = path },
      .plain (if failed then .deviceError else .ok))

/-- The checks of `DestroyObject`: every object of the key file must be destroyable. -/
def destroyableObject (state : State) (sessionHandle handle : Nat) : Except Rv Object := do
  let object ← alterableObject state sessionHandle handle ckaDestroyable
  require (state.objects.values.any (fun other => object.ownerSession = 0 &&
    other.path = object.path && !policyValue other ckaDestroyable) = false) .actionProhibited
  return object

def destroyObject (state : State) (oracle : Oracle) (sessionHandle handle : Nat) :
    State × Response :=
  match destroyableObject state sessionHandle handle with
  | .error code => (state, .plain code)
  | .ok object =>
      if object.ownerSession = 0 then destroyKeyFile state oracle object.path
      else ({ state with objects := state.objects.erase handle }, .plain .ok)

/-! ## Searching -/

/-- One template entry of a search: the attribute is read twice, first for its
length and then into a buffer of that length. -/
def matchesEntry (openSsl : OpenSsl) (object : Object) (entry : Attribute) : Bool :=
  let (probe, code) := readAttribute openSsl object ⟨entry.type, false, 0⟩
  if code ≠ .ok ∨ probe.length ≠ entry.value.length then false
  else
    let (value, code) :=
      readAttribute openSsl object ⟨entry.type, probe.length ≠ 0, probe.length⟩
    if code ≠ .ok then false
    else value.length = 0 || value.written = some entry.value.content

/-- The object is accessible to the session and matches every entry. -/
def matchesTemplate (host : Host) (state : State) (sessionHandle : Nat) (session : Session)
    (attributes : Template) (object : Object) : Bool :=
  object.slotId = session.slotId &&
    (match state.objectAccessStatus sessionHandle object with
      | .ok _ => true
      | .error _ => false) &&
    attributes.toList.all (matchesEntry host.openSsl object)

def searchingSession (state : State) (sessionHandle : Nat) (attributes : Template) :
    Except Rv Session := do
  let session ← fetch (state.findSession sessionHandle) .sessionHandleInvalid
  require (attributes.isMissing = false) .argumentsBad
  require (attributes.toList.any (fun entry => entry.value.isMissing) = false) .argumentsBad
  require (session.searchActive = false) .operationActive
  return session

def findObjectsInit (host : Host) (state : State) (sessionHandle : Nat) (attributes : Template) :
    State × Response :=
  match searchingSession state sessionHandle attributes with
  | .error code => (state, .plain code)
  | .ok session =>
      let found := state.objects.filter fun _ object =>
        matchesTemplate host state sessionHandle session attributes object
      (state.putSession sessionHandle
        { session with searchMatches := found.keys, searchOffset := 0, searchActive := true },
        .plain .ok)

/-- The handle names an object that the session may still see. -/
def stillVisible (state : State) (sessionHandle handle : Nat) : Bool :=
  match state.findObject sessionHandle handle with
  | none => false
  | some object =>
      match state.objectAccessStatus sessionHandle object with
      | .ok _ => true
      | .error _ => false

/-- The loop of `FindObjects` over the matches that are left: the handles to
return, and how many matches were passed. -/
def takeVisible (visible : Nat → Bool) : Nat → List Nat → List Nat × Nat
  | 0, _ => ([], 0)
  | _, [] => ([], 0)
  | capacity + 1, handle :: rest =>
      if visible handle then
        let (handles, passed) := takeVisible visible capacity rest
        (handle :: handles, passed + 1)
      else
        let (handles, passed) := takeVisible visible (capacity + 1) rest
        (handles, passed + 1)

/-- `hasOutput` and `hasCount` say whether the pointers are given. -/
def findObjects (state : State) (sessionHandle : Nat) (hasOutput : Bool) (capacity : Nat)
    (hasCount : Bool) : State × Response :=
  match (do
      let session ← fetch (state.findSession sessionHandle) .sessionHandleInvalid
      require (session.searchActive = true) .operationNotInitialized
      require (hasCount = true ∧ (hasOutput = true ∨ capacity = 0)) .argumentsBad
      return session : Except Rv Session) with
  | .error code => (state, .plain code)
  | .ok session =>
      let (handles, passed) := takeVisible (stillVisible state sessionHandle) capacity
        (session.searchMatches.drop session.searchOffset)
      (state.putSession sessionHandle
        { session with searchOffset := session.searchOffset + passed },
        .success (.found handles))

def findObjectsFinal (state : State) (sessionHandle : Nat) : State × Response :=
  match (do
      let session ← fetch (state.findSession sessionHandle) .sessionHandleInvalid
      require (session.searchActive = true) .operationNotInitialized
      return session : Except Rv Session) with
  | .error code => (state, .plain code)
  | .ok session =>
      (state.putSession sessionHandle { session with searchActive := false, searchMatches := [] },
        .plain .ok)

end HsmSimulator
