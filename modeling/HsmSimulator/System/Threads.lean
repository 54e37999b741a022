import HsmSimulator.Library.Locking
import HsmSimulator.Pkcs11.EntryPoints

/-!
# Threads

The threads of an application call the module at once, and they share its registry.  A service
reads and writes the registry access by access, and nothing but the mutex that `invoke` takes
keeps another thread from it meanwhile.  Every exported call goes through `invoke`, so the
calls of all threads, in an order that agrees with real time, are one run of the module.
-/

namespace HsmSimulator

universe u

/-- The services, access by access.  They run with the lock held and never call an exported
function, so they do not touch the mutex; alone, each does what its description says of a
module that `invoke` lets it see. -/
structure Services (host : Host) where
  program : Call × Oracle → Locking.Program State Response
  plain : ∀ input, (program input).Plain
  run : ∀ input state, ¬(input.1.needsInitialization = true ∧ state.initialized = false) →
    (program input).run state = service host input.2 state input.1

namespace Services

variable {host : Host}

/-- What `invoke` does under its guard. -/
def tested (services : Services host) (input : Call × Oracle) : Locking.Program State Response :=
  .access id fun state =>
    if input.1.needsInitialization = true ∧ state.initialized = false then
      .answer (.plain .cryptokiNotInitialized)
    else services.program input

/-- `invoke`: the guard has the mutex until the call returns, normally or by an exception. -/
def invoke (services : Services host) (input : Call × Oracle) : Locking.Program State Response :=
  (services.tested input).guarded

theorem tested_plain (services : Services host) (input : Call × Oracle) :
    (services.tested input).Plain := by
  intro state
  change Locking.Program.Plain (if _ then _ else _)
  split
  · trivial
  · exact services.plain input

theorem tested_run (services : Services host) (input : Call × Oracle) (state : State) :
    (services.tested input).run state = step host state input := by
  unfold step
  change Locking.Program.run (if _ then _ else _) state = _
  split
  · rfl
  · rename_i seen
    exact services.run input state seen

/-- Alone, an exported call is one step of the module. -/
theorem invoke_implements (services : Services host) :
    Locking.Implements services.invoke (step host) :=
  .guarded services.tested_plain services.tested_run

/-- Services at their most exposed: each takes a copy of the registry and later writes back
what it made of it. -/
def copying (host : Host) : Services host where
  program input := .access id fun state =>
    .access (fun _ => (service host input.2 state input.1).1) fun _ =>
      .answer (service host input.2 state input.1).2
  plain _ := fun _ _ => trivial
  run _ _ _ := rfl

end Services

/-- The module and the threads that call it. -/
abbrev Threads (τ : Type u) := Locking.Machine τ State (Call × Oracle) Response

variable {τ : Type u}

/-- What the threads did to the registry and what they were answered is one run of the module,
the one of this log. -/
structure Linearised (host : Host) (disk : FileSystem) (threads : Threads τ)
    (log : List (Locking.Served τ (Call × Oracle) Response)) : Prop where
  /-- Between two calls the registry is the one of the run. -/
  shared : threads.holder = none →
    threads.shared = Runs.final (step host) (.loaded disk) (log.map Locking.Served.input)
  outputs : log.map Locking.Served.output =
    Runs.outputs (step host) (.loaded disk) (log.map Locking.Served.input)
  answered : ∀ answer ∈ threads.answers, answer.toServed ∈ log
  /-- The other calls of the log are about to be answered. -/
  made : ∀ call ∈ log, (∃ answer ∈ threads.answers, answer.toServed = call) ∨
    threads.running call.thread = some ⟨call.input, call.called, .answer call.output⟩
  once : log.Nodup
  answeredOnce : (threads.answers.map Locking.Answered.toServed).Nodup
  realTime : ∀ answer ∈ threads.answers, ∀ call ∈ log, answer.answered < call.called →
    [answer.toServed, call].Sublist log

/-- When every call is answered, the run has these calls and no others. -/
theorem Linearised.perm {host : Host} {disk : FileSystem} {threads : Threads τ}
    {log : List (Locking.Served τ (Call × Oracle) Response)}
    (linearised : Linearised host disk threads log)
    (idle : ∀ thread, threads.running thread = none) :
    log.Perm (threads.answers.map Locking.Answered.toServed) := by
  refine (List.perm_ext_iff_of_nodup linearised.once linearised.answeredOnce).mpr fun call => ?_
  rw [List.mem_map]
  constructor
  · intro member
    rcases linearised.made call member with answered | ahead
    · exact answered
    · rw [idle] at ahead
      cases ahead
  · rintro ⟨answer, member, rfl⟩
    exact linearised.answered answer member

/-- A thread that is about to read or write the registry has the mutex. -/
def Exclusive (threads : Threads τ) : Prop :=
  ∀ thread input called update rest,
    threads.running thread = some ⟨input, called, .access update rest⟩ →
      threads.holder = some thread

variable [DecidableEq τ]

/-- Every call can come to its answer, by moves of its thread and of the one with the mutex. -/
def Answerable {host : Host} (services : Services host) (threads : Threads τ) : Prop :=
  ∀ thread, threads.running thread ≠ none → ∃ next,
    Relation.ReflTransGen (Locking.Move services.invoke) threads next ∧
      next.running thread = none ∧
        ∀ other, other ≠ thread → threads.holder ≠ some other →
          next.running other = threads.running other

/-- However the threads are interleaved, and whatever the accesses are that the services are
made of, only one thread at a time is at the registry, there is a run of the module that the
threads saw, and no call waits for ever. -/
theorem threads_linearised {host : Host} (services : Services host) {disk : FileSystem}
    {threads : Threads τ} (reached : Locking.Reached services.invoke (.loaded disk) threads) :
    Exclusive threads ∧ (∃ log, Linearised host disk threads log) ∧
      Answerable services threads := by
  obtain ⟨log, serialised⟩ := reached.serialised services.invoke_implements
  refine ⟨fun _ _ _ _ _ running => serialised.holder_of_access running, ⟨log, ?_⟩,
    fun _ busy => serialised.answerable services.invoke busy⟩
  exact ⟨serialised.shared, serialised.outputs, serialised.answered, serialised.made,
    serialised.once, serialised.answeredOnce, serialised.order⟩

/-- Two threads initialise at once, each with a copy of the registry.  With the mutex one is
told that the other was first; without it both are told that they were, which no run does. -/
theorem threads_linearised_two : ∃ threads unlocked : Threads Bool,
    threads.answers.map (fun answer => (answer.thread, answer.output.rv)) =
        [(false, .cryptokiAlreadyInitialized), (true, .ok)] ∧
      (Exclusive threads ∧ (∃ log, Linearised .plain ⟨∅, ∅⟩ threads log) ∧
        Answerable (.copying .plain) threads) ∧
      Locking.Reached (Services.copying .plain).tested (.loaded ⟨∅, ∅⟩) unlocked ∧
      unlocked.answers.map (fun answer => (answer.thread, answer.output.rv)) =
        [(false, .ok), (true, .ok)] ∧
      ¬∃ log, Linearised .plain ⟨∅, ∅⟩ unlocked log := by
  have fresh : ∀ program : Call × Oracle → Locking.Program State Response,
      Locking.Reached program (.loaded ⟨∅, ∅⟩)
        (Locking.Machine.start (.loaded ⟨∅, ∅⟩) : Threads Bool) := fun _ => .refl
  have called := ((fresh (Services.copying .plain).invoke).tail
    (.call false (.cInitialize false, .plain) rfl)).tail
    (.call true (.cInitialize false, .plain) rfl)
  have first := ((((called.tail (.acquire true rfl rfl)).tail (.access true rfl)).tail
    (.access true rfl)).tail (.access true rfl)).tail (.release true rfl)
  have second := ((((first.tail (.acquire false rfl rfl)).tail (.access false rfl)).tail
    (.access false rfl)).tail (.access false rfl)).tail (.release false rfl)
  have answered := (second.tail (.answer false rfl)).tail (.answer true rfl)
  have calledBoth := ((fresh (Services.copying .plain).tested).tail
    (.call false (.cInitialize false, .plain) rfl)).tail
    (.call true (.cInitialize false, .plain) rfl)
  have read := (((calledBoth.tail (.access false rfl)).tail (.access true rfl)).tail
    (.access false rfl)).tail (.access true rfl)
  have written := (read.tail (.access false rfl)).tail (.access true rfl)
  have answeredBoth := (written.tail (.answer false rfl)).tail (.answer true rfl)
  refine ⟨_, _, rfl, threads_linearised _ answered, answeredBoth, rfl, ?_⟩
  rintro ⟨log, linearised⟩
  have calls := linearised.perm (by intro thread; cases thread <;> rfl)
  have inputs : log.map Locking.Served.input = List.replicate 2 (.cInitialize false, .plain) :=
    List.perm_replicate.mp (calls.map Locking.Served.input)
  have outputs : (log.map Locking.Served.output).map Response.rv = List.replicate 2 .ok :=
    List.perm_replicate.mp ((calls.map Locking.Served.output).map Response.rv)
  rw [linearised.outputs, inputs] at outputs
  revert outputs
  decide

end HsmSimulator
