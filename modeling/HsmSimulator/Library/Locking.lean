import HsmSimulator.Library.Runs

/-!
# Threads that share a state

Any number of threads run programs on one state.  A program reads and writes the state access
by access, between which the other threads go on, and it takes and gives back the one lock.
Only the taking waits for anything: nothing in the machine keeps a thread from the state while
another one has the lock.

A program is guarded if it takes the lock first and gives it back last.  If all programs are,
and each has alone the effect of one step of a system, then the threads see a run of that
system, however they are interleaved: its calls stand in the order in which they gave the lock
back.  Nothing of this is a rule of the machine; it is an invariant of its moves.
-/

universe u v w x

namespace Locking

/-- What a thread does from its call to its answer. -/
inductive Program (σ : Type u) (ο : Type w)
  | answer (output : ο)
  | acquire (rest : Program σ ο)
  | release (rest : Program σ ο)
  /-- One access of the state, and what is done with what was read. -/
  | access (update : σ → σ) (rest : σ → Program σ ο)

/-- A call that is not answered yet, with the time it was made at. -/
structure Running (σ : Type u) (ι : Type v) (ο : Type w) where
  input : ι
  called : Nat
  rest : Program σ ο

/-- A call and its output. -/
structure Served (τ : Type x) (ι : Type v) (ο : Type w) where
  thread : τ
  input : ι
  output : ο
  called : Nat

/-- A call that was answered, with the time of its answer. -/
structure Answered (τ : Type x) (ι : Type v) (ο : Type w) extends Served τ ι ο where
  answered : Nat

structure Machine (τ : Type x) (σ : Type u) (ι : Type v) (ο : Type w) where
  shared : σ
  holder : Option τ
  running : τ → Option (Running σ ι ο)
  clock : Nat
  answers : List (Answered τ ι ο)

variable {τ : Type x} {σ : Type u} {ι : Type v} {ο : Type w}

namespace Program

/-- What the program does alone, whether it has the lock or not. -/
def run : Program σ ο → σ → σ × ο
  | .answer output, state => (state, output)
  | .acquire rest, state => rest.run state
  | .release rest, state => rest.run state
  | .access update rest, state => (rest state).run (update state)

/-- Nothing but accesses and an answer. -/
def Plain : Program σ ο → Prop
  | .answer _ => True
  | .acquire _ => False
  | .release _ => False
  | .access _ rest => ∀ read, (rest read).Plain

/-- Accesses until the lock is given back, and then only the answer. -/
def Held : Program σ ο → Prop
  | .answer _ => False
  | .acquire _ => False
  | .release rest => ∃ output, rest = .answer output
  | .access _ rest => ∀ read, (rest read).Held

/-- The program gives the lock back before it answers, on every way to an answer. -/
def releasing : Program σ ο → Program σ ο
  | .answer output => .release (.answer output)
  | .acquire rest => .acquire rest.releasing
  | .release rest => .release rest.releasing
  | .access update rest => .access update fun read => (rest read).releasing

/-- The program under a guard that has the lock as long as it lives. -/
def guarded (body : Program σ ο) : Program σ ο := .acquire body.releasing

theorem Plain.held {body : Program σ ο} (plain : body.Plain) : body.releasing.Held := by
  induction body with
  | answer output => exact ⟨output, rfl⟩
  | acquire rest => exact plain.elim
  | release rest => exact plain.elim
  | access update rest ih => exact fun read => ih read (plain read)

@[simp]
theorem run_releasing (body : Program σ ο) (state : σ) :
    body.releasing.run state = body.run state := by
  induction body generalizing state with
  | answer output => rfl
  | acquire rest ih => exact ih state
  | release rest ih => exact ih state
  | access update rest ih => exact ih state (update state)

end Program

/-- Every program is guarded and does alone what the system does on its input. -/
def Implements (program : ι → Program σ ο) (step : σ → ι → σ × ο) : Prop :=
  ∀ input, ∃ body, program input = .acquire body ∧ body.Held ∧
    ∀ state, body.run state = step state input

/-- A guard around plain bodies makes an implementation. -/
theorem Implements.guarded {bodies : ι → Program σ ο} {step : σ → ι → σ × ο}
    (plain : ∀ input, (bodies input).Plain)
    (run : ∀ input state, (bodies input).run state = step state input) :
    Implements (fun input => (bodies input).guarded) step := by
  intro input
  refine ⟨(bodies input).releasing, rfl, (plain input).held, fun state => ?_⟩
  rw [Program.run_releasing, run]

namespace Machine

/-- Nobody has called yet. -/
def start (state : σ) : Machine τ σ ι ο := ⟨state, none, fun _ => none, 0, []⟩

variable [DecidableEq τ]

/-- One thread moves on, and the clock with it. -/
def move (machine : Machine τ σ ι ο) (thread : τ) (running : Option (Running σ ι ο)) :
    Machine τ σ ι ο :=
  { machine with
    running := Function.update machine.running thread running
    clock := machine.clock + 1 }

@[simp]
theorem running_move (machine : Machine τ σ ι ο) (thread other : τ)
    (running : Option (Running σ ι ο)) :
    (machine.move thread running).running other =
      if other = thread then running else machine.running other :=
  Function.update_apply ..

end Machine

/-- What a thread may do next. -/
inductive Move [DecidableEq τ] (program : ι → Program σ ο) :
    Machine τ σ ι ο → Machine τ σ ι ο → Prop
  | call {machine : Machine τ σ ι ο} (thread : τ) (input : ι) :
      machine.running thread = none →
      Move program machine (machine.move thread (some ⟨input, machine.clock, program input⟩))
  | acquire {machine : Machine τ σ ι ο} (thread : τ) {input : ι} {called : Nat}
      {rest : Program σ ο} :
      machine.running thread = some ⟨input, called, .acquire rest⟩ → machine.holder = none →
      Move program machine
        { machine.move thread (some ⟨input, called, rest⟩) with holder := some thread }
  | release {machine : Machine τ σ ι ο} (thread : τ) {input : ι} {called : Nat}
      {rest : Program σ ο} :
      machine.running thread = some ⟨input, called, .release rest⟩ →
      Move program machine
        { machine.move thread (some ⟨input, called, rest⟩) with holder := none }
  | access {machine : Machine τ σ ι ο} (thread : τ) {input : ι} {called : Nat} {update : σ → σ}
      {rest : σ → Program σ ο} :
      machine.running thread = some ⟨input, called, .access update rest⟩ →
      Move program machine
        { machine.move thread (some ⟨input, called, rest machine.shared⟩) with
          shared := update machine.shared }
  | answer {machine : Machine τ σ ι ο} (thread : τ) {input : ι} {called : Nat} {output : ο} :
      machine.running thread = some ⟨input, called, .answer output⟩ →
      Move program machine
        { machine.move thread none with
          answers := machine.answers ++ [⟨⟨thread, input, output, called⟩, machine.clock⟩] }

/-- Machines that the threads can come to. -/
def Reached [DecidableEq τ] (program : ι → Program σ ο) (state : σ)
    (machine : Machine τ σ ι ο) : Prop :=
  Relation.ReflTransGen (Move program) (.start state) machine

/-! ## The invariant -/

section

variable {program : ι → Program σ ο} {step : σ → ι → σ × ο} {state : σ}
  {machine next : Machine τ σ ι ο} {log : List (Served τ ι ο)} {thread : τ}

/-- State after the calls of a log. -/
def replay (step : σ → ι → σ × ο) (state : σ) (log : List (Served τ ι ο)) : σ :=
  Runs.final step state (log.map Served.input)

/-- The calls of the thread in the log were made before this time. -/
def Earlier (log : List (Served τ ι ο)) (thread : τ) (called : Nat) : Prop :=
  ∀ call ∈ log, call.thread = thread → call.called < called

/-- Where a thread is in its call. -/
inductive Phase (step : σ → ι → σ × ο) (state : σ) (machine : Machine τ σ ι ο)
    (log : List (Served τ ι ο)) (thread : τ) : Option (Running σ ι ο) → Prop
  | idle : machine.holder ≠ some thread → Phase step state machine log thread none
  | waiting {input : ι} {called : Nat} {body : Program σ ο} :
      machine.holder ≠ some thread → called < machine.clock → Earlier log thread called →
      body.Held → (∀ state, body.run state = step state input) →
      Phase step state machine log thread (some ⟨input, called, .acquire body⟩)
  /-- What is left of the program will bring the step to its end. -/
  | working {input : ι} {called : Nat} {rest : Program σ ο} :
      machine.holder = some thread → called < machine.clock → Earlier log thread called →
      rest.Held → rest.run machine.shared = step (replay step state log) input →
      Phase step state machine log thread (some ⟨input, called, rest⟩)
  | leaving {input : ι} {called : Nat} {output : ο} :
      machine.holder ≠ some thread → called < machine.clock →
      ⟨thread, input, output, called⟩ ∈ log →
      (∀ answer ∈ machine.answers, answer.toServed ≠ ⟨thread, input, output, called⟩) →
      Phase step state machine log thread (some ⟨input, called, .answer output⟩)

/-- The machine is where the run of the log is. -/
structure Serialised (step : σ → ι → σ × ο) (state : σ) (machine : Machine τ σ ι ο)
    (log : List (Served τ ι ο)) : Prop where
  shared : machine.holder = none → machine.shared = replay step state log
  outputs : log.map Served.output = Runs.outputs step state (log.map Served.input)
  phases : ∀ thread, Phase step state machine log thread (machine.running thread)
  answered : ∀ answer ∈ machine.answers, answer.toServed ∈ log
  /-- The log has no call that nobody made. -/
  made : ∀ call ∈ log, (∃ answer ∈ machine.answers, answer.toServed = call) ∨
    machine.running call.thread = some ⟨call.input, call.called, .answer call.output⟩
  once : log.Nodup
  answeredOnce : (machine.answers.map Answered.toServed).Nodup
  past : ∀ call ∈ log, call.called < machine.clock
  /-- A call that was answered before another was made stands before it. -/
  order : ∀ answer ∈ machine.answers, ∀ call ∈ log, answer.answered < call.called →
    [answer.toServed, call].Sublist log

/-- A thread with an access ahead of it has the lock. -/
theorem Serialised.holder_of_access (serialised : Serialised step state machine log)
    {input : ι} {called : Nat} {update : σ → σ} {rest : σ → Program σ ο}
    (running : machine.running thread = some ⟨input, called, .access update rest⟩) :
    machine.holder = some thread := by
  have phase := serialised.phases thread
  rw [running] at phase
  cases phase with
  | working holds => exact holds

/-- The holder is at work. -/
theorem Serialised.working_of_holder (serialised : Serialised step state machine log)
    (holds : machine.holder = some thread) :
    ∃ input called rest, machine.running thread = some ⟨input, called, rest⟩ ∧ rest.Held := by
  have phase := serialised.phases thread
  cases running : machine.running thread with
  | none =>
      rw [running] at phase
      cases phase with
      | idle free => exact absurd holds free
  | some call =>
      rw [running] at phase
      cases phase with
      | waiting free => exact absurd holds free
      | working _ _ _ held => exact ⟨_, _, _, rfl, held⟩
      | leaving free => exact absurd holds free

theorem Serialised.start (step : σ → ι → σ × ο) (state : σ) :
    Serialised step state (.start state : Machine τ σ ι ο) [] where
  shared _ := rfl
  outputs := rfl
  phases _ := .idle (by simp [Machine.start])
  answered _ member := by cases member
  made _ member := by cases member
  once := List.nodup_nil
  answeredOnce := List.nodup_nil
  past _ member := by cases member
  order _ member := by cases member

/-- A thread that does not move does not see what the others do: they leave it the lock that
it has and the state with it, and they answer no call of its. -/
theorem Phase.keep {running : Option (Running σ ι ο)} {more : List (Served τ ι ο)}
    (phase : Phase step state machine log thread running)
    (holder : next.holder = some thread ↔ machine.holder = some thread)
    (shared : machine.holder = some thread → next.shared = machine.shared ∧ more = [])
    (clock : machine.clock ≤ next.clock)
    (others : ∀ call ∈ more, call.thread ≠ thread)
    (answers : ∀ answer ∈ next.answers, answer ∈ machine.answers ∨ answer.thread ≠ thread) :
    Phase step state next (log ++ more) thread running := by
  have earlier : ∀ called, Earlier log thread called → Earlier (log ++ more) thread called := by
    intro called before call member own
    rcases List.mem_append.mp member with old | new
    · exact before call old own
    · exact absurd own (others call new)
  cases phase with
  | idle free => exact .idle fun holds => free (holder.mp holds)
  | waiting free before first held run =>
      exact .waiting (fun holds => free (holder.mp holds)) (before.trans_le clock)
        (earlier _ first) held run
  | working holds before first held run =>
      obtain ⟨same, rfl⟩ := shared holds
      refine .working (holder.mpr holds) (before.trans_le clock) (earlier _ first) held ?_
      rw [same, List.append_nil, run]
  | leaving free before served unanswered =>
      refine .leaving (fun holds => free (holder.mp holds)) (before.trans_le clock)
        (List.mem_append_left _ served) fun answer member same => ?_
      rcases answers answer member with old | other
      · exact unanswered answer old same
      · exact other (congrArg Served.thread same)

/-- A thread that does not move, while the log stays as it is. -/
theorem Phase.stay {running : Option (Running σ ι ο)}
    (phase : Phase step state machine log thread running)
    (holder : next.holder = some thread ↔ machine.holder = some thread)
    (shared : machine.holder = some thread → next.shared = machine.shared)
    (clock : machine.clock ≤ next.clock)
    (answers : ∀ answer ∈ next.answers, answer ∈ machine.answers ∨ answer.thread ≠ thread) :
    Phase step state next log thread running := by
  have kept := phase.keep holder (fun holds => ⟨shared holds, rfl⟩) clock (by simp) answers
  rwa [List.append_nil] at kept

variable [DecidableEq τ]

/-- After a move only its own thread is in another phase. -/
theorem phases_of_move {running : Option (Running σ ι ο)}
    (moved : next.running = (machine.move thread running).running)
    (own : Phase step state next log thread running)
    (others : ∀ other, other ≠ thread → Phase step state next log other (machine.running other))
    (other : τ) : Phase step state next log other (next.running other) := by
  rw [moved, Machine.running_move]
  split
  · rename_i isThread
    rw [isThread]
    exact own
  · rename_i isOther
    exact others other isOther

/-- A move of a thread that has no answer yet, and that adds nothing to the log, has to fit
the phases only. -/
theorem Serialised.quiet (serialised : Serialised step state machine log)
    {running : Option (Running σ ι ο)}
    (moved : next.running = (machine.move thread running).running)
    (unanswered : ∀ input called output,
      machine.running thread ≠ some ⟨input, called, .answer output⟩)
    (shared : next.holder = none → next.shared = replay step state log)
    (answers : next.answers = machine.answers) (clock : machine.clock ≤ next.clock)
    (own : Phase step state next log thread running)
    (others : ∀ other, other ≠ thread →
      Phase step state next log other (machine.running other)) :
    Serialised step state next log where
  shared := shared
  outputs := serialised.outputs
  phases := phases_of_move moved own others
  answered := by rw [answers]; exact serialised.answered
  made call member := by
    rw [answers, moved, Machine.running_move]
    rcases serialised.made call member with done | ahead
    · exact .inl done
    · rw [if_neg]
      · exact .inr ahead
      · intro isOwn
        rw [isOwn] at ahead
        exact unanswered _ _ _ ahead
  once := serialised.once
  answeredOnce := by rw [answers]; exact serialised.answeredOnce
  past call member := (serialised.past call member).trans_le clock
  order := by rw [answers]; exact serialised.order

theorem Serialised.call (serialised : Serialised step state machine log)
    (implements : Implements program step) (idle : machine.running thread = none) (input : ι) :
    Serialised step state (machine.move thread (some ⟨input, machine.clock, program input⟩))
      log := by
  refine serialised.quiet rfl (by simp [idle]) serialised.shared rfl (Nat.le_succ _) ?_ ?_
  · have phase := serialised.phases thread
    rw [idle] at phase
    obtain ⟨body, isGuarded, held, run⟩ := implements input
    rw [isGuarded]
    cases phase with
    | idle free =>
        exact .waiting free (Nat.lt_succ_self _)
          (fun call member _ => serialised.past call member) held run
  · intro other _
    exact (serialised.phases other).stay Iff.rfl (fun _ => rfl) (Nat.le_succ _)
      fun _ member => .inl member

theorem Serialised.acquire (serialised : Serialised step state machine log) {input : ι}
    {called : Nat} {rest : Program σ ο}
    (waiting : machine.running thread = some ⟨input, called, .acquire rest⟩)
    (free : machine.holder = none) :
    Serialised step state
      { machine.move thread (some ⟨input, called, rest⟩) with holder := some thread } log := by
  refine serialised.quiet rfl (by simp [waiting]) (by simp) rfl (Nat.le_succ _) ?_ ?_
  · have phase := serialised.phases thread
    rw [waiting] at phase
    cases phase with
    | waiting _ before first held run =>
        refine .working rfl (before.trans (Nat.lt_succ_self _)) first held ?_
        rw [run, ← serialised.shared free]
        rfl
    | working _ _ _ held => exact held.elim
  · intro other isOther
    exact (serialised.phases other).stay (by simp [free, Ne.symm isOther]) (by simp [free])
      (Nat.le_succ _) fun _ member => .inl member

theorem Serialised.access (serialised : Serialised step state machine log) {input : ι}
    {called : Nat} {update : σ → σ} {rest : σ → Program σ ο}
    (running : machine.running thread = some ⟨input, called, .access update rest⟩) :
    Serialised step state
      { machine.move thread (some ⟨input, called, rest machine.shared⟩) with
        shared := update machine.shared } log := by
  have holds := serialised.holder_of_access running
  refine serialised.quiet rfl (by simp [running]) ?_ rfl (Nat.le_succ _) ?_ ?_
  · intro free
    cases holds.symm.trans free
  · have phase := serialised.phases thread
    rw [running] at phase
    cases phase with
    | working _ before first held run =>
        exact .working holds (before.trans (Nat.lt_succ_self _)) first (held _) run
  · intro other isOther
    exact (serialised.phases other).stay Iff.rfl (by simp [holds, Ne.symm isOther])
      (Nat.le_succ _) fun _ member => .inl member

/-- The call whose thread gives the lock back enters the log. -/
theorem Serialised.release (serialised : Serialised step state machine log) {input : ι}
    {called : Nat} {rest : Program σ ο}
    (running : machine.running thread = some ⟨input, called, .release rest⟩) :
    ∃ output, Serialised step state
      { machine.move thread (some ⟨input, called, rest⟩) with holder := none }
      (log ++ [⟨thread, input, output, called⟩]) := by
  have phase := serialised.phases thread
  rw [running] at phase
  cases phase with
  | working holds before first held run =>
  obtain ⟨output, rfl⟩ := held
  have stepped : (machine.shared, output) = step (replay step state log) input := run
  have shared : replay step state (log ++ [⟨thread, input, output, called⟩]) =
      machine.shared := by
    rw [replay, List.map_append, Runs.final_append]
    exact (congrArg Prod.fst stepped).symm
  have fresh : (⟨thread, input, output, called⟩ : Served τ ι ο) ∉ log :=
    fun member => (first _ member rfl).false
  refine ⟨output, ?_⟩
  constructor
  case shared => exact fun _ => shared.symm
  case outputs =>
    have last : (step (Runs.final step state (log.map Served.input)) input).2 = output :=
      (congrArg Prod.snd stepped).symm
    simp [Runs.outputs_append, serialised.outputs, Runs.outputs, last]
  case phases =>
    refine phases_of_move rfl ?_ fun other isOther => ?_
    · refine .leaving (by simp) (before.trans (Nat.lt_succ_self _)) (by simp) ?_
      exact fun answer member same => fresh (same ▸ serialised.answered answer member)
    · exact (serialised.phases other).keep (by simp [holds, Ne.symm isOther])
        (by simp [holds, Ne.symm isOther]) (Nat.le_succ _) (by simpa using Ne.symm isOther)
        fun _ member => .inl member
  case answered =>
    exact fun answer member => List.mem_append_left _ (serialised.answered answer member)
  case made =>
    intro call member
    change _ ∨ (machine.move thread _).running call.thread = _
    rw [Machine.running_move]
    rcases List.mem_append.mp member with old | new
    · rcases serialised.made call old with done | ahead
      · exact .inl done
      · rw [if_neg]
        · exact .inr ahead
        · intro own
          rw [own, running] at ahead
          cases ahead
    · rw [List.mem_singleton] at new
      subst new
      exact .inr (if_pos rfl)
  case once =>
    rw [List.nodup_append]
    refine ⟨serialised.once, List.nodup_singleton _, ?_⟩
    intro call old other new same
    rw [List.mem_singleton] at new
    exact fresh (new ▸ same ▸ old)
  case answeredOnce => exact serialised.answeredOnce
  case past =>
    intro call member
    rcases List.mem_append.mp member with old | new
    · exact (serialised.past call old).trans (Nat.lt_succ_self _)
    · rw [List.mem_singleton] at new
      subst new
      exact before.trans (Nat.lt_succ_self _)
  case order =>
    intro answer answered call member later
    rcases List.mem_append.mp member with old | new
    · exact (serialised.order answer answered call old later).trans (List.sublist_append_left _ _)
    · rw [List.mem_singleton] at new
      subst new
      have served := serialised.answered answer answered
      exact (List.singleton_sublist.mpr served).append (List.Sublist.refl _)

theorem Serialised.answer (serialised : Serialised step state machine log) {input : ι}
    {called : Nat} {output : ο}
    (running : machine.running thread = some ⟨input, called, .answer output⟩) :
    Serialised step state
      { machine.move thread none with
        answers := machine.answers ++ [⟨⟨thread, input, output, called⟩, machine.clock⟩] }
      log := by
  have phase := serialised.phases thread
  rw [running] at phase
  cases phase with
  | working _ _ _ held => exact held.elim
  | leaving free before served unanswered =>
  constructor
  case shared => exact serialised.shared
  case outputs => exact serialised.outputs
  case phases =>
    refine phases_of_move rfl (.idle free)
      fun other isOther => ?_
    refine (serialised.phases other).stay Iff.rfl (fun _ => rfl) (Nat.le_succ _)
      fun answer member => ?_
    rcases List.mem_append.mp member with old | new
    · exact .inl old
    · rw [List.mem_singleton] at new
      subst new
      exact .inr (Ne.symm isOther)
  case answered =>
    intro answer member
    rcases List.mem_append.mp member with old | new
    · exact serialised.answered answer old
    · rw [List.mem_singleton] at new
      subst new
      exact served
  case made =>
    intro call member
    change _ ∨ (machine.move thread _).running call.thread = _
    rw [Machine.running_move]
    rcases serialised.made call member with ⟨answer, old, same⟩ | ahead
    · exact .inl ⟨answer, List.mem_append_left _ old, same⟩
    · by_cases own : call.thread = thread
      · rw [own, running] at ahead
        cases ahead
        exact .inl ⟨_, List.mem_append_right _ (List.mem_singleton_self _), by simp [← own]⟩
      · rw [if_neg own]
        exact .inr ahead
  case once => exact serialised.once
  case answeredOnce =>
    rw [List.map_append, List.nodup_append]
    refine ⟨serialised.answeredOnce, List.nodup_singleton _, ?_⟩
    intro call old other new
    rcases List.mem_map.mp old with ⟨answer, member, rfl⟩
    rw [List.map_singleton, List.mem_singleton] at new
    subst new
    exact unanswered answer member
  case past => exact fun call member => (serialised.past call member).trans (Nat.lt_succ_self _)
  case order =>
    intro answer member call inLog later
    rcases List.mem_append.mp member with old | new
    · exact serialised.order answer old call inLog later
    · rw [List.mem_singleton] at new
      subst new
      exact absurd (serialised.past call inLog) later.le.not_gt

/-- Every move keeps the invariant, for the log that it may prolong. -/
theorem Serialised.move (serialised : Serialised step state machine log)
    (implements : Implements program step) (move : Move program machine next) :
    ∃ log, Serialised step state next log := by
  cases move with
  | call thread input idle => exact ⟨log, serialised.call implements idle input⟩
  | acquire thread waiting free => exact ⟨log, serialised.acquire waiting free⟩
  | release thread running =>
      obtain ⟨output, kept⟩ := serialised.release running
      exact ⟨_, kept⟩
  | access thread running => exact ⟨log, serialised.access running⟩
  | answer thread running => exact ⟨log, serialised.answer running⟩

theorem Reached.serialised (implements : Implements program step)
    (reached : Reached program state machine) : ∃ log, Serialised step state machine log := by
  induction reached with
  | refl => exact ⟨[], .start step state⟩
  | tail _ move ih =>
      obtain ⟨log, serialised⟩ := ih
      exact serialised.move implements move

/-! ## Progress -/

/-- The other threads are where they were. -/
def Aside (machine next : Machine τ σ ι ο) (thread : τ) : Prop :=
  ∀ other, other ≠ thread → next.running other = machine.running other

theorem aside_move (machine : Machine τ σ ι ο) (thread : τ) (running : Option (Running σ ι ο)) :
    Aside machine (machine.move thread running) thread := by
  intro other isOther
  rw [Machine.running_move, if_neg isOther]

omit [DecidableEq τ] in
theorem Aside.trans {last : Machine τ σ ι ο} (first : Aside machine next thread)
    (second : Aside next last thread) : Aside machine last thread :=
  fun other isOther => (second other isOther).trans (first other isOther)

variable (program) in
/-- The thread that has the lock can go on alone until it has given it back. -/
theorem exists_release {rest : Program σ ο} (held : rest.Held) {input : ι} {called : Nat}
    (running : machine.running thread = some ⟨input, called, rest⟩) :
    ∃ next output, Relation.ReflTransGen (Move program) machine next ∧ next.holder = none ∧
      next.running thread = some ⟨input, called, .answer output⟩ ∧
        Aside machine next thread := by
  induction rest generalizing machine with
  | answer output => exact held.elim
  | acquire rest => exact held.elim
  | release rest =>
      obtain ⟨output, rfl⟩ := held
      refine ⟨_, output, .single (.release thread running), rfl, ?_, aside_move machine thread _⟩
      exact (Machine.running_move machine thread thread _).trans (if_pos rfl)
  | access update rest ih =>
      obtain ⟨between, moved, ahead, asideFirst⟩ : ∃ between, Move program machine between ∧
          between.running thread = some ⟨input, called, rest machine.shared⟩ ∧
            Aside machine between thread :=
        ⟨_, .access thread running,
          (Machine.running_move machine thread thread _).trans (if_pos rfl), aside_move _ _ _⟩
      obtain ⟨next, output, moves, free, answering, aside⟩ := ih machine.shared (held _) ahead
      exact ⟨next, output, .head moved moves, free, answering, asideFirst.trans aside⟩

variable (program) in
theorem exists_answer {output : ο} {input : ι} {called : Nat}
    (running : machine.running thread = some ⟨input, called, .answer output⟩) :
    ∃ next, Relation.ReflTransGen (Move program) machine next ∧
      next.running thread = none ∧ Aside machine next thread := by
  refine ⟨_, .single (.answer thread running), ?_, aside_move machine thread none⟩
  exact (Machine.running_move machine thread thread none).trans (if_pos rfl)

variable (program) in
/-- The thread that has the lock can go on alone until it is answered. -/
theorem exists_finish {rest : Program σ ο} (held : rest.Held) {input : ι} {called : Nat}
    (running : machine.running thread = some ⟨input, called, rest⟩) :
    ∃ next, Relation.ReflTransGen (Move program) machine next ∧
      next.running thread = none ∧ Aside machine next thread := by
  obtain ⟨between, output, first, _, answering, aside⟩ :=
    exists_release program held running
  obtain ⟨next, second, idle, further⟩ := exists_answer program answering
  exact ⟨next, first.trans second, idle, aside.trans further⟩

variable (program) in
/-- A thread that waits can take a lock that is free, and go on until it is answered. -/
theorem exists_turn {body : Program σ ο} (held : body.Held) {input : ι} {called : Nat}
    (waiting : machine.running thread = some ⟨input, called, .acquire body⟩)
    (free : machine.holder = none) :
    ∃ next, Relation.ReflTransGen (Move program) machine next ∧
      next.running thread = none ∧ Aside machine next thread := by
  obtain ⟨between, moved, ahead, asideFirst⟩ : ∃ between, Move program machine between ∧
      between.running thread = some ⟨input, called, body⟩ ∧ Aside machine between thread :=
    ⟨_, .acquire thread waiting free,
      (Machine.running_move machine thread thread _).trans (if_pos rfl), aside_move _ _ _⟩
  obtain ⟨next, moves, idle, aside⟩ := exists_finish program held ahead
  exact ⟨next, .head moved moves, idle, asideFirst.trans aside⟩

variable (program) in
/-- Every call can still be answered, by moves of its own thread and, before it, of the one
that has the lock: nobody waits for a lock that nobody gives back. -/
theorem Serialised.answerable (serialised : Serialised step state machine log)
    (busy : machine.running thread ≠ none) :
    ∃ next, Relation.ReflTransGen (Move program) machine next ∧ next.running thread = none ∧
      ∀ other, other ≠ thread → machine.holder ≠ some other →
        next.running other = machine.running other := by
  have phase := serialised.phases thread
  cases running : machine.running thread with
  | none => exact absurd running busy
  | some call =>
      rw [running] at phase
      cases phase with
      | working _ _ _ held =>
          obtain ⟨next, moves, idle, aside⟩ := exists_finish program held running
          exact ⟨next, moves, idle, fun other isOther _ => aside other isOther⟩
      | leaving =>
          obtain ⟨next, moves, idle, aside⟩ := exists_answer program running
          exact ⟨next, moves, idle, fun other isOther _ => aside other isOther⟩
      | waiting notHolder _ _ held =>
          cases holder : machine.holder with
          | none =>
              obtain ⟨next, moves, idle, aside⟩ :=
                exists_turn program held running holder
              exact ⟨next, moves, idle, fun other isOther _ => aside other isOther⟩
          | some first =>
              have others : thread ≠ first := by
                rintro rfl
                exact notHolder holder
              obtain ⟨_, _, _, ahead, heldFirst⟩ := serialised.working_of_holder holder
              obtain ⟨between, _, given, free, _, asideFirst⟩ :=
                exists_release program heldFirst ahead
              obtain ⟨next, moves, idle, aside⟩ := exists_turn program held
                ((asideFirst thread others).trans running) free
              refine ⟨next, given.trans moves, idle, fun other isOther notFirst => ?_⟩
              have isNotFirst : other ≠ first := by
                rintro rfl
                exact notFirst rfl
              exact (aside other isOther).trans (asideFirst other isNotFirst)

end

end Locking
