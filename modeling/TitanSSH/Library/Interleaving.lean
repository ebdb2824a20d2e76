import Mathlib.Data.List.Basic
import Mathlib.Data.Set.Finite.Basic
import Mathlib.Logic.Function.Basic

namespace Interleaving

/-! Machines that log events, and the runs that a list of actions drives them
through.  A run keeps its whole log, so a property of the past is a property of
the log. -/

theorem split_append {Event : Type*} {log events before after : List Event}
    {event : Event} (split : log ++ events = before ++ event :: after) :
    (∃ middle, log = before ++ event :: middle ∧ after = middle ++ events) ∨
    ∃ middle, before = log ++ middle ∧ events = middle ++ event :: after := by
  rcases List.append_eq_append_iff.mp split with
    ⟨middle, beforeEq, eventsEq⟩ | ⟨middle, logEq, tailEq⟩
  · exact .inr ⟨middle, beforeEq, eventsEq⟩
  · cases middle with
    | nil =>
        exact .inr ⟨[], by simpa using logEq.symm, by simpa using tailEq.symm⟩
    | cons head rest =>
        obtain ⟨rfl, rfl⟩ := List.cons.inj tailEq
        exact .inl ⟨rest, logEq, rfl⟩

structure Machine (State Action Event : Type*) where
  step : State → Action → Option (State × List Event)

namespace Machine

variable {State Action Event : Type*}
variable {machine : Machine State Action Event}

inductive Run (machine : Machine State Action Event) (start : State) :
    List Action → List Event → State → Prop
  | refl : Run machine start [] [] start
  | snoc {actions : List Action} {log : List Event} {state : State}
      {action : Action} {next : State} {events : List Event}
      (initial : Run machine start actions log state)
      (stepped : machine.step state action = some (next, events)) :
      Run machine start (actions ++ [action]) (log ++ events) next

theorem Run.single {state next : State} {action : Action}
    {events : List Event}
    (stepped : machine.step state action = some (next, events)) :
    machine.Run state [action] events next := by
  simpa using Run.snoc Run.refl stepped

theorem Run.trans {start middle final : State}
    {first second : List Action} {early late : List Event}
    (initial : machine.Run start first early middle)
    (remaining : machine.Run middle second late final) :
    machine.Run start (first ++ second) (early ++ late) final := by
  induction remaining with
  | refl => simpa using initial
  | snoc _ stepped induction =>
      rw [← List.append_assoc, ← List.append_assoc]
      exact Run.snoc induction stepped

theorem Run.step_of_mem {start final : State} {actions : List Action}
    {log : List Event} (run : machine.Run start actions log final)
    {action : Action} (member : action ∈ actions) :
    ∃ early past before events next, early ++ [action] <+: actions ∧
      machine.Run start early past before ∧
      machine.step before action = some (next, events) := by
  induction run with
  | refl => cases member
  | snoc initial stepped induction =>
      cases List.mem_append.mp member with
      | inl before =>
          obtain ⟨early, past, middle, events, next, ahead, run, taken⟩ :=
            induction before
          exact ⟨early, past, middle, events, next,
            ahead.trans (List.prefix_append _ _), run, taken⟩
      | inr now =>
          obtain rfl := List.mem_singleton.mp now
          exact ⟨_, _, _, _, _, List.prefix_refl _, initial, stepped⟩

theorem Run.invariant {start : State} {holds : List Event → State → Prop}
    (initial : holds [] start)
    (preserved : ∀ log state action next events, holds log state →
      machine.step state action = some (next, events) →
      holds (log ++ events) next)
    {actions : List Action} {log : List Event} {state : State}
    (run : machine.Run start actions log state) : holds log state := by
  induction run with
  | refl => exact initial
  | snoc _ stepped induction => exact preserved _ _ _ _ _ induction stepped

theorem Run.always {start state : State} {actions : List Action}
    {log : List Event} (run : machine.Run start actions log state)
    (holds : State → Prop) (initial : holds start)
    (preserved : ∀ {state action next events}, holds state →
      machine.step state action = some (next, events) → holds next) :
    holds state := by
  induction run with
  | refl => exact initial
  | snoc _ stepped induction => exact preserved induction stepped

/-- A reading of each event in terms of the log before it: it is enough that
every step explains the events it logs. -/
theorem Run.history {start : State} {holds : List Event → State → Prop}
    {explains : List Event → Event → Prop}
    (initial : holds [] start)
    (preserved : ∀ log state action next events, holds log state →
      machine.step state action = some (next, events) →
      holds (log ++ events) next)
    (emitted : ∀ log state action next events, holds log state →
      machine.step state action = some (next, events) →
      ∀ before event after, events = before ++ event :: after →
        explains (log ++ before) event)
    {actions : List Action} {log : List Event} {state : State}
    (run : machine.Run start actions log state) :
    ∀ before event after, log = before ++ event :: after →
      explains before event := by
  induction run with
  | refl =>
      intro before event after split
      simp at split
  | snoc initialRun stepped induction =>
      intro before event after split
      rcases split_append split with
        ⟨middle, logEq, -⟩ | ⟨middle, beforeEq, eventsEq⟩
      · exact induction before event middle logEq
      · subst beforeEq
        exact emitted _ _ _ _ _
          (initialRun.invariant initial preserved) stepped _ _ _ eventsEq

/-- The state and the log that a schedule leads to, when every action of it can
be taken. -/
def execute (machine : Machine State Action Event) :
    State → List Action → Option (State × List Event)
  | state, [] => some (state, [])
  | state, action :: rest =>
      match machine.step state action with
      | none => none
      | some (next, events) =>
          match execute machine next rest with
          | none => none
          | some (final, log) => some (final, events ++ log)

theorem run_of_execute {actions : List Action} {state final : State}
    {log : List Event}
    (executed : machine.execute state actions = some (final, log)) :
    machine.Run state actions log final := by
  induction actions generalizing state log with
  | nil =>
      simp only [execute, Option.some.injEq, Prod.mk.injEq] at executed
      obtain ⟨rfl, rfl⟩ := executed
      exact Run.refl
  | cons action rest induction =>
      cases stepped : machine.step state action with
      | none => simp [execute, stepped] at executed
      | some result =>
          obtain ⟨next, events⟩ := result
          cases tail : execute machine next rest with
          | none => simp [execute, stepped, tail] at executed
          | some outcome =>
              obtain ⟨last, later⟩ := outcome
              simp only [execute, stepped, tail, Option.some.injEq,
                Prod.mk.injEq] at executed
              obtain ⟨rfl, rfl⟩ := executed
              exact (Run.single stepped).trans (induction tail)

end Machine

section Update

variable {Value : Type*}

theorem of_update_eq_some {held : ℕ → Option Value} {thread other : ℕ}
    {value : Option Value} {key : Value}
    (holds : Function.update held thread value other = some key) :
    (other = thread ∧ value = some key) ∨
      (other ≠ thread ∧ held other = some key) := by
  rcases eq_or_ne other thread with rfl | different
  · exact .inl ⟨rfl, by simpa using holds⟩
  · exact .inr ⟨different, by simpa [different] using holds⟩

theorem everywhere_update {held : ℕ → Option Value} {thread : ℕ} {after : Value}
    {holds : ℕ → Value → Prop} (own : holds thread after)
    (others : ∀ other current, other ≠ thread → held other = some current →
      holds other current) :
    ∀ other current,
      Function.update held thread (some after) other = some current →
        holds other current := by
  intro other current found
  rcases of_update_eq_some found with ⟨rfl, same⟩ | ⟨different, before⟩
  · exact Option.some.inj same ▸ own
  · exact others other current different before

end Update

/-! Threads over one shared state.  Each thread is in a phase of its own, a step
advances one of them, and the choice stands for whatever the thread cannot
determine itself. -/

structure Program (Shared Phase Choice Event : Type*) where
  admits : Phase → Bool
  opened : ℕ → Phase → List Event
  step : ℕ → Choice → Shared → Phase → Option (Shared × Phase × List Event)

structure Config (Shared Phase : Type*) where
  shared : Shared
  threads : ℕ → Option Phase

inductive ThreadAction (Phase Choice : Type*)
  | spawn (thread : ℕ) (start : Phase)
  | advance (thread : ℕ) (choice : Choice)

namespace Program

variable {Shared Phase Choice Event : Type*}
variable {program : Program Shared Phase Choice Event}

def machine (program : Program Shared Phase Choice Event) :
    Machine (Config Shared Phase) (ThreadAction Phase Choice) Event where
  step config
    | .spawn thread start =>
        match config.threads thread with
        | some _ => none
        | none =>
            if program.admits start then
              some (⟨config.shared,
                Function.update config.threads thread (some start)⟩,
                program.opened thread start)
            else none
    | .advance thread choice =>
        match config.threads thread with
        | none => none
        | some current =>
            match program.step thread choice config.shared current with
            | none => none
            | some (shared, next, events) =>
                some (⟨shared,
                  Function.update config.threads thread (some next)⟩, events)

/-- Everything one action can do. -/
theorem machine_step_cases {config next : Config Shared Phase}
    {action : ThreadAction Phase Choice} {events : List Event}
    (stepped : program.machine.step config action = some (next, events)) :
    (∃ thread start, action = .spawn thread start ∧
      config.threads thread = none ∧ program.admits start = true ∧
      next = ⟨config.shared,
        Function.update config.threads thread (some start)⟩ ∧
      events = program.opened thread start) ∨
    (∃ thread choice current shared phase,
      action = .advance thread choice ∧
      config.threads thread = some current ∧
      program.step thread choice config.shared current =
        some (shared, phase, events) ∧
      next = ⟨shared,
        Function.update config.threads thread (some phase)⟩) := by
  cases action with
  | spawn thread start =>
      left
      cases free : config.threads thread with
      | some phase => simp [machine, free] at stepped
      | none =>
          cases admitted : program.admits start with
          | false => simp [machine, free, admitted] at stepped
          | true =>
              simp only [machine, free, admitted, if_true, Option.some.injEq,
                Prod.mk.injEq] at stepped
              exact ⟨thread, start, rfl, free, admitted, stepped.1.symm,
                stepped.2.symm⟩
  | advance thread choice =>
      right
      cases running : config.threads thread with
      | none => simp [machine, running] at stepped
      | some current =>
          cases moved :
              program.step thread choice config.shared current with
          | none => simp [machine, running, moved] at stepped
          | some result =>
              obtain ⟨shared, phase, logged⟩ := result
              simp only [machine, running, moved, Option.some.injEq,
                Prod.mk.injEq] at stepped
              obtain ⟨rfl, rfl⟩ := stepped
              exact ⟨thread, choice, current, shared, phase, rfl, running,
                moved, rfl⟩

theorem machine_advance {config : Config Shared Phase} {thread : ℕ}
    {choice : Choice} {current phase : Phase} {shared : Shared}
    {events : List Event} (running : config.threads thread = some current)
    (moved : program.step thread choice config.shared current =
      some (shared, phase, events)) :
    program.machine.step config (.advance thread choice) =
      some (⟨shared, Function.update config.threads thread (some phase)⟩,
        events) := by
  simp [machine, running, moved]

theorem spawned_finite {config next : Config Shared Phase}
    {action : ThreadAction Phase Choice} {events : List Event}
    (finite : {thread | config.threads thread ≠ none}.Finite)
    (stepped : program.machine.step config action = some (next, events)) :
    {thread | next.threads thread ≠ none}.Finite := by
  rcases machine_step_cases stepped with
    ⟨thread, start, -, -, -, rfl, -⟩ |
    ⟨thread, choice, current, shared, phase, -, -, -, rfl⟩ <;>
  · refine (finite.insert thread).subset fun other member => ?_
    rcases eq_or_ne other thread with rfl | different
    · exact Set.mem_insert _ _
    · refine Set.mem_insert_of_mem _ ?_
      simpa [Function.update_of_ne different] using member

/-- A proof outline: an assertion about the shared state and one about each
thread, such that a step establishes both for the thread that takes it and
does not interfere with the assertion of any other. -/
structure Outline (program : Program Shared Phase Choice Event) where
  shared : List Event → Shared → Prop
  phase : List Event → Shared → ℕ → Phase → Prop
  opening : ∀ {log state} (thread) {start}, shared log state →
    program.admits start = true →
    shared (log ++ program.opened thread start) state ∧
    phase (log ++ program.opened thread start) state thread start ∧
    ∀ other current, other ≠ thread → phase log state other current →
      phase (log ++ program.opened thread start) state other current
  stepping : ∀ {log state thread choice current next after events},
    shared log state → phase log state thread current →
    program.step thread choice state current = some (next, after, events) →
    shared (log ++ events) next ∧
    phase (log ++ events) next thread after ∧
    ∀ other waiting, other ≠ thread → phase log state other waiting →
      phase (log ++ events) next other waiting

namespace Outline

def Holds (outline : program.Outline) (log : List Event)
    (config : Config Shared Phase) : Prop :=
  outline.shared log config.shared ∧
    ∀ thread current, config.threads thread = some current →
      outline.phase log config.shared thread current

theorem preserved (outline : program.Outline) (log : List Event)
    (config : Config Shared Phase) (action : ThreadAction Phase Choice)
    (next : Config Shared Phase) (events : List Event)
    (holds : outline.Holds log config)
    (stepped : program.machine.step config action = some (next, events)) :
    outline.Holds (log ++ events) next := by
  obtain ⟨sharedHolds, phasesHold⟩ := holds
  rcases machine_step_cases stepped with
    ⟨thread, start, -, -, admitted, rfl, rfl⟩ |
    ⟨thread, choice, current, shared, phase, -, running, moved, rfl⟩
  · obtain ⟨sharedAfter, own, others⟩ :=
      outline.opening thread sharedHolds admitted
    refine ⟨sharedAfter, everywhere_update own ?_⟩
    intro other phase different found
    exact others other phase different (phasesHold other phase found)
  · obtain ⟨sharedAfter, own, others⟩ :=
      outline.stepping sharedHolds (phasesHold thread current running) moved
    refine ⟨sharedAfter, everywhere_update own ?_⟩
    intro other waiting different found
    exact others other waiting different (phasesHold other waiting found)

theorem holds (outline : program.Outline) {start config : Config Shared Phase}
    {actions : List (ThreadAction Phase Choice)} {log : List Event}
    (initial : outline.Holds [] start)
    (run : program.machine.Run start actions log config) :
    outline.Holds log config :=
  run.invariant initial outline.preserved

theorem history (outline : program.Outline)
    {explains : List Event → Event → Prop}
    (opened : ∀ log state thread start, outline.shared log state →
      ∀ before event after,
        program.opened thread start = before ++ event :: after →
          explains (log ++ before) event)
    (emitted : ∀ log state thread choice current next phase events,
      outline.shared log state → outline.phase log state thread current →
      program.step thread choice state current = some (next, phase, events) →
      ∀ before event after, events = before ++ event :: after →
        explains (log ++ before) event)
    {start config : Config Shared Phase}
    {actions : List (ThreadAction Phase Choice)} {log : List Event}
    (initial : outline.Holds [] start)
    (run : program.machine.Run start actions log config) :
    ∀ before event after, log = before ++ event :: after →
      explains before event := by
  refine Machine.Run.history initial outline.preserved ?_ run
  intro log config action next events holds stepped
  rcases machine_step_cases stepped with
    ⟨thread, start, -, -, -, -, rfl⟩ |
    ⟨thread, choice, current, shared, phase, -, running, moved, -⟩
  · exact opened log config.shared thread start holds.1
  · exact emitted log config.shared thread choice current shared phase events
      holds.1 (holds.2 thread current running) moved

end Outline

end Program

/-! What the threads hold, each at most one thing. -/

section Holdings

variable {Shared Phase Key : Type*}

def Config.holdings (config : Config Shared Phase)
    (holds : Phase → Option Key) : ℕ → Option Key :=
  fun thread => (config.threads thread).bind holds

theorem Config.holdings_of_running {config : Config Shared Phase} {thread : ℕ}
    {phase : Phase} (running : config.threads thread = some phase)
    (holds : Phase → Option Key) :
    config.holdings holds thread = holds phase := by
  simp [Config.holdings, running]

theorem Config.holdings_update (threads : ℕ → Option Phase)
    (before after : Shared) (holds : Phase → Option Key) (thread : ℕ)
    (phase : Phase) :
    (⟨after, Function.update threads thread (some phase)⟩ :
      Config Shared Phase).holdings holds =
      Function.update ((⟨before, threads⟩ : Config Shared Phase).holdings holds)
        thread (holds phase) := by
  funext other
  rcases eq_or_ne other thread with rfl | different
  · simp [Config.holdings]
  · simp [Config.holdings, Function.update_of_ne different]

theorem Config.holdings_advance (config : Config Shared Phase)
    (shared : Shared) (holds : Phase → Option Key) (thread : ℕ)
    (after : Phase) :
    (⟨shared, Function.update config.threads thread (some after)⟩ :
      Config Shared Phase).holdings holds =
      Function.update (config.holdings holds) thread (holds after) :=
  Config.holdings_update config.threads config.shared shared holds thread after

theorem Config.holdings_unchanged {config : Config Shared Phase}
    {holds : Phase → Option Key} {thread : ℕ} {phase : Phase} (shared : Shared)
    (same : holds phase = config.holdings holds thread) :
    (⟨shared, Function.update config.threads thread (some phase)⟩ :
      Config Shared Phase).holdings holds = config.holdings holds := by
  rw [Config.holdings_update _ config.shared, same]
  exact Function.update_eq_self _ _

/-- No two threads hold the same thing. -/
def Exclusive (held : ℕ → Option Key) : Prop :=
  ∀ first second key, held first = some key → held second = some key →
    first = second

theorem Exclusive.release {held : ℕ → Option Key}
    (exclusive : Exclusive held) (thread : ℕ) :
    Exclusive (Function.update held thread none) := by
  intro first second key firstHolds secondHolds
  rcases of_update_eq_some firstHolds with ⟨-, nothing⟩ | ⟨-, firstHolds⟩
  · cases nothing
  rcases of_update_eq_some secondHolds with ⟨-, nothing⟩ | ⟨-, secondHolds⟩
  · cases nothing
  exact exclusive first second key firstHolds secondHolds

theorem Exclusive.claim {held : ℕ → Option Key} {key : Key}
    (exclusive : Exclusive held) (free : ∀ other, held other ≠ some key)
    (thread : ℕ) : Exclusive (Function.update held thread (some key)) := by
  intro first second other firstHolds secondHolds
  rcases of_update_eq_some firstHolds with
      ⟨firstSame, firstKey⟩ | ⟨-, firstHolds⟩ <;>
    rcases of_update_eq_some secondHolds with
      ⟨secondSame, secondKey⟩ | ⟨-, secondHolds⟩
  · exact firstSame.trans secondSame.symm
  · exact absurd (secondHolds.trans firstKey.symm) (free second)
  · exact absurd (firstHolds.trans secondKey.symm) (free first)
  · exact exclusive first second other firstHolds secondHolds

theorem held_after_claim {held : ℕ → Option Key} {thread : ℕ}
    (idle : held thread = none) (key wanted : Key) :
    (∃ other, Function.update held thread (some key) other = some wanted) ↔
      wanted = key ∨ ∃ other, held other = some wanted := by
  constructor
  · rintro ⟨other, holds⟩
    rcases of_update_eq_some holds with ⟨-, same⟩ | ⟨-, holds⟩
    · exact .inl (Option.some.inj same).symm
    · exact .inr ⟨other, holds⟩
  · rintro (rfl | ⟨other, holds⟩)
    · exact ⟨thread, Function.update_self _ _ _⟩
    · refine ⟨other, ?_⟩
      rw [Function.update_of_ne]
      · exact holds
      · rintro rfl
        simp [idle] at holds

theorem Exclusive.held_after_release {held : ℕ → Option Key} {thread : ℕ}
    {key : Key} (exclusive : Exclusive held) (owned : held thread = some key)
    (wanted : Key) :
    (∃ other, Function.update held thread none other = some wanted) ↔
      wanted ≠ key ∧ ∃ other, held other = some wanted := by
  constructor
  · rintro ⟨other, holds⟩
    rcases of_update_eq_some holds with ⟨-, nothing⟩ | ⟨different, holds⟩
    · cases nothing
    · refine ⟨?_, other, holds⟩
      rintro rfl
      exact different (exclusive other thread wanted holds owned)
  · rintro ⟨different, other, holds⟩
    refine ⟨other, ?_⟩
    rw [Function.update_of_ne]
    · exact holds
    · rintro rfl
      exact different (Option.some.inj (holds.symm.trans owned))

end Holdings

end Interleaving
