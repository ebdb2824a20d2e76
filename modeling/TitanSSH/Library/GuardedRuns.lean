import TitanSSH.Library.Interleaving

namespace Interleaving

namespace Machine

/-! Runs that take an action only under a condition.  The condition sees the
whole log, also the part of it from before the run. -/

variable {State Action Event : Type*}
variable {machine : Machine State Action Event}
variable {condition : List Event → State → Action → Prop}
variable {allowed : List Event → State → Action → Bool}

inductive RunUnder (machine : Machine State Action Event)
    (condition : List Event → State → Action → Prop) (past : List Event)
    (start : State) : List Action → List Event → State → Prop
  | refl : RunUnder machine condition past start [] [] start
  | snoc {actions : List Action} {log : List Event} {state : State}
      {action : Action} {next : State} {events : List Event}
      (initial : RunUnder machine condition past start actions log state)
      (permitted : condition (past ++ log) state action)
      (stepped : machine.step state action = some (next, events)) :
      RunUnder machine condition past start (actions ++ [action])
        (log ++ events) next

/-- The runs under a condition that can be computed. -/
abbrev RunWhere (machine : Machine State Action Event)
    (allowed : List Event → State → Action → Bool) :=
  machine.RunUnder fun past state action => allowed past state action = true

variable {past log : List Event} {start state : State} {actions : List Action}

theorem RunUnder.run
    (guarded : machine.RunUnder condition past start actions log state) :
    machine.Run start actions log state := by
  induction guarded with
  | refl => exact .refl
  | snoc _ _ stepped induction => exact .snoc induction stepped

theorem RunUnder.mono {weaker : List Event → State → Action → Prop}
    (guarded : machine.RunUnder condition past start actions log state)
    (implies : ∀ {log state action}, condition log state action →
      weaker log state action) :
    machine.RunUnder weaker past start actions log state := by
  induction guarded with
  | refl => exact .refl
  | snoc _ permitted stepped induction =>
      exact .snoc induction (implies permitted) stepped

theorem RunUnder.append {rest : List Action} {later : List Event}
    {final : State}
    (guarded : machine.RunUnder condition past start actions log state)
    (continued : machine.RunUnder condition (past ++ log) state rest later
      final) :
    machine.RunUnder condition past start (actions ++ rest) (log ++ later)
      final := by
  induction continued with
  | refl => simpa using guarded
  | snoc _ permitted stepped induction =>
      rw [← List.append_assoc, ← List.append_assoc]
      exact .snoc induction (by rwa [← List.append_assoc]) stepped

/-- What holds where the run starts and is kept by every permitted step holds
where it ends. -/
theorem RunUnder.invariant
    (guarded : machine.RunUnder condition past start actions log state)
    (holds : List Event → State → Prop) (initial : holds past start)
    (preserved : ∀ {log state action next events}, holds log state →
      condition log state action →
      machine.step state action = some (next, events) →
      holds (log ++ events) next) :
    holds (past ++ log) state := by
  induction guarded with
  | refl => simpa using initial
  | snoc _ permitted stepped induction =>
      rw [← List.append_assoc]
      exact preserved induction permitted stepped

/-- A reading of each event in terms of the log before it, along a guarded run. -/
theorem RunUnder.history {explains : List Event → Event → Prop}
    (guarded : machine.RunUnder condition past start actions log state)
    (holds : List Event → State → Prop) (initial : holds past start)
    (preserved : ∀ {log state action next events}, holds log state →
      condition log state action →
      machine.step state action = some (next, events) →
      holds (log ++ events) next)
    (emitted : ∀ {log state action next events}, holds log state →
      condition log state action →
      machine.step state action = some (next, events) →
      ∀ before event after, events = before ++ event :: after →
        explains (log ++ before) event) :
    ∀ before event after, log = before ++ event :: after →
      explains (past ++ before) event := by
  induction guarded with
  | refl =>
      intro before event after split
      simp at split
  | snoc earlier permitted stepped induction =>
      intro before event after split
      rcases split_append split with
        ⟨middle, logEq, -⟩ | ⟨middle, rfl, eventsEq⟩
      · exact induction before event middle logEq
      · rw [← List.append_assoc]
        exact emitted (earlier.invariant holds initial preserved) permitted
          stepped middle event after eventsEq

def executeWhere (machine : Machine State Action Event)
    (allowed : List Event → State → Action → Bool) :
    List Event → State → List Action → Option (State × List Event)
  | _, state, [] => some (state, [])
  | past, state, action :: rest =>
      if allowed past state action then
        match machine.step state action with
        | none => none
        | some (next, events) =>
            match executeWhere machine allowed (past ++ events) next rest with
            | none => none
            | some (final, log) => some (final, events ++ log)
      else none

theorem RunWhere.extend {rest : List Action} {later : List Event}
    {final : State}
    (guarded : machine.RunWhere allowed past start actions log state)
    (executed : machine.executeWhere allowed (past ++ log) state rest =
      some (final, later)) :
    machine.RunWhere allowed past start (actions ++ rest) (log ++ later)
      final := by
  induction rest generalizing actions log state later with
  | nil =>
      simp only [executeWhere, Option.some.injEq, Prod.mk.injEq] at executed
      obtain ⟨rfl, rfl⟩ := executed
      simpa using guarded
  | cons action rest induction =>
      cases permitted : allowed (past ++ log) state action with
      | false => simp [executeWhere, permitted] at executed
      | true =>
          cases stepped : machine.step state action with
          | none => simp [executeWhere, permitted, stepped] at executed
          | some result =>
              obtain ⟨next, events⟩ := result
              cases tail : machine.executeWhere allowed (past ++ log ++ events)
                  next rest with
              | none =>
                  simp only [executeWhere, permitted, stepped, tail, if_true,
                    reduceCtorEq] at executed
              | some outcome =>
                  obtain ⟨last, remaining⟩ := outcome
                  simp only [executeWhere, permitted, stepped, tail, if_true,
                    Option.some.injEq, Prod.mk.injEq] at executed
                  obtain ⟨rfl, rfl⟩ := executed
                  have extended := induction (guarded.snoc permitted stepped)
                    (by rw [← List.append_assoc]; exact tail)
                  simpa using extended

theorem runWhere_of_executeWhere
    (executed : machine.executeWhere allowed past start actions =
      some (state, log)) :
    machine.RunWhere allowed past start actions log state := by
  simpa using RunWhere.extend .refl (by simpa using executed)

end Machine

namespace Program

/-! Steps of threads that are taken while no other thread is in a phase that
conflicts with them. -/

variable {Shared Phase Choice Event : Type*}
variable {program : Program Shared Phase Choice Event}
variable {conflicts : Shared → Phase → Phase → Bool}

/-- What the thread does next conflicts with none of the others. -/
def Apart (conflicts : Shared → Phase → Phase → Bool) (_ : List Event)
    (config : Config Shared Phase) : ThreadAction Phase Choice → Prop
  | .spawn _ _ => True
  | .advance thread _ => ∀ own other phase,
      config.threads thread = some own → other ≠ thread →
      config.threads other = some phase →
      conflicts config.shared own phase = false

/-! What can be computed of them when all threads are among the members of a
list. -/

def spawnsIn (members : List ℕ) : ThreadAction Phase Choice → Bool
  | .spawn thread _ => decide (thread ∈ members)
  | .advance _ _ => true

def among (config : Config Shared Phase) (members : List ℕ)
    (holds : ℕ → Phase → Bool) : Bool :=
  members.all fun thread => (config.threads thread).all (holds thread)

def apartIn (members : List ℕ) (conflicts : Shared → Phase → Phase → Bool)
    (_ : List Event) (config : Config Shared Phase)
    (action : ThreadAction Phase Choice) : Bool :=
  spawnsIn members action && match action with
    | .spawn _ _ => true
    | .advance thread _ =>
        (config.threads thread).all fun own =>
          among config members fun other phase =>
            other == thread || !conflicts config.shared own phase

variable {members : List ℕ} {past log events : List Event}
variable {start config next : Config Shared Phase}
variable {action : ThreadAction Phase Choice}
variable {actions : List (ThreadAction Phase Choice)}

theorem of_among {holds : ℕ → Phase → Bool}
    (outside : ∀ thread ∉ members, config.threads thread = none)
    (inside : among config members holds = true) (thread : ℕ) (phase : Phase)
    (found : config.threads thread = some phase) : holds thread phase = true := by
  have member : thread ∈ members := by
    by_contra absent
    simp [outside thread absent] at found
  simpa [found] using List.all_eq_true.mp inside thread member

theorem outside_step
    (outside : ∀ thread ∉ members, config.threads thread = none)
    (spawns : spawnsIn members action = true)
    (stepped : program.machine.step config action = some (next, events)) :
    ∀ thread ∉ members, next.threads thread = none := by
  intro thread absent
  rcases machine_step_cases stepped with
    ⟨other, start, rfl, -, -, rfl, -⟩ |
    ⟨other, choice, current, shared, phase, rfl, running, -, rfl⟩
  · have member : other ∈ members := by
      simpa [spawnsIn] using spawns
    have different : thread ≠ other := fun same => absent (same ▸ member)
    simpa [Function.update_of_ne different] using outside thread absent
  · have different : thread ≠ other := by
      rintro rfl
      simp [outside thread absent] at running
    simpa [Function.update_of_ne different] using outside thread absent

theorem outside_run
    (run : program.machine.Run start actions log config)
    (outside : ∀ thread ∉ members, start.threads thread = none)
    (spawns : actions.all (spawnsIn members) = true) :
    ∀ thread ∉ members, config.threads thread = none := by
  induction run with
  | refl => exact outside
  | snoc earlier stepped induction =>
      rw [List.all_append, Bool.and_eq_true] at spawns
      refine outside_step (induction spawns.1) ?_ stepped
      simpa using spawns.2

theorem apart_of_apartIn
    (outside : ∀ thread ∉ members, config.threads thread = none)
    (permitted : apartIn members conflicts past config action = true) :
    Apart conflicts past config action := by
  cases action with
  | spawn thread start => trivial
  | advance thread choice =>
      intro own other phase running different found
      have inside : among config members (fun other phase =>
          other == thread || !conflicts config.shared own phase) = true := by
        simpa [apartIn, spawnsIn, running] using permitted
      simpa [different] using of_among outside inside other phase found

theorem runUnder_of_apartIn
    (run : program.machine.RunWhere (apartIn members conflicts) past start
      actions log config)
    (outside : ∀ thread ∉ members, start.threads thread = none) :
    program.machine.RunUnder (Apart conflicts) past start actions log config ∧
      ∀ thread ∉ members, config.threads thread = none := by
  induction run with
  | refl => exact ⟨.refl, outside⟩
  | snoc earlier permitted stepped induction =>
      obtain ⟨under, absent⟩ := induction
      exact ⟨.snoc under (apart_of_apartIn absent permitted) stepped,
        outside_step absent (Bool.and_eq_true_iff.mp permitted).1 stepped⟩

end Program

end Interleaving
