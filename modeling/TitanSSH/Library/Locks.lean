import Mathlib.Data.Fintype.Card
import Mathlib.Data.Set.Finite.Range
import Mathlib.Logic.Relation
import TitanSSH.Library.Interleaving

namespace Interleaving

/-! The locks of a program whose steps are critical sections.  A thread takes
the locks of its section one by one, waiting for each, and lets go of them when
the section ends, but for those that it carries into its next one. -/

/-- `carried` are the locks a thread has from its last section, `range` those
the next one can take, in order, and `needed` says how many of them it does
take, which can depend on what it finds behind the first of them. -/
structure Discipline (Shared Phase Lock : Type*) where
  carried : Phase → List Lock
  range : Phase → List Lock
  needed : Shared → Phase → ℕ

structure Locked (Shared Phase Lock : Type*) where
  config : Config Shared Phase
  owner : Lock → Option ℕ
  taken : ℕ → ℕ

inductive LockAction (Phase Choice : Type*)
  | acquire (thread : ℕ)
  | proceed (action : ThreadAction Phase Choice)

def ThreadAction.thread {Phase Choice : Type*} :
    ThreadAction Phase Choice → ℕ
  | .spawn thread _ => thread
  | .advance thread _ => thread

namespace LockAction

variable {Phase Choice : Type*}

def proceeds? : LockAction Phase Choice → Option (ThreadAction Phase Choice)
  | .acquire _ => none
  | .proceed action => some action

def thread : LockAction Phase Choice → ℕ
  | .acquire thread => thread
  | .proceed action => action.thread

end LockAction

namespace Locked

variable {Shared Phase Lock : Type*}

/-- No thread has begun and no lock is taken. -/
def unlocked (config : Config Shared Phase) : Locked Shared Phase Lock :=
  ⟨config, fun _ => none, fun _ => 0⟩

/-- The locks in the hands of a thread. -/
def hands (discipline : Discipline Shared Phase Lock)
    (state : Locked Shared Phase Lock) (thread : ℕ) (phase : Phase) :
    List Lock :=
  discipline.carried phase ++
    (discipline.range phase).take (state.taken thread)

/-- The lock that a thread has yet to take before it can go on. -/
def wants? (discipline : Discipline Shared Phase Lock)
    (state : Locked Shared Phase Lock) (thread : ℕ) : Option Lock :=
  match state.config.threads thread with
  | none => none
  | some phase =>
      if state.taken thread < discipline.needed state.config.shared phase then
        (discipline.range phase)[state.taken thread]?
      else none

end Locked

namespace Program

variable {Shared Phase Choice Event Lock : Type*} [DecidableEq Lock]
variable {program : Program Shared Phase Choice Event}
variable {discipline : Discipline Shared Phase Lock}

/-- What is left of the locks once a thread has come to a phase. -/
def release (discipline : Discipline Shared Phase Lock)
    (owner : Lock → Option ℕ) (thread : ℕ) (phase : Option Phase) :
    Lock → Option ℕ :=
  fun lock =>
    if owner lock = some thread ∧
        lock ∉ phase.elim [] discipline.carried then none
    else owner lock

def stepLocked (program : Program Shared Phase Choice Event)
    (discipline : Discipline Shared Phase Lock)
    (state : Locked Shared Phase Lock) :
    LockAction Phase Choice →
      Option (Locked Shared Phase Lock × List Event)
  | .acquire thread =>
      match state.wants? discipline thread with
      | none => none
      | some lock =>
          match state.owner lock with
          | some _ => none
          | none =>
              some (⟨state.config,
                Function.update state.owner lock (some thread),
                Function.update state.taken thread (state.taken thread + 1)⟩,
                [])
  | .proceed action =>
      match state.wants? discipline action.thread with
      | some _ => none
      | none =>
          match program.machine.step state.config action with
          | none => none
          | some (next, events) =>
              some (⟨next,
                release discipline state.owner action.thread
                  (next.threads action.thread),
                Function.update state.taken action.thread 0⟩, events)

def locked (program : Program Shared Phase Choice Event)
    (discipline : Discipline Shared Phase Lock) :
    Machine (Locked Shared Phase Lock) (LockAction Phase Choice) Event where
  step := stepLocked program discipline

/-- What a step with locks can do. -/
inductive LockMove (program : Program Shared Phase Choice Event)
    (discipline : Discipline Shared Phase Lock)
    (state : Locked Shared Phase Lock) :
    LockAction Phase Choice → Locked Shared Phase Lock → List Event → Prop
  | acquired {thread lock} (wanted : state.wants? discipline thread = some lock)
      (free : state.owner lock = none) :
      LockMove program discipline state (.acquire thread)
        ⟨state.config, Function.update state.owner lock (some thread),
          Function.update state.taken thread (state.taken thread + 1)⟩ []
  | proceeded {action next events}
      (ready : state.wants? discipline action.thread = none)
      (stepped : program.machine.step state.config action =
        some (next, events)) :
      LockMove program discipline state (.proceed action)
        ⟨next,
          release discipline state.owner action.thread
            (next.threads action.thread),
          Function.update state.taken action.thread 0⟩ events

theorem locked_cases {state next : Locked Shared Phase Lock}
    {action : LockAction Phase Choice} {events : List Event}
    (stepped : (program.locked discipline).step state action =
      some (next, events)) :
    LockMove program discipline state action next events := by
  cases action with
  | acquire thread =>
      cases wanted : state.wants? discipline thread with
      | none => simp [locked, stepLocked, wanted] at stepped
      | some lock =>
          cases free : state.owner lock with
          | some other => simp [locked, stepLocked, wanted, free] at stepped
          | none =>
              simp only [locked, stepLocked, wanted, free, Option.some.injEq,
                Prod.mk.injEq] at stepped
              obtain ⟨rfl, rfl⟩ := stepped
              exact .acquired wanted free
  | proceed action =>
      cases ready : state.wants? discipline action.thread with
      | some lock => simp [locked, stepLocked, ready] at stepped
      | none =>
          cases moved : program.machine.step state.config action with
          | none => simp [locked, stepLocked, ready, moved] at stepped
          | some result =>
              obtain ⟨config, logged⟩ := result
              simp only [locked, stepLocked, ready, moved, Option.some.injEq,
                Prod.mk.injEq] at stepped
              obtain ⟨rfl, rfl⟩ := stepped
              exact .proceeded ready moved

theorem release_eq_some {owner : Lock → Option ℕ} {thread other : ℕ}
    {phase : Option Phase} {lock : Lock} :
    release discipline owner thread phase lock = some other ↔
      owner lock = some other ∧
        (other = thread → lock ∈ phase.elim [] discipline.carried) := by
  unfold release
  split
  · next dropped =>
    simp only [reduceCtorEq, false_iff, not_and]
    intro owned kept
    exact dropped.2 (kept (Option.some.inj (owned.symm.trans dropped.1)))
  · next held =>
    refine (and_iff_left_of_imp ?_).symm
    rintro owned rfl
    by_contra missing
    exact held ⟨owned, missing⟩

theorem locked_acquire {state : Locked Shared Phase Lock} {thread : ℕ}
    {lock : Lock} (wanted : state.wants? discipline thread = some lock)
    (free : state.owner lock = none) :
    ∃ next, (program.locked discipline).step state (.acquire thread) =
      some (next, []) := by
  exact ⟨_, by simp only [locked, stepLocked, wanted, free]; rfl⟩

theorem locked_proceed {state : Locked Shared Phase Lock}
    {action : ThreadAction Phase Choice} {config : Config Shared Phase}
    {events : List Event}
    (ready : state.wants? discipline action.thread = none)
    (stepped : program.machine.step state.config action =
      some (config, events)) :
    ∃ next, (program.locked discipline).step state (.proceed action) =
      some (next, events) := by
  exact ⟨_, by simp only [locked, stepLocked, ready, stepped]; rfl⟩

theorem run_of_locked {start : Config Shared Phase}
    {state : Locked Shared Phase Lock}
    {actions : List (LockAction Phase Choice)} {log : List Event}
    (run : (program.locked discipline).Run (.unlocked start) actions log
      state) :
    program.machine.Run start (actions.filterMap LockAction.proceeds?) log
      state.config := by
  induction run with
  | refl => exact Machine.Run.refl
  | snoc initial stepped induction =>
      rw [List.filterMap_append]
      cases locked_cases stepped with
      | acquired wanted free =>
          simpa [List.filterMap_cons, LockAction.proceeds?] using induction
      | proceeded ready moved =>
          exact Machine.Run.snoc induction moved

end Program

/-! Who has which lock. -/

section Ownership

variable {Shared Phase Choice Event Lock : Type*}
variable {program : Program Shared Phase Choice Event}
variable {discipline : Discipline Shared Phase Lock}

/-- What is asked of a discipline: a thread begins with empty hands, carries on
what it has in them, takes some lock wherever it can take one, and what it
needs beyond the first is told by what this one guards. -/
structure Discipline.Fits (discipline : Discipline Shared Phase Lock)
    (program : Program Shared Phase Choice Event) : Prop where
  fresh : ∀ {start}, program.admits start = true → discipline.carried start = []
  handover : ∀ {thread choice shared phase next after events},
    program.step thread choice shared phase = some (next, after, events) →
      ∀ lock ∈ discipline.carried after,
        lock ∈ discipline.carried phase ++
          (discipline.range phase).take (discipline.needed shared phase)
  needs : ∀ shared {phase}, discipline.range phase ≠ [] →
    0 < discipline.needed shared phase
  guarded : ∀ {thread choice shared phase next after events},
    program.step thread choice shared phase = some (next, after, events) →
      ∀ {waiting lock rest}, discipline.range waiting = lock :: rest →
        lock ∉ discipline.carried phase ++
            (discipline.range phase).take (discipline.needed shared phase) →
          discipline.needed next waiting = discipline.needed shared waiting

namespace Locked

/-- A lock is taken by the one thread that has it in its hands. -/
def Owned (discipline : Discipline Shared Phase Lock)
    (state : Locked Shared Phase Lock) : Prop :=
  ∀ lock thread, state.owner lock = some thread ↔
    ∃ phase, state.config.threads thread = some phase ∧
      lock ∈ state.hands discipline thread phase

theorem owned_unlocked {config : Config Shared Phase}
    (idle : ∀ thread, config.threads thread = none) :
    (unlocked config : Locked Shared Phase Lock).Owned discipline := by
  intro lock thread
  simp [unlocked, idle]

variable {state next : Locked Shared Phase Lock} {thread holder : ℕ}
variable {phase : Phase} {lock : Lock} {events : List Event}
variable {action : LockAction Phase Choice}

theorem wants?_eq_some (wanted : state.wants? discipline thread = some lock) :
    ∃ phase, state.config.threads thread = some phase ∧
      state.taken thread < discipline.needed state.config.shared phase ∧
      (discipline.range phase)[state.taken thread]? = some lock := by
  unfold wants? at wanted
  cases running : state.config.threads thread with
  | none => simp [running] at wanted
  | some phase =>
      simp only [running] at wanted
      by_cases short : state.taken thread <
          discipline.needed state.config.shared phase
      · rw [if_pos short] at wanted
        exact ⟨phase, rfl, short, wanted⟩
      · simp [short] at wanted

theorem hands_of_ready (ready : state.wants? discipline thread = none)
    (running : state.config.threads thread = some phase)
    (member : lock ∈ discipline.carried phase ++
      (discipline.range phase).take
        (discipline.needed state.config.shared phase)) :
    lock ∈ state.hands discipline thread phase := by
  unfold hands
  rcases List.mem_append.mp member with kept | needed
  · exact List.mem_append_left _ kept
  refine List.mem_append_right _ ?_
  simp only [wants?, running] at ready
  by_cases short : state.taken thread <
      discipline.needed state.config.shared phase
  · rw [if_pos short, List.getElem?_eq_none_iff] at ready
    rw [List.take_of_length_le ready]
    exact List.mem_of_mem_take needed
  · exact List.take_subset_take_left _ (not_lt.mp short) needed

variable [DecidableEq Lock]

theorem Owned.acquired (owned : state.Owned discipline)
    (wanted : state.wants? discipline thread = some lock)
    (free : state.owner lock = none) :
    (⟨state.config, Function.update state.owner lock (some thread),
      Function.update state.taken thread (state.taken thread + 1)⟩ :
        Locked Shared Phase Lock).Owned discipline := by
  obtain ⟨phase, running, -, ahead⟩ := wants?_eq_some wanted
  have longer : ∀ other current, state.config.threads other = some current →
      ∀ taken, taken ∈ discipline.carried current ++
          (discipline.range current).take
            (Function.update state.taken thread (state.taken thread + 1)
              other) ↔
        taken ∈ state.hands discipline other current ∨
          other = thread ∧ taken = lock := by
    intro other current found taken
    rcases eq_or_ne other thread with rfl | different
    · cases running.symm.trans found
      simp only [Function.update_self, List.take_add_one, ahead, hands,
        List.mem_append, Option.toList_some, List.mem_singleton, true_and, or_assoc]
    · simp [hands, different]
  intro taken other
  show Function.update state.owner lock (some thread) taken = some other ↔
    ∃ current, state.config.threads other = some current ∧ _
  rcases eq_or_ne taken lock with rfl | different
  · rw [Function.update_self]
    constructor
    · intro same
      cases same
      exact ⟨phase, running, (longer _ _ running _).mpr (.inr ⟨rfl, rfl⟩)⟩
    · rintro ⟨current, found, member⟩
      rcases (longer _ _ found _).mp member with before | ⟨rfl, -⟩
      · cases free.symm.trans ((owned taken other).mpr ⟨current, found, before⟩)
      · rfl
  · rw [Function.update_of_ne different, owned]
    refine exists_congr fun current => and_congr_right fun found => ?_
    exact ((longer _ _ found _).trans (by simp [different])).symm

/-- A thread that comes to another phase lets go of what it does not carry
on. -/
theorem Owned.released {config : Config Shared Phase}
    (owned : state.Owned discipline)
    (others : ∀ other, other ≠ thread →
      config.threads other = state.config.threads other)
    (carries : ∀ after, config.threads thread = some after →
      ∀ lock ∈ discipline.carried after, state.owner lock = some thread) :
    (⟨config, Program.release discipline state.owner thread
        (config.threads thread), Function.update state.taken thread 0⟩ :
      Locked Shared Phase Lock).Owned discipline := by
  intro lock other
  refine Program.release_eq_some.trans ?_
  rcases eq_or_ne other thread with rfl | different
  · simp only [hands, Function.update_self, List.take_zero, List.append_nil]
    cases running : config.threads other with
    | none => simp
    | some after =>
        simpa using carries after running lock
  · simp only [different, false_implies, and_true, hands,
      Function.update_of_ne different, others other different]
    exact owned lock other

theorem Owned.step (owned : state.Owned discipline)
    (fits : discipline.Fits program)
    (stepped : (program.locked discipline).step state action =
      some (next, events)) : next.Owned discipline := by
  cases Program.locked_cases stepped with
  | acquired wanted free => exact owned.acquired wanted free
  | @proceeded action config events ready moved =>
      rcases Program.machine_step_cases moved with
        ⟨thread, start, rfl, idle, admitted, rfl, rfl⟩ |
        ⟨thread, choice, current, shared, phase, rfl, running, taken, rfl⟩
      · refine owned.released
          (fun other different => Function.update_of_ne different _ _) ?_
        intro after found lock member
        obtain rfl : start = after := by
          simpa [ThreadAction.thread] using found
        simp [fits.fresh admitted] at member
      · refine owned.released
          (fun other different => Function.update_of_ne different _ _) ?_
        intro after found lock member
        obtain rfl : phase = after := by
          simpa [ThreadAction.thread] using found
        exact (owned lock thread).mpr ⟨current, running,
          hands_of_ready ready running (fits.handover taken lock member)⟩

theorem owned_of_run {start : Config Shared Phase}
    {actions : List (LockAction Phase Choice)} {log : List Event}
    (fits : discipline.Fits program)
    (idle : ∀ thread, start.threads thread = none)
    (run : (program.locked discipline).Run (unlocked start) actions log
      state) : state.Owned discipline :=
  run.always _ (owned_unlocked idle) fun owned stepped => owned.step fits stepped

/-! Threads that wait for one another. -/

def WaitsFor (discipline : Discipline Shared Phase Lock)
    (state : Locked Shared Phase Lock) (waiter holder : ℕ) : Prop :=
  ∃ lock, state.wants? discipline waiter = some lock ∧
    state.owner lock = some holder

omit [DecidableEq Lock] in
/-- From lock to lock one comes to a thread that waits for nobody or to one that
waits for itself. -/
theorem exists_unblocked_or_knot [Finite Lock]
    (state : Locked Shared Phase Lock) (owned : state.owner lock = some holder) :
    (∃ last, Relation.ReflTransGen (state.WaitsFor discipline) holder last ∧
      (∃ lock, state.owner lock = some last) ∧
      ∀ other, ¬state.WaitsFor discipline last other) ∨
    ∃ knotted, Relation.TransGen (state.WaitsFor discipline) knotted knotted := by
  by_cases knots :
      ∃ knotted, Relation.TransGen (state.WaitsFor discipline) knotted knotted
  · exact .inr knots
  left
  let holders := {last | Relation.ReflTransGen (state.WaitsFor discipline)
    holder last ∧ ∃ lock, state.owner lock = some last}
  have finite : holders.Finite := by
    refine (Set.finite_range fun lock => (state.owner lock).getD 0).subset ?_
    rintro last ⟨-, lock, owned⟩
    exact ⟨lock, by simp [owned]⟩
  have := finite.to_subtype
  -- without knots, waiting is a strict order on the finitely many holders
  let ahead (first second : holders) : Prop :=
    Relation.TransGen (state.WaitsFor discipline) second first
  have : IsTrans holders ahead :=
    ⟨fun _ _ _ first second => Relation.TransGen.trans second first⟩
  have : Std.Irrefl ahead := ⟨fun _ knotted => knots ⟨_, knotted⟩⟩
  obtain ⟨⟨last, reached, owner⟩, furthest⟩ :
      ∃ last, ∀ other, ¬ahead other last := by
    by_contra endless
    push Not at endless
    have wellFounded := Finite.wellFounded_of_trans_of_irrefl ahead
    refine wellFounded.induction (C := fun _ => False)
      ⟨holder, .refl, lock, owned⟩ fun last induction => ?_
    obtain ⟨other, before⟩ := endless last
    exact induction other before
  refine ⟨last, reached, owner, fun other waits => ?_⟩
  have further : other ∈ holders :=
    ⟨reached.tail waits, waits.imp fun _ held => held.2⟩
  exact furthest ⟨other, further⟩ (.single waits)

theorem wants?_eq_of_guarded (owned : state.Owned discipline)
    (fits : discipline.Fits program) {mover : ℕ} {choice : Choice}
    {current after : Phase} {shared : Shared}
    (ready : state.wants? discipline mover = none)
    (running : state.config.threads mover = some current)
    (moved : program.step mover choice state.config.shared current =
      some (shared, after, events))
    (different : thread ≠ mover)
    (waiting : state.config.threads thread = some phase) :
    (if state.taken thread < discipline.needed shared phase then
      (discipline.range phase)[state.taken thread]? else none) =
    if state.taken thread < discipline.needed state.config.shared phase then
      (discipline.range phase)[state.taken thread]? else none := by
  cases ranged : discipline.range phase with
  | nil => simp
  | cons lock rest =>
      have nonempty : discipline.range phase ≠ [] := by simp [ranged]
      by_cases has : lock ∈ discipline.carried current ++
          (discipline.range current).take
            (discipline.needed state.config.shared current)
      · have theirs : state.owner lock = some mover :=
          (owned lock mover).mpr
            ⟨current, running, hands_of_ready ready running has⟩
        have none_taken : state.taken thread = 0 := by
          by_contra some_taken
          obtain ⟨count, counted⟩ := Nat.exists_eq_succ_of_ne_zero some_taken
          have ours : state.owner lock = some thread := by
            refine (owned lock thread).mpr ⟨phase, waiting, ?_⟩
            simp [hands, ranged, counted]
          exact different (Option.some.inj (ours.symm.trans theirs))
        simp [none_taken, fits.needs _ nonempty]
      · rw [fits.guarded moved ranged has]

theorem wants?_step (owned : state.Owned discipline)
    (fits : discipline.Fits program)
    (stepped : (program.locked discipline).step state action =
      some (next, events)) (other : thread ≠ action.thread) :
    next.wants? discipline thread = state.wants? discipline thread ∧
      next.config.threads thread = state.config.threads thread := by
  cases Program.locked_cases stepped with
  | @acquired acquirer lock wanted free =>
      have different : thread ≠ acquirer := other
      simp [wants?, Function.update_of_ne different]
  | @proceeded action config events ready moved =>
      rcases Program.machine_step_cases moved with
        ⟨mover, start, rfl, idle, admitted, rfl, rfl⟩ |
        ⟨mover, choice, current, shared, phase, rfl, running, taken, rfl⟩
      · have different : thread ≠ mover := other
        simp [wants?, ThreadAction.thread, Function.update_of_ne different]
      · have different : thread ≠ mover := other
        simp only [wants?, ThreadAction.thread,
          Function.update_of_ne different, and_true]
        cases waiting : state.config.threads thread with
        | none => rfl
        | some phase =>
            exact wants?_eq_of_guarded owned fits ready running taken different
              waiting

/-- Each of the threads waits for one of them. -/
def Knotted (discipline : Discipline Shared Phase Lock)
    (state : Locked Shared Phase Lock) (knot : Set ℕ) : Prop :=
  ∀ thread ∈ knot, ∃ holder ∈ knot, state.WaitsFor discipline thread holder

theorem WaitsFor.not_moving
    (waits : state.WaitsFor discipline thread holder)
    (stepped : (program.locked discipline).step state action =
      some (next, events)) : thread ≠ action.thread := by
  obtain ⟨lock, wants, owned⟩ := waits
  rintro rfl
  cases Program.locked_cases stepped with
  | acquired wanted free =>
      cases wants.symm.trans wanted
      cases owned.symm.trans free
  | proceeded ready moved => cases wants.symm.trans ready

theorem owner_of_not_moving (still : thread ≠ action.thread)
    (held : state.owner lock = some thread)
    (stepped : (program.locked discipline).step state action =
      some (next, events)) : next.owner lock = some thread := by
  cases Program.locked_cases stepped with
  | @acquired acquirer other wanted free =>
      show Function.update state.owner other (some acquirer) lock = some thread
      rw [Function.update_of_ne]
      · exact held
      · rintro rfl
        cases held.symm.trans free
  | proceeded ready moved =>
      exact Program.release_eq_some.mpr ⟨held, fun same => (still same).elim⟩

theorem Knotted.step {knot : Set ℕ} (knotted : state.Knotted discipline knot)
    (owned : state.Owned discipline) (fits : discipline.Fits program)
    (stepped : (program.locked discipline).step state action =
      some (next, events)) :
    next.Knotted discipline knot ∧
      ∀ thread ∈ knot,
        next.config.threads thread = state.config.threads thread := by
  have still : ∀ thread ∈ knot, thread ≠ action.thread := by
    intro thread member
    obtain ⟨holder, -, waits⟩ := knotted thread member
    exact waits.not_moving stepped
  refine ⟨fun thread member => ?_, fun thread member =>
    (wants?_step owned fits stepped (still thread member)).2⟩
  obtain ⟨holder, inside, lock, wanted, held⟩ := knotted thread member
  refine ⟨holder, inside, lock, ?_, ?_⟩
  · exact (wants?_step owned fits stepped (still thread member)).1.trans wanted
  · exact owner_of_not_moving (still holder inside) held stepped

end Locked

end Ownership

end Interleaving
