import TitanSSH.Core.Terminal.ConnectWait

namespace TitanSSH

open Interleaving

namespace ConnectWait

/-! When the wait for a connection may run out. -/

/-- The phase last reported, and since when the thread that connects has been out
of verification: from the start, or from when it last left it. -/
def track : ConnectionPhase × ℕ → WaitEvent → ConnectionPhase × ℕ
  | (phase, since), .reported next time =>
      (next, if phase = .verifyingHostKey ∧ next ≠ .verifyingHostKey then time
        else since)
  | course, _ => course

def course (log : List WaitEvent) : ConnectionPhase × ℕ :=
  log.foldl track (.connectingTcp, 0)

def phaseAfter (log : List WaitEvent) : ConnectionPhase :=
  (course log).1

def outsideSince (log : List WaitEvent) : ℕ :=
  (course log).2

/-- The connection is not being verified, and has had its whole budget since the
start or since the end of its verification. -/
def Exhausted (connectTimeout : ℕ) (log : List WaitEvent) (time : ℕ) : Prop :=
  phaseAfter log ≠ .verifyingHostKey ∧ outsideSince log + connectTimeout ≤ time

def sawVerification (log : List WaitEvent) : Bool :=
  log.contains (.sampled .verifyingHostKey)

/-- No result is sent between the end of a poll and the look at the deadline;
when the timeout is published, the connection has not begun to be verified since
the phase was sampled, and a verification that is over has been seen. -/
def timely (past : List WaitEvent) (wait : ConnectWait) : WaitAction → Bool
  | .send _ =>
      match wait.turn with
      | .judging activePhase | .deciding activePhase =>
          activePhase == .verifyingHostKey
      | _ => true
  | .work =>
      match wait.turn with
      | .expired activePhase =>
          (wait.currentPhase == .verifyingHostKey) ==
            (activePhase == .verifyingHostKey) &&
          (decide (wait.currentPhase.rank ≤
            ConnectionPhase.verifyingHostKey.rank) || sawVerification past)
      | _ => true
  | _ => true

variable {wait next : ConnectWait} {log events : List WaitEvent}

theorem course_append (log events : List WaitEvent) :
    course (log ++ events) = events.foldl track (course log) :=
  List.foldl_append

/-- A connection that is past its verification stays so. -/
def Verified (wait : ConnectWait) : Prop :=
  ConnectionPhase.verifyingHostKey.rank < wait.currentPhase.rank

/-- The budget that a verification has used up has been granted anew. -/
def Granted (log : List WaitEvent) (wait : ConnectWait) : Prop :=
  Verified wait ∧ outsideSince log + wait.connectTimeout ≤ wait.overallDeadline

/-- What the worker knows of the verification in each of its turns. -/
def Aware (log : List WaitEvent) (wait : ConnectWait) : WaitTurn → Prop
  | .starting => wait.verifyWaitStart = none ∧
      .sampled .verifyingHostKey ∉ log
  | .sampling => .sampled .verifyingHostKey ∈ log →
      wait.verifyWaitStart ≠ none ∨ Granted log wait
  | .receiving activePhase _ | .judging activePhase =>
      .sampled activePhase ∈ log ∧
      (.sampled .verifyingHostKey ∈ log →
        ConnectionPhase.verifyingHostKey.rank ≤ activePhase.rank ∧
        (activePhase = .verifyingHostKey ∨ wait.verifyWaitStart ≠ none ∨
          Granted log wait))
  | .deciding activePhase =>
      (activePhase ≠ .verifyingHostKey → wait.verifyWaitStart = none) ∧
      (.sampled .verifyingHostKey ∈ log →
        wait.verifyWaitStart ≠ none ∨ Granted log wait)
  | .expired activePhase =>
      activePhase ≠ .verifyingHostKey ∧ wait.overallDeadline ≤ wait.clock ∧
      (.sampled .verifyingHostKey ∈ log → Granted log wait)
  | .connected | .ended _ => True

/-- What holds of the wait in every run. -/
structure Timed (connectTimeout : ℕ) (log : List WaitEvent)
    (wait : ConnectWait) : Prop where
  budget : wait.connectTimeout = connectTimeout
  phase : phaseAfter log = wait.currentPhase
  past : outsideSince log ≤ wait.clock
  unverified : ¬Verified wait → outsideSince log = 0
  deadline : wait.turn ≠ .starting → connectTimeout ≤ wait.overallDeadline
  seen : wait.verifyWaitStart ≠ none → .sampled .verifyingHostKey ∈ log
  onward : ∀ phase, .sampled phase ∈ log →
    phase.rank ≤ wait.currentPhase.rank
  aware : Aware log wait wait.turn
  sending : ∀ failure, .sent failure ∈ log → wait.thread.hasSent = true

variable {connectTimeout : ℕ}

theorem timed_start : Timed connectTimeout [] (start connectTimeout) where
  budget := rfl
  phase := rfl
  past := Nat.le_refl _
  unverified _ := rfl
  deadline started := absurd rfl started
  seen frozen := absurd rfl frozen
  onward phase member := by cases member
  aware := ⟨rfl, List.not_mem_nil⟩
  sending failure member := by cases member

theorem not_verified_iff :
    ¬Verified wait ↔
      wait.currentPhase.rank ≤ ConnectionPhase.verifyingHostKey.rank :=
  Nat.not_lt

theorem verified_of_rank {activePhase : ConnectionPhase}
    (elsewhere : activePhase ≠ .verifyingHostKey)
    (onward : ConnectionPhase.verifyingHostKey.rank ≤ activePhase.rank)
    (reached : activePhase.rank ≤ wait.currentPhase.rank) : Verified wait := by
  have different := mt ConnectionPhase.eq_verifyingHostKey.mpr elsewhere
  unfold Verified
  omega

/-- A connection past its verification has left it, and reports nothing of it any
more. -/
theorem course_reported {phase : ConnectionPhase} (same : phaseAfter log =
    wait.currentPhase) (time : ℕ) :
    phaseAfter (log ++ [.reported phase time]) = phase ∧
      (outsideSince (log ++ [.reported phase time]) = outsideSince log ∨
        outsideSince (log ++ [.reported phase time]) = time ∧
          wait.currentPhase = .verifyingHostKey ∧
            phase ≠ .verifyingHostKey) := by
  unfold phaseAfter outsideSince
  rw [course_append]
  refine ⟨rfl, ?_⟩
  by_cases left : (course log).1 = .verifyingHostKey ∧
      phase ≠ .verifyingHostKey
  · exact .inr ⟨if_pos left, same.symm.trans left.1, left.2⟩
  · exact .inl (if_neg left)

theorem Aware.mono {turn : WaitTurn} (aware : Aware log wait turn)
    (sameStart : next.verifyWaitStart = wait.verifyWaitStart)
    (sameDeadline : next.overallDeadline = wait.overallDeadline)
    (sampled : ∀ phase,
      .sampled phase ∈ log ++ events ↔ .sampled phase ∈ log)
    (later : wait.clock ≤ next.clock)
    (granted : Granted log wait → Granted (log ++ events) next) :
    Aware (log ++ events) next turn := by
  cases turn with
  | starting =>
      simp only [Aware, sameStart, sampled]
      exact aware
  | sampling =>
      simp only [Aware, sameStart, sampled]
      exact fun saw => (aware saw).imp_right granted
  | receiving activePhase since =>
      simp only [Aware, sameStart, sampled]
      obtain ⟨member, known⟩ := aware
      refine ⟨member, fun saw => ?_⟩
      exact (known saw).imp_right (.imp_right (.imp_right granted))
  | judging activePhase =>
      simp only [Aware, sameStart, sampled]
      obtain ⟨member, known⟩ := aware
      refine ⟨member, fun saw => ?_⟩
      exact (known saw).imp_right (.imp_right (.imp_right granted))
  | deciding activePhase =>
      simp only [Aware, sameStart, sampled]
      exact ⟨aware.1, fun saw => (aware.2 saw).imp_right granted⟩
  | expired activePhase =>
      simp only [Aware, sameDeadline, sampled]
      exact ⟨aware.1, aware.2.1.trans later, fun saw => granted (aware.2.2 saw)⟩
  | connected => trivial
  | ended status => trivial

theorem Timed.work (timed : Timed connectTimeout log wait)
    (unmoved : next = { next with
      clock := wait.clock
      connectTimeout := wait.connectTimeout
      currentPhase := wait.currentPhase
      thread := wait.thread })
    (quiet : course (log ++ events) = course log)
    (unsent : ∀ failure, .sent failure ∉ events)
    (deadline : next.turn ≠ .starting → connectTimeout ≤ next.overallDeadline)
    (seen : next.verifyWaitStart ≠ none →
      .sampled .verifyingHostKey ∈ log ++ events)
    (onward : ∀ phase, .sampled phase ∈ events →
      phase.rank ≤ wait.currentPhase.rank)
    (aware : Aware (log ++ events) next next.turn) :
    Timed connectTimeout (log ++ events) next := by
  have phase : phaseAfter (log ++ events) = phaseAfter log :=
    congrArg Prod.fst quiet
  have since : outsideSince (log ++ events) = outsideSince log :=
    congrArg Prod.snd quiet
  rw [unmoved] at deadline seen aware ⊢
  refine ⟨timed.budget, phase.trans timed.phase, since ▸ timed.past, ?_,
    deadline, seen, ?_, aware, ?_⟩
  · intro unverified
    exact since.trans (timed.unverified unverified)
  · intro phase member
    exact (List.mem_append.mp member).elim (timed.onward phase) (onward phase)
  · intro failure member
    cases List.mem_append.mp member with
    | inl earlier => exact timed.sending failure earlier
    | inr now => exact absurd now (unsent failure)

theorem Timed.aside (timed : Timed connectTimeout log wait)
    (sameTurn : next.turn = wait.turn)
    (sameStart : next.verifyWaitStart = wait.verifyWaitStart)
    (sameDeadline : next.overallDeadline = wait.overallDeadline)
    (sameBudget : next.connectTimeout = wait.connectTimeout)
    (samePhase : next.currentPhase = wait.currentPhase)
    (later : wait.clock ≤ next.clock)
    (quiet : course (log ++ events) = course log)
    (sampled : ∀ phase,
      .sampled phase ∈ log ++ events ↔ .sampled phase ∈ log)
    (sending : ∀ failure, .sent failure ∈ log ++ events →
      next.thread.hasSent = true) : Timed connectTimeout (log ++ events) next := by
  have phase : phaseAfter (log ++ events) = phaseAfter log :=
    congrArg Prod.fst quiet
  have since : outsideSince (log ++ events) = outsideSince log :=
    congrArg Prod.snd quiet
  refine ⟨sameBudget.trans timed.budget, ?_, ?_, ?_, ?_, ?_, ?_, ?_, sending⟩
  · rw [phase, samePhase]
    exact timed.phase
  · rw [since]
    exact timed.past.trans later
  · rw [since, Verified, samePhase]
    exact timed.unverified
  · rw [sameTurn, sameDeadline]
    exact timed.deadline
  · rw [sameStart, sampled]
    exact timed.seen
  · intro phase member
    rw [samePhase]
    exact timed.onward phase ((sampled phase).mp member)
  · rw [sameTurn]
    refine timed.aware.mono sameStart sameDeadline sampled later
      fun granted => ?_
    unfold Granted Verified
    rw [since, samePhase, sameBudget, sameDeadline]
    exact granted

theorem Timed.reported {phase : ConnectionPhase}
    (timed : Timed connectTimeout log wait)
    (onward : wait.currentPhase.rank ≤ phase.rank) :
    Timed connectTimeout (log ++ [.reported phase wait.clock])
      { wait with currentPhase := phase } := by
  obtain ⟨reached, since⟩ := course_reported timed.phase wait.clock
  have kept : Verified wait → outsideSince (log ++ [.reported phase wait.clock]) =
      outsideSince log := by
    intro verified
    refine since.resolve_right fun left => ?_
    rw [Verified, left.2.1] at verified
    exact Nat.lt_irrefl _ verified
  refine ⟨timed.budget, reached, ?_, ?_, timed.deadline, ?_, ?_, ?_, ?_⟩
  · rcases since with same | ⟨same, -⟩
    · exact same ▸ timed.past
    · exact same.le
  · intro unverified
    rcases since with same | ⟨-, left, elsewhere⟩
    · exact same.trans (timed.unverified fun verified =>
        unverified (Nat.lt_of_lt_of_le verified onward))
    · rw [left] at onward
      exact absurd (@verified_of_rank { wait with currentPhase := phase } phase
        elsewhere onward (Nat.le_refl _)) unverified
  · intro frozen
    exact List.mem_append_left _ (timed.seen frozen)
  · intro earlier member
    exact (timed.onward earlier (by simpa using member)).trans onward
  · refine timed.aware.mono rfl rfl (by simp) (Nat.le_refl _) ?_
    rintro ⟨verified, granted⟩
    refine ⟨Nat.lt_of_lt_of_le verified onward, ?_⟩
    rw [kept verified]
    exact granted
  · intro failure member
    exact timed.sending failure (by simpa using member)

theorem Granted.append (granted : Granted log wait)
    (quiet : course (log ++ events) = course log) :
    Granted (log ++ events) wait := by
  have since : outsideSince (log ++ events) = outsideSince log :=
    congrArg Prod.snd quiet
  exact ⟨granted.1, since ▸ granted.2⟩

theorem Timed.step (timed : Timed connectTimeout log wait)
    (move : Move wait next events) :
    Timed connectTimeout (log ++ events) next := by
  have aware := timed.aware
  cases move with
  | passed elapsed =>
      refine timed.aside rfl rfl rfl rfl rfl (Nat.le_add_right _ _)
        (course_append _ _) (by simp) ?_
      exact fun failure member => timed.sending failure (by simpa using member)
  | reported onward => exact timed.reported onward
  | sent =>
      exact timed.aside rfl rfl rfl rfl rfl (Nat.le_refl _)
        (course_append _ _) (by simp) fun _ _ => rfl
  | vanished running =>
      refine timed.aside rfl rfl rfl rfl rfl (Nat.le_refl _)
        (course_append _ _) (by simp) fun failure member => ?_
      have sent := timed.sending failure (by simpa using member)
      rw [running] at sent
      cases sent
  | started turn =>
      rw [turn] at aware
      refine timed.work rfl (course_append _ _) (by simp) (fun _ => ?_) ?_
        (by simp) ?_
      · exact timed.budget ▸ Nat.le_add_left _ _
      · exact fun frozen => absurd aware.1 frozen
      · intro saw
        exact absurd (by simpa using saw) aware.2
  | sampled turn =>
      rw [turn] at aware
      refine timed.work rfl (course_append _ _) (by simp) ?_ ?_ (by simp) ?_
      · exact fun _ => timed.deadline (by simp [turn])
      · exact fun frozen => List.mem_append_left _ (timed.seen frozen)
      · refine ⟨by simp, fun saw => ?_⟩
        cases List.mem_append.mp saw with
        | inl earlier =>
            refine ⟨timed.onward _ earlier, .inr ?_⟩
            exact (aware earlier).imp_right
              fun granted => granted.append (course_append _ _)
        | inr now =>
            have verifying := WaitEvent.sampled.inj (List.mem_singleton.mp now)
            rw [← verifying]
            exact ⟨Nat.le_refl _, .inl rfl⟩
  | connected turn result =>
      refine timed.work rfl (course_append _ _) (by simp) ?_ ?_ (by simp) trivial
      · exact fun _ => timed.deadline (by simp [turn])
      · exact fun frozen => List.mem_append_left _ (timed.seen frozen)
  | failed turn result mapped =>
      refine timed.work rfl (course_append _ _) (by simp) ?_ ?_ (by simp) trivial
      · exact fun _ => timed.deadline (by simp [turn])
      · exact fun frozen => List.mem_append_left _ (timed.seen frozen)
  | abandoned turn gone =>
      refine timed.work rfl (course_append _ _) (by simp) ?_ ?_ (by simp) trivial
      · exact fun _ => timed.deadline (by simp [turn])
      · exact fun frozen => List.mem_append_left _ (timed.seen frozen)
  | waited turn running =>
      rw [turn] at aware
      rw [List.append_nil]
      refine ⟨timed.budget, timed.phase, timed.past, timed.unverified, ?_,
        timed.seen, timed.onward, aware, timed.sending⟩
      exact fun _ => timed.deadline (by simp [turn])
  | froze turn unseen =>
      rw [turn] at aware
      rw [List.append_nil]
      refine ⟨timed.budget, timed.phase, timed.past, timed.unverified, ?_, ?_,
        timed.onward, ?_, timed.sending⟩
      · exact fun _ => timed.deadline (by simp [turn])
      · exact fun _ => aware.1
      · exact ⟨fun elsewhere => absurd rfl elsewhere, fun _ => .inl nofun⟩
  | granted turn elsewhere frozen =>
      rw [turn] at aware
      obtain ⟨member, known⟩ := aware
      have saw := timed.seen (by simp [frozen])
      rw [List.append_nil]
      refine ⟨timed.budget, timed.phase, timed.past, timed.unverified, ?_,
        fun _ => saw, timed.onward, ?_, timed.sending⟩
      · exact fun _ => timed.budget ▸ Nat.le_add_left _ _
      · refine ⟨fun _ => rfl, fun _ => .inr ⟨?_, ?_⟩⟩
        · exact verified_of_rank elsewhere (known saw).1
            (timed.onward _ member)
        · exact Nat.add_le_add_right timed.past _
  | judged turn settled =>
      rw [turn] at aware
      obtain ⟨member, known⟩ := aware
      rw [List.append_nil]
      refine ⟨timed.budget, timed.phase, timed.past, timed.unverified, ?_,
        timed.seen, timed.onward, ?_, timed.sending⟩
      · exact fun _ => timed.deadline (by simp [turn])
      · refine ⟨fun elsewhere => ?_, fun saw => ?_⟩
        · by_contra frozen
          exact elsewhere (settled.mpr frozen)
        · rcases (known saw).2 with verifying | frozen | granted
          · exact .inl (settled.mp verifying)
          · exact .inl frozen
          · exact .inr granted
  | ranOut turn elsewhere due =>
      rw [turn] at aware
      refine timed.work rfl (course_append _ _) (by simp) ?_ ?_ (by simp) ?_
      · exact fun _ => timed.deadline (by simp [turn])
      · exact fun frozen => List.mem_append_left _ (timed.seen frozen)
      · refine ⟨elsewhere, due, fun saw => ?_⟩
        have before : .sampled .verifyingHostKey ∈ log := by simpa using saw
        have granted := (aware.2 before).resolve_left
          fun frozen => frozen (aware.1 elsewhere)
        exact granted.append (course_append _ _)
  | continued turn =>
      rw [turn] at aware
      rw [List.append_nil]
      refine ⟨timed.budget, timed.phase, timed.past, timed.unverified, ?_,
        timed.seen, timed.onward, aware.2, timed.sending⟩
      exact fun _ => timed.deadline (by simp [turn])
  | timedOut turn =>
      refine timed.work rfl (course_append _ _) (by simp) ?_ ?_ (by simp) trivial
      · exact fun _ => timed.deadline (by simp [turn])
      · exact fun frozen => List.mem_append_left _ (timed.seen frozen)

/-- What an event says of the log before it. -/
def Explained (connectTimeout : ℕ) (before : List WaitEvent) :
    WaitEvent → Prop
  | .published .timeout _ time =>
      (∃ phase error, .received (some error) ∈ before ∧
        (mapPhaseErrorToStatus phase error).1 = .timeout) ∨
      Exhausted connectTimeout before time
  | .deadlinePassed => ∀ failure, .sent failure ∉ before
  | _ => True

/-- From the end of a poll to the look at the deadline no result is there,
unless the connection was found to be verified and the deadline does not count. -/
def Unsent (log : List WaitEvent) : WaitTurn → Prop
  | .judging activePhase | .deciding activePhase =>
      activePhase ≠ .verifyingHostKey → ∀ failure, .sent failure ∉ log
  | _ => True

theorem stepReceive_unsent {activePhase : ConnectionPhase} {since : ℕ}
    (stepped : wait.stepReceive activePhase since = some (next, events))
    (failure : Option AppError) : .sent failure ∉ events := by
  unfold stepReceive at stepped
  split at stepped
  · obtain ⟨-, rfl⟩ := Prod.mk.inj (Option.some.inj stepped)
    simp
  · obtain ⟨-, rfl⟩ := Prod.mk.inj (Option.some.inj stepped)
    simp
  · obtain ⟨-, rfl⟩ := Prod.mk.inj (Option.some.inj stepped)
    simp
  · split at stepped
    · obtain ⟨-, rfl⟩ := Prod.mk.inj (Option.some.inj stepped)
      simp
    · cases stepped

theorem stepWork_unsent (stepped : wait.stepWork = some (next, events))
    (failure : Option AppError) : .sent failure ∉ events := by
  unfold stepWork at stepped
  split at stepped
  · obtain ⟨-, rfl⟩ := Prod.mk.inj (Option.some.inj stepped)
    simp
  · obtain ⟨-, rfl⟩ := Prod.mk.inj (Option.some.inj stepped)
    simp
  · exact stepReceive_unsent stepped failure
  · obtain ⟨-, rfl⟩ := Prod.mk.inj (Option.some.inj stepped)
    simp
  · unfold stepDecide at stepped
    split at stepped
    · obtain ⟨-, rfl⟩ := Prod.mk.inj (Option.some.inj stepped)
      simp
    · obtain ⟨-, rfl⟩ := Prod.mk.inj (Option.some.inj stepped)
      simp
  · obtain ⟨-, rfl⟩ := Prod.mk.inj (Option.some.inj stepped)
    simp
  · cases stepped
  · cases stepped

theorem send_of_event {action : WaitAction} {failure : Option AppError}
    (stepped : machine.step wait action = some (next, events))
    (member : .sent failure ∈ events) : action = .send failure := by
  cases action with
  | send other =>
      simp only [machine, step] at stepped
      split at stepped
      · obtain ⟨-, rfl⟩ := Prod.mk.inj (Option.some.inj stepped)
        rw [WaitEvent.sent.inj (List.mem_singleton.mp member)]
      · cases stepped
  | pass elapsed =>
      obtain ⟨-, rfl⟩ := Prod.mk.inj (Option.some.inj stepped)
      cases member
  | report phase =>
      simp only [machine, step] at stepped
      split at stepped
      · obtain ⟨-, rfl⟩ := Prod.mk.inj (Option.some.inj stepped)
        simp at member
      · cases stepped
  | vanish =>
      simp only [machine, step] at stepped
      split at stepped
      · obtain ⟨-, rfl⟩ := Prod.mk.inj (Option.some.inj stepped)
        cases member
      · cases stepped
  | work => exact absurd member (stepWork_unsent stepped failure)

theorem Timed.unsent_step {action : WaitAction}
    (timed : Timed connectTimeout log wait) (unsent : Unsent log wait.turn)
    (permitted : timely log wait action = true)
    (stepped : machine.step wait action = some (next, events)) :
    Unsent (log ++ events) next.turn := by
  have kept : ∀ turn : WaitTurn, Unsent log turn →
      (∀ failure, .sent failure ∉ events) → Unsent (log ++ events) turn := by
    intro turn before quiet
    cases turn with
    | judging activePhase | deciding activePhase =>
        intro elsewhere failure member
        exact (List.mem_append.mp member).elim (before elsewhere failure)
          (quiet failure)
    | _ => trivial
  cases step_move stepped with
  | passed elapsed => exact kept _ unsent (by simp)
  | reported onward => exact kept _ unsent (by simp)
  | vanished running => exact kept _ unsent (by simp)
  | sent =>
      obtain rfl := send_of_event stepped (List.mem_singleton_self _)
      simp only
      cases turn : wait.turn with
      | judging activePhase | deciding activePhase =>
          intro elsewhere
          simp [timely, turn, elsewhere] at permitted
      | _ => trivial
  | waited turn running =>
      intro _ failure member
      have sent := timed.sending failure (by simpa using member)
      rw [running] at sent
      cases sent
  | froze turn unseen => exact fun elsewhere => absurd rfl elsewhere
  | granted turn elsewhere frozen =>
      rw [turn] at unsent
      exact kept _ unsent (by simp)
  | judged turn settled =>
      rw [turn] at unsent
      exact kept _ unsent (by simp)
  | _ => trivial

theorem Timed.exhausted {activePhase : ConnectionPhase}
    (timed : Timed connectTimeout log wait)
    (turn : wait.turn = .expired activePhase)
    (permitted : timely log wait .work = true) :
    Exhausted connectTimeout log wait.clock := by
  have aware := timed.aware
  rw [turn] at aware
  obtain ⟨elsewhere, due, known⟩ := aware
  obtain ⟨unverifying, seen⟩ : wait.currentPhase ≠ .verifyingHostKey ∧
      (wait.currentPhase.rank ≤ ConnectionPhase.verifyingHostKey.rank ∨
        .sampled .verifyingHostKey ∈ log) := by
    simpa [timely, turn, elsewhere, sawVerification] using permitted
  refine ⟨timed.phase ▸ unverifying, ?_⟩
  cases seen with
  | inl early =>
      have budget := timed.deadline (by simp [turn])
      rw [timed.unverified (not_verified_iff.mpr early)]
      omega
  | inr saw =>
      obtain ⟨-, granted⟩ := known saw
      rw [← timed.budget]
      exact granted.trans due

/-- The events of the thread that connects; all others are the worker's. -/
def WaitEvent.ofThread : WaitEvent → Bool
  | .reported _ _ | .sent _ => true
  | _ => false

theorem work_of_event {action : WaitAction} {event : WaitEvent}
    (stepped : machine.step wait action = some (next, events))
    (member : event ∈ events) (own : WaitEvent.ofThread event = false) :
    action = .work := by
  cases action with
  | work => rfl
  | pass elapsed =>
      obtain ⟨-, rfl⟩ := Prod.mk.inj (Option.some.inj stepped)
      cases member
  | report phase =>
      simp only [machine, step] at stepped
      split at stepped
      · obtain ⟨-, rfl⟩ := Prod.mk.inj (Option.some.inj stepped)
        obtain rfl := List.mem_singleton.mp member
        cases own
      · cases stepped
  | send failure =>
      simp only [machine, step] at stepped
      split at stepped
      · obtain ⟨-, rfl⟩ := Prod.mk.inj (Option.some.inj stepped)
        obtain rfl := List.mem_singleton.mp member
        cases own
      · cases stepped
  | vanish =>
      simp only [machine, step] at stepped
      split at stepped
      · obtain ⟨-, rfl⟩ := Prod.mk.inj (Option.some.inj stepped)
        cases member
      · cases stepped

theorem Move.deadlinePassed_inv (move : Move wait next events)
    (member : .deadlinePassed ∈ events) :
    events = [.deadlinePassed] ∧ ∃ activePhase,
      wait.turn = .deciding activePhase ∧
      activePhase ≠ .verifyingHostKey ∧ wait.overallDeadline ≤ wait.clock := by
  cases move with
  | ranOut turn elsewhere due => exact ⟨rfl, _, turn, elsewhere, due⟩
  | _ => simp at member

theorem Move.timeout_inv {message : String} {time : ℕ}
    (move : Move wait next events)
    (member : .published .timeout message time ∈ events) :
    (events = [.published .timeout message wait.clock] ∧ time = wait.clock ∧
      ∃ activePhase, wait.turn = .expired activePhase) ∨
    ∃ phase error, events =
        [.received (some error), .published .timeout message time] ∧
      (mapPhaseErrorToStatus phase error).1 = .timeout := by
  cases move with
  | timedOut turn =>
      obtain ⟨-, rfl, rfl⟩ :=
        WaitEvent.published.inj (List.mem_singleton.mp member)
      exact .inl ⟨rfl, rfl, _, turn⟩
  | failed turn result mapped =>
      have published := (List.mem_cons.mp member).resolve_left nofun
      obtain ⟨rfl, rfl, rfl⟩ :=
        WaitEvent.published.inj (List.mem_singleton.mp published)
      exact .inr ⟨_, _, rfl, congrArg Prod.fst mapped⟩
  | _ => simp at member

theorem Timed.explains {action : WaitAction}
    (timed : Timed connectTimeout log wait) (unsent : Unsent log wait.turn)
    (permitted : timely log wait action = true)
    (stepped : machine.step wait action = some (next, events))
    {before after : List WaitEvent} {event : WaitEvent}
    (split : events = before ++ event :: after) :
    Explained connectTimeout (log ++ before) event := by
  have member : event ∈ events := by simp [split]
  have move := step_move stepped
  cases event with
  | deadlinePassed =>
      obtain rfl := work_of_event stepped member rfl
      obtain ⟨single, activePhase, turn, elsewhere, due⟩ :=
        move.deadlinePassed_inv member
      obtain rfl : before = [] := by
        rw [single] at split
        cases before with
        | nil => rfl
        | cons head tail => simp at split
      rw [List.append_nil]
      rw [turn] at unsent
      exact unsent elsewhere
  | published status message time =>
      cases status with
      | timeout =>
          obtain rfl := work_of_event stepped member rfl
          rcases move.timeout_inv member with
            ⟨single, rfl, activePhase, turn⟩ | ⟨phase, error, pair, mapped⟩
          · obtain rfl : before = [] := by
              rw [single] at split
              cases before with
              | nil => rfl
              | cons head tail => simp at split
            rw [List.append_nil]
            exact .inr (timed.exhausted turn permitted)
          · refine .inl ⟨phase, error, List.mem_append_right _ ?_, mapped⟩
            rw [pair] at split
            cases before with
            | nil => simp at split
            | cons head tail =>
                obtain ⟨rfl, -⟩ := List.cons.inj split
                exact List.mem_cons_self
      | _ => trivial
  | _ => trivial

/-- While results come before their polls end and the polls see the verification,
a timeout is published only when the connection has had its whole budget outside
verification, and never when its result has been sent. -/
theorem timeout_spares_verification {actions : List WaitAction}
    (run : machine.RunWhere timely [] (start connectTimeout) actions log wait) :
    (∀ before message time after,
      log = before ++ .published .timeout message time :: after →
        (∃ phase error, .received (some error) ∈ before ∧
          (mapPhaseErrorToStatus phase error).1 = .timeout) ∨
        Exhausted connectTimeout before time) ∧
    ∀ before after, log = before ++ .deadlinePassed :: after →
      ∀ failure, .sent failure ∉ before := by
  have explained : ∀ before event after, log = before ++ event :: after →
      Explained connectTimeout before event :=
    run.history
      (fun past wait => Timed connectTimeout past wait ∧ Unsent past wait.turn)
      ⟨timed_start, trivial⟩
      (fun ⟨timed, unsent⟩ permitted stepped =>
        ⟨timed.step (step_move stepped),
          timed.unsent_step unsent permitted stepped⟩)
      fun ⟨timed, unsent⟩ permitted stepped _ _ _ split =>
        timed.explains unsent permitted stepped split
  constructor
  · intro before message time after split
    exact explained before _ after split
  · intro before after split
    exact explained before _ after split

/-- One turn of the worker's loop, during which others act. -/
def poll (meanwhile : List WaitAction) : List WaitAction :=
  .work :: meanwhile ++ [.work, .work, .work]

/-- With a budget of 300 ms: the timeout is published while the user is asked for
a decision; it is published 110 ms after a verification that fell between two
polls; and it takes the place of a connection that has been made. -/
theorem timeout_interrupts_verification :
    (∃ log wait,
      machine.Run (start 300)
        (.work :: poll [.pass 100] ++ poll [.pass 100] ++
          poll [.pass 50, .report .verifyingHostKey, .pass 50] ++ [.work])
        log wait ∧
      log.getLast? = some (.published .timeout "建立 TCP 连接超时" 300) ∧
      phaseAfter log = .verifyingHostKey) ∧
    (∃ log wait,
      machine.Run (start 300)
        (.work :: poll [.pass 100] ++
          poll [.pass 10, .report .verifyingHostKey, .pass 80,
            .report .authenticating, .pass 10] ++
          poll [.pass 100] ++ [.work]) log wait ∧
      log.getLast? = some (.published .timeout "SSH 认证超时" 300) ∧
      outsideSince log = 190) ∧
    ∃ log wait,
      machine.Run (start 300)
        (.work :: poll [.pass 100] ++ poll [.pass 100] ++
          [.work, .pass 100, .work, .send none, .work, .work, .work])
        log wait ∧
      log.drop 3 = [.sent none, .deadlinePassed,
        .published .timeout "建立 TCP 连接超时" 300] :=
  ⟨⟨_, _, Machine.run_of_execute rfl, rfl, rfl⟩,
    ⟨_, _, Machine.run_of_execute rfl, rfl, rfl⟩,
    ⟨_, _, Machine.run_of_execute rfl, rfl⟩⟩

/-- The user takes a second to decide, and the authentication takes too long. -/
def seenVerification : List WaitAction :=
  .work :: poll [.pass 50, .report .verifyingHostKey, .pass 50] ++
  poll [.pass 1000] ++ [.pass 50, .report .authenticating] ++
  poll [.pass 100] ++ poll [.pass 150] ++ poll [.pass 150] ++ [.work]

/-- The result comes at the deadline, just before the end of a poll. -/
def finishedInTime : List WaitAction :=
  .work :: poll [.pass 100] ++ poll [.pass 100] ++
    [.work, .pass 100, .send none, .work]

theorem timeout_spares_verification_seen :
    (∃ log wait,
      machine.RunWhere timely [] (start 300) seenVerification log wait ∧
      log.getLast? = some (.published .timeout "SSH 认证超时" 1550) ∧
      Exhausted 300 log.dropLast 1550) ∧
    ∃ log wait,
      machine.RunWhere timely [] (start 300) finishedInTime log wait ∧
      log.getLast? = some (.received none) := by
  have executed : ∃ log wait,
      machine.RunWhere timely [] (start 300) seenVerification log wait ∧
      log.getLast? = some (.published .timeout "SSH 认证超时" 1550) ∧
      ∀ event ∈ log.dropLast, ∀ failure, event ≠ .received failure := by
    refine ⟨_, _, Machine.runWhere_of_executeWhere rfl, rfl, ?_⟩
    intro event member failure
    rintro rfl
    simp at member
  obtain ⟨log, wait, run, published, pending⟩ := executed
  have split := List.dropLast_append_getLast? _ published
  refine ⟨⟨log, wait, run, published, ?_⟩,
    ⟨_, _, Machine.runWhere_of_executeWhere rfl, rfl⟩⟩
  rcases (timeout_spares_verification run).1 _ _ _ [] split.symm with
    ⟨phase, error, received, -⟩ | exhausted
  · exact absurd rfl (pending _ received _)
  · exact exhausted

end ConnectWait

end TitanSSH
