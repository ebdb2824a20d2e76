import TitanSSH.Core.Terminal.ConnectPhase
import TitanSSH.Library.GuardedRuns

namespace TitanSSH

open Interleaving

/-! The wait of a terminal worker for its connection: the thread that connects
reports its phases and sends its result, and the worker polls for that.  Times
are in milliseconds. -/

/-- The thread that connects, and what it has left in the channel. -/
inductive ConnectThread
  | running
  | sent (failure : Option AppError)
  | gone
  deriving DecidableEq

def ConnectThread.hasSent : ConnectThread → Bool
  | .sent _ => true
  | _ => false

/-- Where the worker stands in its loop. -/
inductive WaitTurn
  | starting
  | sampling
  | receiving (activePhase : ConnectionPhase) (since : ℕ)
  | judging (activePhase : ConnectionPhase)
  | deciding (activePhase : ConnectionPhase)
  | expired (activePhase : ConnectionPhase)
  | connected
  | ended (status : SessionStatus)

structure ConnectWait where
  clock : ℕ
  connectTimeout : ℕ
  currentPhase : ConnectionPhase
  thread : ConnectThread
  turn : WaitTurn
  overallDeadline : ℕ
  verifyWaitStart : Option ℕ

inductive WaitAction
  | pass (elapsed : ℕ)
  | report (phase : ConnectionPhase)
  | send (failure : Option AppError)
  /-- The thread that connects panics. -/
  | vanish
  /-- The worker goes on. -/
  | work

inductive WaitEvent
  | reported (phase : ConnectionPhase) (time : ℕ)
  | sent (failure : Option AppError)
  | sampled (phase : ConnectionPhase)
  | received (failure : Option AppError)
  | deadlinePassed
  | published (status : SessionStatus) (message : String) (time : ℕ)
  deriving DecidableEq

namespace ConnectWait

def start (connectTimeout : ℕ) : ConnectWait where
  clock := 0
  connectTimeout := connectTimeout
  currentPhase := .connectingTcp
  thread := .running
  turn := .starting
  overallDeadline := 0
  verifyWaitStart := none

def pollInterval : ℕ := 100

def connectTotalTimeout : ℕ := 15000

abbrev Outcome := ConnectWait × List WaitEvent

def finish (wait : ConnectWait) (status : SessionStatus) (message : String) :
    Outcome :=
  ({ wait with turn := .ended status }, [.published status message wait.clock])

def stepReceive (wait : ConnectWait) (activePhase : ConnectionPhase)
    (since : ℕ) : Option Outcome :=
  match wait.thread with
  | .sent none => some ({ wait with turn := .connected }, [.received none])
  | .sent (some error) =>
      match mapPhaseErrorToStatus activePhase error with
      | (status, message) =>
          some ({ wait with turn := .ended status },
            [.received (some error), .published status message wait.clock])
  | .gone => some (wait.finish .error "连接线程异常退出")
  | .running =>
      if since + pollInterval ≤ wait.clock then
        some ({ wait with turn := .judging activePhase }, [])
      else none

/-- The budget is frozen when a verification is first seen, and granted anew when
it is first seen to be over. -/
def judge (wait : ConnectWait) (activePhase : ConnectionPhase) : ConnectWait :=
  match decide (activePhase = .verifyingHostKey), wait.verifyWaitStart with
  | true, none =>
      { wait with
        turn := .deciding activePhase
        verifyWaitStart := some wait.clock }
  | false, some _ =>
      { wait with
        turn := .deciding activePhase
        overallDeadline := wait.clock + wait.connectTimeout
        verifyWaitStart := none }
  | _, _ => { wait with turn := .deciding activePhase }

def stepDecide (wait : ConnectWait) (activePhase : ConnectionPhase) : Outcome :=
  if activePhase ≠ .verifyingHostKey ∧ wait.overallDeadline ≤ wait.clock then
    ({ wait with turn := .expired activePhase }, [.deadlinePassed])
  else ({ wait with turn := .sampling }, [])

def stepWork (wait : ConnectWait) : Option Outcome :=
  match wait.turn with
  | .starting =>
      some ({ wait with
        turn := .sampling
        overallDeadline := wait.clock + wait.connectTimeout }, [])
  | .sampling =>
      some ({ wait with turn := .receiving wait.currentPhase wait.clock },
        [.sampled wait.currentPhase])
  | .receiving activePhase since => wait.stepReceive activePhase since
  | .judging activePhase => some (wait.judge activePhase, [])
  | .deciding activePhase => some (wait.stepDecide activePhase)
  | .expired activePhase =>
      some (wait.finish .timeout activePhase.timeoutMessage)
  | .connected | .ended _ => none

def step (wait : ConnectWait) : WaitAction → Option Outcome
  | .pass elapsed => some ({ wait with clock := wait.clock + elapsed }, [])
  | .report phase =>
      if wait.thread = .running ∧ wait.currentPhase.rank ≤ phase.rank then
        some ({ wait with currentPhase := phase },
          [.reported phase wait.clock])
      else none
  | .send failure =>
      if wait.thread = .running then
        some ({ wait with thread := .sent failure }, [.sent failure])
      else none
  | .vanish =>
      if wait.thread = .running then some ({ wait with thread := .gone }, [])
      else none
  | .work => wait.stepWork

def machine : Machine ConnectWait WaitAction WaitEvent where
  step := step

/-! Everything one step can do. -/

inductive Move (wait : ConnectWait) : ConnectWait → List WaitEvent → Prop
  | passed (elapsed : ℕ) :
      Move wait { wait with clock := wait.clock + elapsed } []
  | reported {phase : ConnectionPhase}
      (onward : wait.currentPhase.rank ≤ phase.rank) :
      Move wait { wait with currentPhase := phase }
        [.reported phase wait.clock]
  | sent {failure : Option AppError} :
      Move wait { wait with thread := .sent failure } [.sent failure]
  | vanished (running : wait.thread = .running) :
      Move wait { wait with thread := .gone } []
  | started (turn : wait.turn = .starting) :
      Move wait
        { wait with
          turn := .sampling
          overallDeadline := wait.clock + wait.connectTimeout } []
  | sampled (turn : wait.turn = .sampling) :
      Move wait { wait with turn := .receiving wait.currentPhase wait.clock }
        [.sampled wait.currentPhase]
  | connected {activePhase : ConnectionPhase} {since : ℕ}
      (turn : wait.turn = .receiving activePhase since)
      (result : wait.thread = .sent none) :
      Move wait { wait with turn := .connected } [.received none]
  | failed {activePhase : ConnectionPhase} {since : ℕ} {error : AppError}
      {status : SessionStatus} {message : String}
      (turn : wait.turn = .receiving activePhase since)
      (result : wait.thread = .sent (some error))
      (mapped : mapPhaseErrorToStatus activePhase error = (status, message)) :
      Move wait { wait with turn := .ended status }
        [.received (some error), .published status message wait.clock]
  | abandoned {activePhase : ConnectionPhase} {since : ℕ}
      (turn : wait.turn = .receiving activePhase since)
      (gone : wait.thread = .gone) :
      Move wait { wait with turn := .ended .error }
        [.published .error "连接线程异常退出" wait.clock]
  | waited {activePhase : ConnectionPhase} {since : ℕ}
      (turn : wait.turn = .receiving activePhase since)
      (running : wait.thread = .running) :
      Move wait { wait with turn := .judging activePhase } []
  | froze (turn : wait.turn = .judging .verifyingHostKey)
      (unseen : wait.verifyWaitStart = none) :
      Move wait
        { wait with
          turn := .deciding .verifyingHostKey
          verifyWaitStart := some wait.clock } []
  | granted {activePhase : ConnectionPhase} {began : ℕ}
      (turn : wait.turn = .judging activePhase)
      (elsewhere : activePhase ≠ .verifyingHostKey)
      (frozen : wait.verifyWaitStart = some began) :
      Move wait
        { wait with
          turn := .deciding activePhase
          overallDeadline := wait.clock + wait.connectTimeout
          verifyWaitStart := none } []
  | judged {activePhase : ConnectionPhase}
      (turn : wait.turn = .judging activePhase)
      (settled : activePhase = .verifyingHostKey ↔
        wait.verifyWaitStart ≠ none) :
      Move wait { wait with turn := .deciding activePhase } []
  | ranOut {activePhase : ConnectionPhase}
      (turn : wait.turn = .deciding activePhase)
      (elsewhere : activePhase ≠ .verifyingHostKey)
      (due : wait.overallDeadline ≤ wait.clock) :
      Move wait { wait with turn := .expired activePhase } [.deadlinePassed]
  | continued {activePhase : ConnectionPhase}
      (turn : wait.turn = .deciding activePhase) :
      Move wait { wait with turn := .sampling } []
  | timedOut {activePhase : ConnectionPhase}
      (turn : wait.turn = .expired activePhase) :
      Move wait { wait with turn := .ended .timeout }
        [.published .timeout activePhase.timeoutMessage wait.clock]

variable {wait next : ConnectWait} {events : List WaitEvent}

theorem judge_move {activePhase : ConnectionPhase}
    (turn : wait.turn = .judging activePhase) :
    Move wait (wait.judge activePhase) [] := by
  unfold judge
  split
  · next verifying unseen =>
      obtain rfl := of_decide_eq_true verifying
      exact .froze turn unseen
  · next elsewhere frozen =>
      exact .granted turn (of_decide_eq_false elsewhere) frozen
  · next frozen granted =>
      refine .judged turn ⟨fun verifying unseen => ?_, fun seen => ?_⟩
      · exact frozen (decide_eq_true verifying) unseen
      · by_contra elsewhere
        obtain ⟨began, since⟩ := Option.ne_none_iff_exists'.mp seen
        exact granted began (decide_eq_false elsewhere) since

theorem stepReceive_move {activePhase : ConnectionPhase} {since : ℕ}
    (turn : wait.turn = .receiving activePhase since)
    (stepped : wait.stepReceive activePhase since = some (next, events)) :
    Move wait next events := by
  unfold stepReceive at stepped
  split at stepped
  · next result =>
      obtain ⟨rfl, rfl⟩ := Prod.mk.inj (Option.some.inj stepped)
      exact .connected turn result
  · next error result =>
      split at stepped
      · next status message mapped =>
          obtain ⟨rfl, rfl⟩ := Prod.mk.inj (Option.some.inj stepped)
          exact .failed turn result mapped
  · next gone =>
      obtain ⟨rfl, rfl⟩ := Prod.mk.inj (Option.some.inj stepped)
      exact .abandoned turn gone
  · next running =>
      split at stepped
      · obtain ⟨rfl, rfl⟩ := Prod.mk.inj (Option.some.inj stepped)
        exact .waited turn running
      · cases stepped

theorem stepWork_move (stepped : wait.stepWork = some (next, events)) :
    Move wait next events := by
  unfold stepWork at stepped
  split at stepped
  · next turn =>
      obtain ⟨rfl, rfl⟩ := Prod.mk.inj (Option.some.inj stepped)
      exact .started turn
  · next turn =>
      obtain ⟨rfl, rfl⟩ := Prod.mk.inj (Option.some.inj stepped)
      exact .sampled turn
  · next turn => exact stepReceive_move turn stepped
  · next turn =>
      obtain ⟨rfl, rfl⟩ := Prod.mk.inj (Option.some.inj stepped)
      exact judge_move turn
  · next activePhase turn =>
      unfold stepDecide at stepped
      split at stepped
      · next due =>
          obtain ⟨rfl, rfl⟩ := Prod.mk.inj (Option.some.inj stepped)
          exact .ranOut turn due.1 due.2
      · obtain ⟨rfl, rfl⟩ := Prod.mk.inj (Option.some.inj stepped)
        exact .continued turn
  · next turn =>
      obtain ⟨rfl, rfl⟩ := Prod.mk.inj (Option.some.inj stepped)
      exact .timedOut turn
  · cases stepped
  · cases stepped

theorem step_move {action : WaitAction}
    (stepped : step wait action = some (next, events)) :
    Move wait next events := by
  cases action with
  | pass elapsed =>
      obtain ⟨rfl, rfl⟩ := Prod.mk.inj (Option.some.inj stepped)
      exact .passed elapsed
  | report phase =>
      simp only [step] at stepped
      split at stepped
      · next onward =>
          obtain ⟨rfl, rfl⟩ := Prod.mk.inj (Option.some.inj stepped)
          exact .reported onward.2
      · cases stepped
  | send failure =>
      simp only [step] at stepped
      split at stepped
      · obtain ⟨rfl, rfl⟩ := Prod.mk.inj (Option.some.inj stepped)
        exact .sent
      · cases stepped
  | vanish =>
      simp only [step] at stepped
      split at stepped
      · next running =>
          obtain ⟨rfl, rfl⟩ := Prod.mk.inj (Option.some.inj stepped)
          exact .vanished running
      · cases stepped
  | work => exact stepWork_move stepped

end ConnectWait

end TitanSSH
