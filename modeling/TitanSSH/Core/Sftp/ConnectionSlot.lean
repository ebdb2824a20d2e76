import TitanSSH.Core.Sftp.Connection

namespace TitanSSH

open Interleaving

namespace SftpConnection

/-! What the connection slot guarantees in every run. -/

def Event.connects : Event → Option ℕ
  | .connected _ transport => some transport
  | _ => none

def Event.evicts : Event → Option ℕ
  | .evicted _ transport => some transport
  | _ => none

def Event.attempts (thread : ℕ) : Event → Option (ℕ × OpOutcome)
  | .attempted other transport outcome =>
      if other = thread then some (transport, outcome) else none
  | _ => none

/-- The transports that have been made, and those that have been evicted. -/
def connections (log : List Event) : List ℕ :=
  log.filterMap Event.connects

def evictions (log : List Event) : List ℕ :=
  log.filterMap Event.evicts

/-- The attempts of a thread at its operation. -/
def attempts (thread : ℕ) (log : List Event) : List (ℕ × OpOutcome) :=
  log.filterMap (Event.attempts thread)

/-- A second attempt comes only after the connection has failed the first. -/
def AtMostTwice (attempts : List (ℕ × OpOutcome)) : Prop :=
  attempts.length ≤ 1 ∨ ∃ first second, attempts = [first, second] ∧
    first.2.isConnectionFailure = true

/-- The thread has been told to evict the transport, or its operation has failed
on it. -/
def Suspects (log : List Event) (thread transport : ℕ) : Prop :=
  .invoked thread (.invalidateIfReady transport) ∈ log ∨
    ∃ outcome, .attempted thread transport outcome ∈ log ∧
      outcome.isConnectionFailure = true

def Caller.Tried (thread : ℕ) (log : List Event) : Caller → Prop
  | .outside | .operation false => attempts thread log = []
  | .operation true => ∃ attempt, attempts thread log = [attempt] ∧
      attempt.2.isConnectionFailure = true

/-- What the log says of a thread in this phase. -/
def Phase.Tried (thread : ℕ) (log : List Event) : Phase → Prop
  | .called call => .invoked thread call ∈ log ∧ attempts thread log = []
  | .entering caller | .waiting caller _ | .connecting caller =>
      caller.Tried thread log
  | .operating retried _ => (Caller.operation retried).Tried thread log
  | .evicting transport => ∃ outcome,
      attempts thread log = [(transport, outcome)] ∧
        outcome.isConnectionFailure = true
  | .connectingEager | .notifying | .returned => AtMostTwice (attempts thread log)

variable {thread : ℕ} {slot next : SftpConnection}
variable {phase after : Phase} {events log : List Event}

theorem connections_append (log events : List Event) :
    connections (log ++ events) = connections log ++ connections events :=
  List.filterMap_append

theorem evictions_append (log events : List Event) :
    evictions (log ++ events) = evictions log ++ evictions events :=
  List.filterMap_append

theorem attempts_append (log events : List Event) :
    attempts thread (log ++ events) =
      attempts thread log ++ attempts thread events :=
  List.filterMap_append

theorem granted_flight? (caller : Caller) (transport : ℕ) :
    (granted caller transport).flight? = none := by
  cases caller <;> rfl

theorem afterAttempt_flight? (retried : Bool) (transport : ℕ)
    (outcome : OpOutcome) :
    (afterAttempt retried transport outcome).flight? = none := by
  unfold afterAttempt
  split <;> rfl

/-! One connector at a time. -/

/-- A step that has nothing to do with a connector, one that sets out to connect,
or one that delivers the result. -/
theorem Move.flight (move : Move thread slot phase next after events) :
    (phase.flight? = none ∧ after.flight? = none ∧
      (next.state ≠ .closed → slot.state ≠ .closed ∧
        (next.state = .connecting ↔ slot.state = .connecting))) ∨
    (phase.flight? = none ∧ after.flight? = some () ∧ slot.state = .idle ∧
      next.state = .connecting) ∨
    (phase.flight? = some () ∧ after.flight? = none ∧
      (next.state ≠ .closed → slot.state ≠ .closed ∧
        next.state ≠ .connecting)) := by
  cases move with
  | launched isIdle pair =>
      refine .inr (.inl ?_)
      rcases pair with ⟨rfl, rfl⟩ | ⟨caller, rfl, rfl⟩
      · exact ⟨rfl, rfl, isIdle, rfl⟩
      · exact ⟨rfl, rfl, isIdle, rfl⟩
  | closed => exact .inl ⟨rfl, rfl, fun isOpen => absurd rfl isOpen⟩
  | found ready =>
      exact .inl ⟨rfl, granted_flight? _ _, fun isOpen => ⟨isOpen, .rfl⟩⟩
  | delivered failed =>
      refine .inl ⟨rfl, rfl, fun _ => ?_⟩
      simp [failed, setState]
  | late flying isClosed quiet =>
      exact .inr (.inr ⟨flying, rfl, fun isOpen => absurd isClosed isOpen⟩)
  | connectedEager isOpen => exact .inr (.inr ⟨rfl, rfl, fun _ => ⟨isOpen, nofun⟩⟩)
  | connected isOpen =>
      exact .inr (.inr ⟨rfl, granted_flight? _ _, fun _ => ⟨isOpen, nofun⟩⟩)
  | failed flying isOpen outcome quiet =>
      refine .inr (.inr ⟨flying, rfl, fun _ => ⟨isOpen, ?_⟩⟩)
      rcases outcome with rfl | ⟨message, rfl⟩ <;> exact nofun
  | evicted ready pair =>
      left
      rcases pair with ⟨rfl, rfl⟩ | ⟨rfl, rfl⟩ <;>
        simp [ready, setState, notifyAll, Phase.flight?]
  | spared different pair =>
      left
      rcases pair with ⟨rfl, rfl⟩ | ⟨rfl, rfl⟩ <;>
        exact ⟨rfl, rfl, fun isOpen => ⟨isOpen, .rfl⟩⟩
  | attempted =>
      exact .inl ⟨rfl, afterAttempt_flight? _ _ _,
        fun isOpen => ⟨isOpen, .rfl⟩⟩
  | _ => exact .inl ⟨rfl, rfl, fun isOpen => ⟨isOpen, .rfl⟩⟩

structure Flying (config : Config SftpConnection Phase) : Prop where
  single : Exclusive (config.holdings Phase.flight?)
  shown : config.shared.state ≠ .closed →
    (config.shared.state = .connecting ↔
      ∃ thread, config.holdings Phase.flight? thread = some ())

theorem Flying.advance {config : Config SftpConnection Phase}
    (flying : Flying config) (running : config.threads thread = some phase)
    (move : Move thread config.shared phase next after events) :
    Flying ⟨next, Function.update config.threads thread (some after)⟩ := by
  have own := Config.holdings_of_running running Phase.flight?
  constructor
  · rw [config.holdings_advance]
    rcases move.flight with ⟨before, later, -⟩ | ⟨before, later, isIdle, -⟩ |
      ⟨-, later, -⟩
    · rw [later]
      exact flying.single.release thread
    · rw [later]
      refine flying.single.claim (fun other holds => ?_) thread
      have connecting := (flying.shown (by simp [isIdle])).mpr ⟨other, holds⟩
      simp [isIdle] at connecting
    · rw [later]
      exact flying.single.release thread
  · intro isOpen
    rw [config.holdings_advance]
    rcases move.flight with ⟨before, later, kept⟩ | ⟨before, later, -, started⟩ |
      ⟨before, later, landing⟩
    · obtain ⟨wasOpen, same⟩ := kept isOpen
      rw [later, ← before, ← own, Function.update_eq_self]
      exact same.trans (flying.shown wasOpen)
    · refine iff_of_true started ⟨thread, ?_⟩
      rw [later, Function.update_self]
    · obtain ⟨-, landed⟩ := landing isOpen
      refine iff_of_false landed ?_
      rw [later]
      rintro ⟨other, holds⟩
      have alone := (flying.single.held_after_release (own.trans before) ()).mp
        ⟨other, holds⟩
      exact alone.1 rfl

/-! Those who sleep. -/

theorem Move.notifies (move : Move thread slot phase next after events) :
    next.notified = slot.notified + 1 ∨
    (next.notified = slot.notified ∧ phase ≠ .notifying ∧
      (slot.state = .connecting →
        next.state = .connecting ∨ after = .notifying)) := by
  cases move with
  | launched isIdle pair =>
      refine .inr ⟨rfl, ?_, fun _ => .inl rfl⟩
      rcases pair with ⟨rfl, -⟩ | ⟨caller, rfl, -⟩ <;> exact nofun
  | closed => exact .inr ⟨rfl, nofun, fun _ => .inr rfl⟩
  | delivered failed =>
      refine .inr ⟨rfl, nofun, fun connecting => ?_⟩
      rw [failed] at connecting
      cases connecting
  | late | connectedEager | connected | failed | evicted | spared | notified =>
      exact .inl rfl
  | _ => exact .inr ⟨rfl, nofun, .inl⟩

/-- A thread that has not been notified sleeps through a connection attempt, or
somebody is about to notify it. -/
def Watched (config : Config SftpConnection Phase) : Prop :=
  ∀ thread caller since, config.threads thread = some (.waiting caller since) →
    since ≤ config.shared.notified ∧ (since = config.shared.notified →
      config.shared.state = .connecting ∨
        ∃ other, config.threads other = some .notifying)

theorem Move.waiting_inv {caller : Caller} {since : ℕ}
    (move : Move thread slot phase next (.waiting caller since) events) :
    since = next.notified ∧ next.state = .connecting := by
  generalize reached : Phase.waiting caller since = after at move
  cases move with
  | slept connecting =>
      obtain ⟨-, rfl⟩ := Phase.waiting.inj reached
      exact ⟨rfl, connecting⟩
  | launched isIdle pair =>
      rcases pair with ⟨-, rfl⟩ | ⟨caller, -, rfl⟩ <;> cases reached
  | @found caller transport ready => cases caller <;> cases reached
  | @connected caller isOpen => cases caller <;> cases reached
  | evicted ready pair =>
      rcases pair with ⟨-, rfl⟩ | ⟨-, rfl⟩ <;> cases reached
  | spared different pair =>
      rcases pair with ⟨-, rfl⟩ | ⟨-, rfl⟩ <;> cases reached
  | attempted =>
      unfold afterAttempt at reached
      split at reached <;> cases reached
  | _ => cases reached

theorem Watched.advance {config : Config SftpConnection Phase}
    (watched : Watched config) (running : config.threads thread = some phase)
    (move : Move thread config.shared phase next after events) :
    Watched ⟨next, Function.update config.threads thread (some after)⟩ := by
  intro other caller since found
  rcases of_update_eq_some found with ⟨rfl, same⟩ | ⟨different, before⟩
  · obtain rfl := Option.some.inj same
    obtain ⟨rfl, connecting⟩ := move.waiting_inv
    exact ⟨Nat.le_refl _, fun _ => .inl connecting⟩
  · obtain ⟨bounded, asleep⟩ := watched other caller since before
    rcases move.notifies with more | ⟨same, active, shown⟩
    · simp only [more]
      exact ⟨by omega, fun equal => absurd equal (by omega)⟩
    · simp only [same]
      refine ⟨bounded, fun equal => ?_⟩
      rcases asleep equal with connecting | ⟨notifier, notifying⟩
      · refine (shown connecting).imp_right fun closing => ⟨thread, ?_⟩
        rw [closing, Function.update_self]
      · refine .inr ⟨notifier, ?_⟩
        rw [Function.update_of_ne]
        · exact notifying
        · rintro rfl
          exact active (Option.some.inj (running.symm.trans notifying))

/-! The transports, one after another. -/

/-- Every transport that has been made was evicted before the next one, and an
open slot holds the last of them if that was not. -/
structure Succeeding (log : List Event) (slot : SftpConnection) : Prop where
  numbered : connections log = List.range slot.transports
  current : ∃ last : Option ℕ, connections log = evictions log ++ last.toList ∧
    (slot.state ≠ .closed → last = slot.state.transport?)

theorem Succeeding.quiet (succeeding : Succeeding log slot)
    (connects : connections events = []) (evicts : evictions events = [])
    (transports : next.transports = slot.transports)
    (kept : next.state ≠ .closed → slot.state ≠ .closed ∧
      next.state.transport? = slot.state.transport?) :
    Succeeding (log ++ events) next := by
  obtain ⟨numbered, last, split, shown⟩ := succeeding
  constructor
  · rw [connections_append, connects, List.append_nil, transports]
    exact numbered
  · refine ⟨last, ?_, fun isOpen => ?_⟩
    · rw [connections_append, connects, evictions_append, evicts,
        List.append_nil, List.append_nil]
      exact split
    · obtain ⟨wasOpen, same⟩ := kept isOpen
      rw [same]
      exact shown wasOpen

theorem Succeeding.install (succeeding : Succeeding log slot)
    (isOpen : slot.state ≠ .closed) (vacant : slot.state.transport? = none)
    (connects : connections events = [slot.transports])
    (evicts : evictions events = []) :
    Succeeding (log ++ events) slot.install := by
  obtain ⟨numbered, last, split, shown⟩ := succeeding
  constructor
  · rw [connections_append, connects, numbered]
    exact List.range_succ.symm
  · refine ⟨some slot.transports, ?_, fun _ => rfl⟩
    rw [connections_append, connects, evictions_append, evicts, split,
      shown isOpen, vacant]
    simp

theorem Succeeding.evict {transport : ℕ} (succeeding : Succeeding log slot)
    (ready : slot.state = .ready transport) :
    connections log = evictions log ++ [transport] := by
  obtain ⟨-, last, split, shown⟩ := succeeding
  have current : last = some transport := by
    rw [shown (by simp [ready]), ready]
    rfl
  rw [split, current]
  rfl

theorem Succeeding.step (succeeding : Succeeding log slot)
    (flight : phase.flight? = some () → slot.state ≠ .closed →
      slot.state = .connecting)
    (move : Move thread slot phase next after events) :
    Succeeding (log ++ events) next := by
  cases move with
  | launched isIdle pair =>
      refine succeeding.quiet rfl rfl rfl fun _ => ?_
      simp [isIdle, setState, ConnectionState.transport?]
  | closed => exact succeeding.quiet rfl rfl rfl fun isOpen => absurd rfl isOpen
  | delivered failed =>
      refine succeeding.quiet rfl rfl rfl fun _ => ?_
      simp [failed, setState, ConnectionState.transport?]
  | late flying isClosed quiet =>
      have silent : connections events = [] ∧ evictions events = [] := by
        rcases quiet with rfl | ⟨error, rfl⟩ <;> exact ⟨rfl, rfl⟩
      exact succeeding.quiet silent.1 silent.2 rfl fun isOpen => ⟨isOpen, rfl⟩
  | connectedEager isOpen =>
      refine succeeding.install isOpen ?_ rfl rfl
      rw [flight rfl isOpen]
      rfl
  | connected isOpen =>
      refine succeeding.install isOpen ?_ rfl rfl
      rw [flight rfl isOpen]
      rfl
  | failed flying isOpen outcome quiet =>
      have silent : connections events = [] ∧ evictions events = [] := by
        rcases quiet with rfl | ⟨error, rfl⟩ <;> exact ⟨rfl, rfl⟩
      refine succeeding.quiet silent.1 silent.2 rfl fun _ => ⟨isOpen, ?_⟩
      rw [flight flying isOpen]
      rcases outcome with rfl | ⟨message, rfl⟩ <;> rfl
  | @evicted _ _ transport ready pair =>
      have split := succeeding.evict ready
      constructor
      · rw [connections_append]
        exact (List.append_nil _).trans succeeding.numbered
      · refine ⟨none, ?_, fun _ => rfl⟩
        rw [connections_append, evictions_append, split]
        simp [connections, evictions, Event.connects, Event.evicts]
  | _ => exact succeeding.quiet rfl rfl rfl fun isOpen => ⟨isOpen, rfl⟩

/-! The attempts at an operation. -/

theorem mem_attempts {attempt : ℕ × OpOutcome} :
    attempt ∈ attempts thread log ↔
      .attempted thread attempt.1 attempt.2 ∈ log := by
  unfold attempts
  rw [List.mem_filterMap]
  constructor
  · rintro ⟨event, member, tried⟩
    cases event with
    | attempted other transport outcome =>
        obtain ⟨rfl, rfl⟩ : other = thread ∧ (transport, outcome) = attempt := by
          simpa [Event.attempts] using tried
        exact member
    | _ => cases tried
  · intro member
    exact ⟨_, member, by simp [Event.attempts]⟩

theorem Caller.Tried.append {caller : Caller}
    (silent : attempts thread events = []) (tried : caller.Tried thread log) :
    caller.Tried thread (log ++ events) := by
  have same : attempts thread (log ++ events) = attempts thread log := by
    rw [attempts_append, silent, List.append_nil]
  cases caller with
  | outside => exact same.trans tried
  | operation retried =>
      cases retried with
      | false => exact same.trans tried
      | true =>
          unfold Caller.Tried
          rw [same]
          exact tried

/-- What the log says of a thread stays so when it has no part in the events. -/
theorem Phase.Tried.append (silent : attempts thread events = [])
    (tried : phase.Tried thread log) : phase.Tried thread (log ++ events) := by
  have same : attempts thread (log ++ events) = attempts thread log := by
    rw [attempts_append, silent, List.append_nil]
  cases phase with
  | called call => exact ⟨List.mem_append_left _ tried.1, same.trans tried.2⟩
  | entering caller => exact Caller.Tried.append silent tried
  | waiting caller since => exact Caller.Tried.append silent tried
  | connecting caller => exact Caller.Tried.append silent tried
  | operating retried transport => exact Caller.Tried.append silent tried
  | _ =>
      unfold Phase.Tried
      rw [same]
      exact tried

theorem Caller.Tried.atMostTwice {caller : Caller}
    (tried : caller.Tried thread log) : AtMostTwice (attempts thread log) := by
  left
  cases caller with
  | outside => simp [show attempts thread log = [] from tried]
  | operation retried =>
      cases retried with
      | false => simp [show attempts thread log = [] from tried]
      | true =>
          obtain ⟨attempt, once, -⟩ := tried
          simp [once]

theorem Phase.Tried.atMostTwice (tried : phase.Tried thread log) :
    AtMostTwice (attempts thread log) := by
  cases phase with
  | called call => exact .inl (by simp [tried.2])
  | evicting transport =>
      obtain ⟨outcome, once, -⟩ := tried
      exact .inl (by simp [once])
  | entering caller => exact Caller.Tried.atMostTwice tried
  | waiting caller since => exact Caller.Tried.atMostTwice tried
  | connecting caller => exact Caller.Tried.atMostTwice tried
  | operating retried transport => exact Caller.Tried.atMostTwice tried
  | _ => exact tried

theorem granted_tried {caller : Caller} {transport : ℕ}
    (tried : caller.Tried thread log) :
    (granted caller transport).Tried thread log := by
  cases caller with
  | outside => exact tried.atMostTwice
  | operation retried => exact tried

theorem attempted_tried {retried : Bool} {transport : ℕ} {outcome : OpOutcome}
    (tried : (Caller.operation retried).Tried thread log) :
    (afterAttempt retried transport outcome).Tried thread
      (log ++ [.attempted thread transport outcome]) := by
  have appended : attempts thread (log ++ [.attempted thread transport outcome]) =
      attempts thread log ++ [(transport, outcome)] := by
    simp [attempts, Event.attempts]
  cases retried with
  | false =>
      have once : attempts thread (log ++ [.attempted thread transport outcome]) =
          [(transport, outcome)] := by
        rw [appended, show attempts thread log = [] from tried, List.nil_append]
      unfold afterAttempt
      split
      · next failure => exact ⟨outcome, once, by simpa using failure⟩
      · exact .inl (by simp [once])
  | true =>
      obtain ⟨first, once, failure⟩ := tried
      exact .inr ⟨first, (transport, outcome), by rw [appended, once]; rfl,
        failure⟩

theorem Move.tried (move : Move thread slot phase next after events)
    (tried : phase.Tried thread log) : after.Tried thread (log ++ events) := by
  cases move with
  | launched isIdle pair =>
      rcases pair with ⟨rfl, rfl⟩ | ⟨caller, rfl, rfl⟩
      · exact (Phase.Tried.append rfl tried).atMostTwice
      · exact Caller.Tried.append rfl tried
  | found ready => exact granted_tried (Caller.Tried.append rfl tried)
  | slept connecting => exact Caller.Tried.append rfl tried
  | woken => exact Caller.Tried.append rfl tried
  | asked => exact (Phase.Tried.append rfl tried).2
  | began => exact (Phase.Tried.append rfl tried).2
  | connected isOpen => exact granted_tried (Caller.Tried.append rfl tried)
  | late flying isClosed quiet =>
      refine (Phase.Tried.append ?_ tried).atMostTwice
      rcases quiet with rfl | ⟨error, rfl⟩ <;> rfl
  | failed flying isOpen outcome quiet =>
      refine (Phase.Tried.append ?_ tried).atMostTwice
      rcases quiet with rfl | ⟨error, rfl⟩ <;> rfl
  | evicted ready pair =>
      rcases pair with ⟨rfl, rfl⟩ | ⟨rfl, rfl⟩
      · exact (Phase.Tried.append rfl tried).atMostTwice
      · obtain ⟨outcome, once, failure⟩ := tried
        exact ⟨_, (attempts_append _ _).trans (by rw [once]; rfl), failure⟩
  | spared different pair =>
      rcases pair with ⟨rfl, rfl⟩ | ⟨rfl, rfl⟩
      · exact (Phase.Tried.append rfl tried).atMostTwice
      · obtain ⟨outcome, once, failure⟩ := tried
        exact ⟨_, (attempts_append _ _).trans (by rw [once]; rfl), failure⟩
  | attempted => exact attempted_tried tried
  | _ => exact (Phase.Tried.append rfl tried).atMostTwice

theorem Move.others {other : ℕ}
    (move : Move thread slot phase next after events) (different : other ≠ thread) :
    attempts other events = [] := by
  cases move with
  | attempted => simp [attempts, Event.attempts, different.symm]
  | late flying isClosed quiet =>
      rcases quiet with rfl | ⟨error, rfl⟩ <;> rfl
  | failed flying isOpen outcome quiet =>
      rcases quiet with rfl | ⟨error, rfl⟩ <;> rfl
  | _ => rfl

/-! All of this in every run. -/

theorem Move.closes {closer : ℕ}
    (move : Move thread slot phase next after events)
    (wasClosed : slot.state = .closed ∨ .closed closer ∈ events) :
    next.state = .closed := by
  cases move with
  | closed => rfl
  | launched isIdle pair => simp [isIdle] at wasClosed
  | delivered failed => simp [failed] at wasClosed
  | late flying isClosed quiet => exact isClosed
  | connectedEager isOpen => simp [isOpen] at wasClosed
  | connected isOpen => simp [isOpen] at wasClosed
  | failed flying isOpen outcome quiet =>
      rcases quiet with rfl | ⟨error, rfl⟩ <;> simp [isOpen] at wasClosed
  | evicted ready pair => simp [ready] at wasClosed
  | _ => simpa [notifyAll] using wasClosed

structure Sound (log : List Event) (config : Config SftpConnection Phase) :
    Prop where
  flying : Flying config
  watched : Watched config
  succeeding : Succeeding log config.shared
  tried : ∀ thread phase, config.threads thread = some phase →
    phase.Tried thread log
  unborn : ∀ thread, config.threads thread = none → attempts thread log = []
  closed : ∀ thread, .closed thread ∈ log → config.shared.state = .closed

theorem sound_initial : Sound [] initial where
  flying := by
    constructor
    · intro first second key holds
      cases holds
    · simp [initial, new, Config.holdings]
  watched := by
    intro thread caller since found
    cases found
  succeeding := ⟨rfl, none, rfl, fun _ => rfl⟩
  tried := by
    intro thread phase found
    cases found
  unborn := fun _ _ => rfl
  closed := by
    intro thread logged
    cases logged

theorem Sound.spawn {config : Config SftpConnection Phase} {call : Call}
    (sound : Sound log config) (free : config.threads thread = none) :
    Sound (log ++ [.invoked thread call])
      ⟨config.shared,
        Function.update config.threads thread (some (.called call))⟩ := by
  have silent : ∀ other, attempts other [.invoked thread call] = [] :=
    fun _ => rfl
  have grounded := Config.holdings_unchanged config.shared
    (show (Phase.called call).flight? = config.holdings Phase.flight? thread by
      simp [Config.holdings, free, Phase.flight?])
  constructor
  · exact ⟨by rw [grounded]; exact sound.flying.single,
      by rw [grounded]; exact sound.flying.shown⟩
  · intro other caller since found
    rcases of_update_eq_some found with ⟨-, same⟩ | ⟨-, before⟩
    · cases same
    · obtain ⟨bounded, asleep⟩ := sound.watched other caller since before
      refine ⟨bounded, fun equal => (asleep equal).imp_right ?_⟩
      rintro ⟨notifier, notifying⟩
      refine ⟨notifier, (Function.update_of_ne ?_ _ _).trans notifying⟩
      rintro rfl
      cases free.symm.trans notifying
  · exact sound.succeeding.quiet rfl rfl rfl fun isOpen => ⟨isOpen, rfl⟩
  · refine everywhere_update ⟨by simp, ?_⟩ fun other phase _ found =>
      (sound.tried other phase found).append (silent other)
    rw [attempts_append, sound.unborn thread free, silent]
    rfl
  · intro other unborn
    rw [attempts_append, silent, List.append_nil]
    refine sound.unborn other ?_
    rcases eq_or_ne other thread with rfl | different
    · exact free
    · exact (Function.update_of_ne different _ _).symm.trans unborn
  · intro other logged
    exact sound.closed other (by simpa using logged)

theorem Sound.advance {config : Config SftpConnection Phase}
    (sound : Sound log config) (running : config.threads thread = some phase)
    (move : Move thread config.shared phase next after events) :
    Sound (log ++ events)
      ⟨next, Function.update config.threads thread (some after)⟩ := by
  constructor
  · exact sound.flying.advance running move
  · exact sound.watched.advance running move
  · refine sound.succeeding.step (fun flying isOpen => ?_) move
    exact (sound.flying.shown isOpen).mpr
      ⟨thread, (Config.holdings_of_running running _).trans flying⟩
  · refine everywhere_update (move.tried (sound.tried thread phase running)) ?_
    intro other current different found
    exact (sound.tried other current found).append (move.others different)
  · intro other unborn
    have different : other ≠ thread := by
      rintro rfl
      cases (Function.update_self _ _ _).symm.trans unborn
    rw [attempts_append, move.others different, List.append_nil]
    exact sound.unborn other
      ((Function.update_of_ne different _ _).symm.trans unborn)
  · intro closer logged
    apply move.closes
    cases List.mem_append.mp logged with
    | inl earlier => exact .inl (sound.closed closer earlier)
    | inr now => exact .inr now

theorem Sound.step {config final : Config SftpConnection Phase}
    {action : ThreadAction Phase Choice} (sound : Sound log config)
    (stepped : program.machine.step config action = some (final, events)) :
    Sound (log ++ events) final := by
  rcases Program.machine_step_cases stepped with
    ⟨thread, start, -, free, admitted, rfl, rfl⟩ |
    ⟨thread, choice, current, shared, after, -, running, moved, rfl⟩
  · cases start with
    | called call => exact sound.spawn free
    | _ => cases admitted
  · exact sound.advance running (step_move moved)

/-- What an event says of the log before it. -/
def Event.Explained (before : List Event) : Event → Prop
  | .obtained _ _ => ∀ other, .closed other ∉ before
  | .evicted thread transport =>
      Suspects before thread transport ∧
        connections before = evictions before ++ [transport]
  | _ => True

theorem Phase.Tried.suspects {transport : ℕ}
    (tried : (Phase.evicting transport).Tried thread log) :
    Suspects log thread transport := by
  obtain ⟨outcome, once, failure⟩ := tried
  refine .inr ⟨outcome, ?_, failure⟩
  exact mem_attempts.mp (once ▸ List.mem_singleton_self (transport, outcome))

theorem Move.obtained_inv {other transport : ℕ}
    (move : Move thread slot phase next after events)
    (obtained : .obtained other transport ∈ events) (closer : ℕ) :
    slot.state ≠ .closed ∧ .closed closer ∉ events := by
  cases move with
  | found ready => simp [ready]
  | connected isOpen => simp [isOpen]
  | late flying isClosed quiet =>
      rcases quiet with rfl | ⟨error, rfl⟩ <;> simp at obtained
  | failed flying isOpen outcome quiet =>
      rcases quiet with rfl | ⟨error, rfl⟩ <;> simp at obtained
  | _ => simp at obtained

theorem Move.evicted_inv {other transport : ℕ}
    (move : Move thread slot phase next after events)
    (evicted : .evicted other transport ∈ events) :
    other = thread ∧ events = [.evicted thread transport] ∧
      slot.state = .ready transport ∧
      (phase = .called (.invalidateIfReady transport) ∨
        phase = .evicting transport) := by
  cases move with
  | evicted ready pair =>
      obtain ⟨rfl, rfl⟩ := Event.evicted.inj (List.mem_singleton.mp evicted)
      exact ⟨rfl, rfl, ready, pair.imp And.left And.left⟩
  | late flying isClosed quiet =>
      rcases quiet with rfl | ⟨error, rfl⟩ <;> simp at evicted
  | failed flying isOpen outcome quiet =>
      rcases quiet with rfl | ⟨error, rfl⟩ <;> simp at evicted
  | _ => simp at evicted

theorem Move.explained (move : Move thread slot phase next after events)
    (tried : phase.Tried thread log) (succeeding : Succeeding log slot)
    (closed : ∀ thread, .closed thread ∈ log → slot.state = .closed)
    {before rest : List Event} {event : Event}
    (split : events = before ++ event :: rest) :
    event.Explained (log ++ before) := by
  have member : event ∈ events := by simp [split]
  cases event with
  | obtained other transport =>
      intro closer logged
      obtain ⟨isOpen, silent⟩ := move.obtained_inv member closer
      cases List.mem_append.mp logged with
      | inl earlier => exact isOpen (closed closer earlier)
      | inr now => exact silent (split ▸ List.mem_append_left _ now)
  | evicted other transport =>
      obtain ⟨rfl, single, ready, asked⟩ := move.evicted_inv member
      obtain rfl : before = [] := by
        rw [single] at split
        cases before with
        | nil => rfl
        | cons head tail => simp at split
      rw [List.append_nil]
      refine ⟨?_, succeeding.evict ready⟩
      rcases asked with rfl | rfl
      · exact .inl tried.1
      · exact tried.suspects
  | _ => trivial

/-- What the slot promises to those who share it. -/
structure SharedCorrectly (log : List Event)
    (config : Config SftpConnection Phase) : Prop where
  closedForGood : ∀ closer, .closed closer ∈ log → config.shared.state = .closed
  refusedOnceClosed : ∀ before after thread transport,
    log = before ++ .obtained thread transport :: after →
      ∀ closer, .closed closer ∉ before
  oneConnector : Exclusive (config.holdings Phase.flight?)
  connectingIff : config.shared.state ≠ .closed →
    (config.shared.state = .connecting ↔
      ∃ thread, config.holdings Phase.flight? thread = some ())
  watched : ∀ thread caller since,
    config.threads thread = some (.waiting caller since) →
      ¬ since < config.shared.notified →
        config.shared.state = .connecting ∨
          ∃ other, config.threads other = some .notifying
  evictsOwn : ∀ before after thread transport,
    log = before ++ .evicted thread transport :: after →
      Suspects before thread transport ∧
        connections before = evictions before ++ [transport]
  rebuilds : (connections log).Nodup ∧ evictions log <+: connections log ∧
    (connections log).length ≤ (evictions log).length + 1
  atMostTwice : ∀ thread, AtMostTwice (attempts thread log)

/-- In every run a closed slot stays closed, an open one connects once at a time,
nobody sleeps through the result, and each transport is evicted at most once, by
one whose operation has failed on it. -/
theorem slot_shared_correctly {config : Config SftpConnection Phase}
    {actions : List (ThreadAction Phase Choice)}
    (run : program.machine.Run initial actions log config) :
    SharedCorrectly log config := by
  have preserved : ∀ log config action next events, Sound log config →
      program.machine.step config action = some (next, events) →
        Sound (log ++ events) next := fun _ _ _ _ _ => Sound.step
  have sound := run.invariant sound_initial preserved
  have explained : ∀ before event after, log = before ++ event :: after →
      event.Explained before := by
    refine Machine.Run.history sound_initial preserved ?_ run
    intro log config action next events sound stepped before event after split
    rcases Program.machine_step_cases stepped with
      ⟨thread, start, -, -, admitted, -, rfl⟩ |
      ⟨thread, choice, current, shared, phase, -, running, moved, -⟩
    · cases start with
      | called call =>
          have member : event ∈ [Event.invoked thread call] := by
            rw [show [Event.invoked thread call] = _ from split]
            simp
          obtain rfl := List.mem_singleton.mp member
          trivial
      | _ => cases admitted
    · exact (step_move moved).explained (sound.tried thread current running)
        sound.succeeding sound.closed split
  obtain ⟨numbered, last, split, -⟩ := sound.succeeding
  refine ⟨sound.closed, ?_, sound.flying.single, sound.flying.shown, ?_, ?_, ?_,
    ?_⟩
  · intro before after thread transport divided
    exact explained before _ after divided
  · intro thread caller since found unnotified
    obtain ⟨bounded, asleep⟩ := sound.watched thread caller since found
    exact asleep (by omega)
  · intro before after thread transport divided
    exact explained before _ after divided
  · refine ⟨?_, ?_, ?_⟩
    · rw [numbered]
      exact List.nodup_range
    · rw [split]
      exact List.prefix_append _ _
    · rw [split, List.length_append]
      have short := Option.length_toList_le (o := last)
      omega
  · intro thread
    cases running : config.threads thread with
    | none => exact .inl (by simp [sound.unborn thread running])
    | some phase => exact (sound.tried thread phase running).atMostTwice

/-- Two operations share a connection that fails both of them: the first to look
makes a new one, the second finds that, and the slot is closed. -/
def sharedFailure : List (ThreadAction Phase Choice) :=
  [.spawn 0 (.called .connectEager), .advance 0 {},
    .spawn 1 (.called (.runControlOp "session")), .advance 1 {}, .advance 1 {},
    .advance 0 {}, .spawn 2 (.called (.runControlOp "session")), .advance 2 {},
    .advance 2 {}, .advance 1 {}, .advance 1 {},
    .advance 1 { opError := some ⟨.sftpChannelError, "session closed"⟩ },
    .advance 2 { opError := some ⟨.sftpChannelError, "session closed"⟩ },
    .advance 1 {}, .advance 1 {}, .advance 1 {}, .advance 2 {}, .advance 2 {},
    .advance 2 {}, .advance 1 {}, .spawn 3 (.called .close), .advance 3 {}]

theorem slot_shared_correctly_rebuilt :
    ∃ config log, program.machine.Run initial sharedFailure log config ∧
      connections log = [0, 1] ∧ evictions log = [0] ∧
      attempts 2 log =
        [(0, .failed ⟨.sftpChannelError, "session closed"⟩), (1, .done)] ∧
      SharedCorrectly log config := by
  have executed : ∃ config log,
      program.machine.Run initial sharedFailure log config ∧
      connections log = [0, 1] ∧ evictions log = [0] ∧
      attempts 2 log =
        [(0, .failed ⟨.sftpChannelError, "session closed"⟩), (1, .done)] :=
    ⟨_, _, Machine.run_of_execute rfl, rfl, rfl, rfl⟩
  obtain ⟨config, log, run, made, evicted, tried⟩ := executed
  exact ⟨config, log, run, made, evicted, tried, slot_shared_correctly run⟩

end SftpConnection

end TitanSSH
