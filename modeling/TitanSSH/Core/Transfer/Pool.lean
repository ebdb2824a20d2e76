import Mathlib.Data.List.MinMax
import TitanSSH.Errors.AppError
import TitanSSH.Library.FiniteMap
import TitanSSH.Library.Interleaving

namespace TitanSSH

/-! The transfer pool of a session.  Times count nanoseconds, and a transport
stands for its allocation: the number of those made before it. -/

def maxTransferConnectionsPerSession : ℕ := 5

def transferIdleTimeout : ℕ := 60000000000

def maxSleep : ℕ := 1000000000

structure ConnectionSlot where
  transport : Option ℕ
  lastUsed : ℕ
  deriving DecidableEq

structure WaiterWake where
  signaled : Bool
  cancelled : Bool
  deriving DecidableEq

/-- A waiter's `wake` is named by the thread whose checkout allocated it. -/
structure Waiter where
  queueSeq : ℕ
  wake : ℕ
  deriving DecidableEq

structure TransferCheckout where
  seq : ℕ
  transport : ℕ
  deriving DecidableEq

inductive CheckoutError
  | closed
  | cancelled
  | connect (error : AppError)
  deriving DecidableEq

structure PoolState where
  connections : FiniteMap ℕ ConnectionSlot
  waiters : List Waiter
  closed : Bool
  reaperRunning : Bool

namespace PoolState

def empty : PoolState :=
  ⟨.empty, [], false, false⟩

def baseSeq (state : PoolState) : Option ℕ :=
  state.connections.first? fun _ _ => true

def idleMinSeq (state : PoolState) : Option ℕ :=
  state.connections.first? fun _ slot => slot.transport.isSome

/-- The slots that a checkout has reserved or holds. -/
def busySeqs (state : PoolState) : Finset ℕ :=
  state.connections.keysWhere fun _ slot => slot.transport.isNone

def hasIdleExtra (state : PoolState) : Bool :=
  match state.baseSeq with
  | none => false
  | some base =>
      state.connections.any fun seq slot =>
        seq != base && slot.transport.isSome

def earliestIdleExpiry (state : PoolState) (idleTimeout : ℕ) : Option ℕ :=
  match state.baseSeq with
  | none => none
  | some base =>
      FiniteMap.least? (state.connections.collect fun seq slot =>
        if seq ≠ base ∧ slot.transport.isSome then
          some (slot.lastUsed + idleTimeout)
        else none)

def isIdleExpired (lastUsed now idleTimeout : ℕ) : Bool :=
  decide (idleTimeout ≤ now - lastUsed)

def expired (state : PoolState) (idleTimeout now : ℕ) : Finset ℕ :=
  match state.baseSeq with
  | none => ∅
  | some base =>
      state.connections.keysWhere fun seq slot =>
        seq != base && slot.transport.isSome &&
          isIdleExpired slot.lastUsed now idleTimeout

def sweepExpiredLocked (state : PoolState) (idleTimeout now : ℕ) : PoolState :=
  { state with
    connections := state.connections.retain fun seq _ =>
      seq ∉ state.expired idleTimeout now }

def isFull (state : PoolState) : Bool :=
  decide (maxTransferConnectionsPerSession ≤ state.connections.size)

def setSlot (state : PoolState) (seq : ℕ) (slot : ConnectionSlot) :
    PoolState :=
  { state with connections := state.connections.insert seq slot }

def removeSlot (state : PoolState) (seq : ℕ) : PoolState :=
  { state with connections := state.connections.erase seq }

end PoolState

/-- A pool with what surrounds its lock: the counter of its connections, the
wakes of its waiters, the clock, the transports made so far, and the reaper
threads that have been spawned and have not run yet. -/
structure TransferPool where
  state : PoolState
  nextSeq : ℕ
  idleTimeout : ℕ
  wakes : ℕ → WaiterWake
  clock : ℕ
  transports : ℕ
  reapers : ℕ

namespace TransferPool

def newCyclic (idleTimeout : ℕ) : TransferPool :=
  ⟨.empty, 0, idleTimeout, fun _ => ⟨false, false⟩, 0, 0, 0⟩

/-- Where a thread stands between two critical sections of the pool. -/
inductive Phase
  | checkout (queueSeq : ℕ)
  | entering (queueSeq : ℕ) (firstAttempt : Bool)
  | waiting (queueSeq : ℕ)
  | connecting (seq : ℕ)
  | holding (checkout : TransferCheckout)
  | failed (error : CheckoutError)
  | returned
  | cancelWaiter (queueSeq : ℕ)
  | close
  | reaperSpawned
  | reaperChecking
  | reaperSleeping (wakeAt : ℕ)
  | finished
  deriving DecidableEq

inductive Event
  | called (thread queueSeq : ℕ)
  | swept (removed : Finset ℕ) (now : ℕ)
  | queued (thread queueSeq : ℕ)
  | reserved (thread seq : ℕ)
  | obtained (thread : ℕ) (checkout : TransferCheckout)
  | failed (thread : ℕ) (error : CheckoutError)
  | checkedIn (thread : ℕ) (checkout : TransferCheckout) (healthy : Bool)
  | closed
  deriving DecidableEq

/-- What a step cannot determine itself: the time that passes, whether a
connection comes about, and how the user of a connection returns it. -/
structure Choice where
  elapsed : ℕ := 0
  connectError : Option AppError := none
  healthy : Bool := true

abbrev Outcome := TransferPool × Phase × List Event

def setWaiters (pool : TransferPool) (waiters : List Waiter) : TransferPool :=
  { pool with state := { pool.state with waiters := waiters } }

def markCancelled (pool : TransferPool) (wake : ℕ) : TransferPool :=
  { pool with
    wakes := Function.update pool.wakes wake
      { pool.wakes wake with cancelled := true } }

def signalWaiter (pool : TransferPool) (wake : ℕ) : TransferPool :=
  { pool with
    wakes := Function.update pool.wakes wake
      { pool.wakes wake with signaled := true } }

def wakeNextWaiter (pool : TransferPool) : TransferPool :=
  match pool.state.waiters.argmin (·.queueSeq) with
  | none => pool
  | some waiter =>
      (pool.setWaiters (pool.state.waiters.erase waiter)).signalWaiter
        waiter.wake

def ensureReaperLocked (pool : TransferPool) : TransferPool :=
  if pool.state.reaperRunning || !pool.state.hasIdleExtra then pool
  else
    { pool with
      state := { pool.state with reaperRunning := true }
      reapers := pool.reapers + 1 }

/-- Reads the clock. -/
def tick (pool : TransferPool) (choice : Choice) : TransferPool :=
  { pool with clock := pool.clock + choice.elapsed }

def sweep (pool : TransferPool) : TransferPool :=
  { pool with
    state := pool.state.sweepExpiredLocked pool.idleTimeout pool.clock }

def sweepEvent (pool : TransferPool) : Event :=
  .swept (pool.state.expired pool.idleTimeout pool.clock) pool.clock

def stepCheckout (thread : ℕ) (pool : TransferPool) (queueSeq : ℕ) : Outcome :=
  ({ pool with wakes := Function.update pool.wakes thread ⟨false, false⟩ },
    .entering queueSeq true, [])

def enqueue (thread : ℕ) (pool : TransferPool) (queueSeq : ℕ)
    (events : List Event) : Outcome :=
  (pool.setWaiters (pool.state.waiters ++ [⟨queueSeq, thread⟩]),
    .waiting queueSeq, events ++ [.queued thread queueSeq])

def fail (thread : ℕ) (pool : TransferPool) (error : CheckoutError)
    (events : List Event) : Outcome :=
  (pool, .failed error, events ++ [.failed thread error])

def takeIdle (thread : ℕ) (pool : TransferPool) (seq : ℕ)
    (events : List Event) : Outcome :=
  match pool.state.connections.lookup seq with
  | none =>
      fail thread pool (.connect ⟨.sftpChannelError, "传输连接槽丢失"⟩) events
  | some slot =>
      match slot.transport with
      | none =>
          fail thread pool (.connect ⟨.sftpChannelError, "传输连接槽为空"⟩)
            events
      | some transport =>
          ({ pool with
              state := pool.state.setSlot seq { slot with transport := none } },
            .holding ⟨seq, transport⟩,
            events ++ [.obtained thread ⟨seq, transport⟩])

def reserve (thread : ℕ) (pool : TransferPool) (events : List Event) :
    Outcome :=
  ({ pool with
      state := pool.state.setSlot pool.nextSeq ⟨none, pool.clock⟩
      nextSeq := pool.nextSeq + 1 },
    .connecting pool.nextSeq, events ++ [.reserved thread pool.nextSeq])

/-- The part of a turn of `checkout` after the expired connections are gone. -/
def stepAdmit (thread : ℕ) (pool : TransferPool) (queueSeq : ℕ)
    (firstAttempt : Bool) (events : List Event) : Outcome :=
  if firstAttempt && !pool.state.waiters.isEmpty then
    enqueue thread pool queueSeq events
  else
    match pool.state.idleMinSeq with
    | some seq => takeIdle thread pool seq events
    | none =>
        if pool.state.isFull then enqueue thread pool queueSeq events
        else reserve thread pool events

def stepEntering (thread : ℕ) (choice : Choice) (pool : TransferPool)
    (queueSeq : ℕ) (firstAttempt : Bool) : Outcome :=
  if pool.state.closed then fail thread pool .closed []
  else
    let read := pool.tick choice
    stepAdmit thread read.sweep queueSeq firstAttempt [read.sweepEvent]

def stepWaiting (thread : ℕ) (pool : TransferPool) (queueSeq : ℕ) :
    Option Outcome :=
  if (pool.wakes thread).signaled then
    let woken := { pool with
      wakes := Function.update pool.wakes thread
        { pool.wakes thread with signaled := false } }
    if (pool.wakes thread).cancelled then
      some (fail thread woken .cancelled [])
    else some (woken, .entering queueSeq false, [])
  else none

/-- `create_connection` from the moment the connector has returned. -/
def stepConnecting (thread : ℕ) (choice : Choice) (pool : TransferPool)
    (seq : ℕ) : Outcome :=
  if pool.state.closed then
    fail thread { pool with state := pool.state.removeSlot seq } .closed []
  else
    match choice.connectError with
    | none =>
        ({ pool with transports := pool.transports + 1 },
          .holding ⟨seq, pool.transports⟩,
          [.obtained thread ⟨seq, pool.transports⟩])
    | some error =>
        fail thread
          ({ pool with state := pool.state.removeSlot seq } :
            TransferPool).wakeNextWaiter (.connect error) []

def checkin (pool : TransferPool) (choice : Choice)
    (checkout : TransferCheckout) (healthy : Bool) : TransferPool :=
  if pool.state.closed || !healthy then
    ({ pool with state := pool.state.removeSlot checkout.seq } :
      TransferPool).wakeNextWaiter
  else
    let read := pool.tick choice
    ({ read with
        state := read.state.setSlot checkout.seq
          ⟨some checkout.transport, read.clock⟩ } :
      TransferPool).wakeNextWaiter.ensureReaperLocked

def stepHolding (thread : ℕ) (choice : Choice) (pool : TransferPool)
    (checkout : TransferCheckout) : Outcome :=
  (pool.checkin choice checkout choice.healthy, .returned,
    [.checkedIn thread checkout choice.healthy])

def cancelWaiter (pool : TransferPool) (queueSeq : ℕ) : TransferPool :=
  match pool.state.waiters.find? (·.queueSeq == queueSeq) with
  | none => pool
  | some waiter =>
      let remaining := pool.state.waiters.eraseP (·.queueSeq == queueSeq)
      ((pool.setWaiters remaining).markCancelled waiter.wake).signalWaiter
        waiter.wake

def close (pool : TransferPool) : TransferPool :=
  (pool.state.waiters.map (·.wake)).foldl signalWaiter
    { pool with
      state := { pool.state with
        closed := true, connections := .empty, waiters := [] } }

def stopReaper (pool : TransferPool) : Outcome :=
  ({ pool with state := { pool.state with reaperRunning := false } },
    .finished, [])

def stepReaperChecking (choice : Choice) (pool : TransferPool) : Outcome :=
  if pool.state.closed then stopReaper pool
  else
    match pool.state.earliestIdleExpiry pool.idleTimeout with
    | none => stopReaper pool
    | some earliest =>
        let read := pool.tick choice
        (read,
          .reaperSleeping (read.clock + min (earliest - read.clock) maxSleep),
          [])

def stepReaperSleeping (choice : Choice) (pool : TransferPool) (wakeAt : ℕ) :
    Option Outcome :=
  let read := pool.tick choice
  if read.clock < wakeAt then none
  else if pool.state.closed then some (stopReaper read)
  else
    let swept := read.sweep
    if swept.state.hasIdleExtra then
      some (swept, .reaperChecking, [read.sweepEvent])
    else
      some ({ swept with
          state := { swept.state with reaperRunning := false } },
        .finished, [read.sweepEvent])

def step (thread : ℕ) (choice : Choice) (pool : TransferPool) :
    Phase → Option Outcome
  | .checkout queueSeq => some (stepCheckout thread pool queueSeq)
  | .entering queueSeq firstAttempt =>
      some (stepEntering thread choice pool queueSeq firstAttempt)
  | .waiting queueSeq => stepWaiting thread pool queueSeq
  | .connecting seq => some (stepConnecting thread choice pool seq)
  | .holding checkout => some (stepHolding thread choice pool checkout)
  | .cancelWaiter queueSeq => some (pool.cancelWaiter queueSeq, .finished, [])
  | .close => some (pool.close, .finished, [.closed])
  | .reaperSpawned =>
      if pool.reapers = 0 then none
      else some ({ pool with reapers := pool.reapers - 1 }, .reaperChecking, [])
  | .reaperChecking => some (stepReaperChecking choice pool)
  | .reaperSleeping wakeAt => stepReaperSleeping choice pool wakeAt
  | .failed _ => none
  | .returned => none
  | .finished => none

/-- The threads that use one pool: any number of checkouts, cancellations and
closings, and the reaper threads it spawns. -/
def program : Interleaving.Program TransferPool Phase Choice Event where
  admits
    | .checkout _ => true
    | .cancelWaiter _ => true
    | .close => true
    | .reaperSpawned => true
    | _ => false
  opened thread
    | .checkout queueSeq => [.called thread queueSeq]
    | _ => []
  step := step

def initial (idleTimeout : ℕ) : Interleaving.Config TransferPool Phase :=
  ⟨newCyclic idleTimeout, fun _ => none⟩

end TransferPool

end TitanSSH
