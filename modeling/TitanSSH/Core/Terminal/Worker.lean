import TitanSSH.Errors.AppError
import TitanSSH.Library.Interleaving
import TitanSSH.Library.Utf8
import TitanSSH.Models.Session

namespace TitanSSH

/-! The loop of a connected terminal worker, with the queue that other threads
send it commands through. The channel is in non-blocking mode. -/

inductive TerminalCommand
  | write (data : String)
  | resize (cols rows : UInt32)
  | close
  deriving DecidableEq, Repr

inductive ChannelWrite
  | took (count : ℕ)
  | interrupted
  | failed (error : String)
  deriving DecidableEq, Repr

structure CommandIo where
  writes : List ChannelWrite := []
  flush : Option String := none
  resize : Option AppError := none
  deriving DecidableEq, Repr

inductive ReadResult
  | bytes (chunk : List UInt8)
  | wouldBlock
  | failed (error : String)
  deriving DecidableEq, Repr

inductive WorkerPhase
  | reading
  | draining
  | finished
  deriving DecidableEq, Repr

structure TerminalWorker where
  phase : WorkerPhase
  queue : List TerminalCommand
  status : SessionStatus
  deriving DecidableEq, Repr

inductive TerminalEvent
  | queued (command : TerminalCommand)
  | data (chunk : List UInt8) (text : String)
  | wrote (data : String) (io : CommandIo)
  | resized (cols rows : UInt32)
  | status (status : SessionStatus) (message : Option String)
  | closed
  deriving DecidableEq, Repr

inductive WorkerAction
  /-- Another thread sends a command. -/
  | send (command : TerminalCommand)
  /-- The shutdown flag is seen at the head of the loop. -/
  | stop
  | read (result : ReadResult)
  /-- The next command of the queue is taken and carried out. -/
  | take (io : CommandIo)
  /-- The queue is empty; the loop asks for the end of the stream. -/
  | checkEof (eof : Bool)
  deriving DecidableEq, Repr

def asBytes (data : String) : List UInt8 :=
  Utf8.encode data.toList

/-- The bytes that the channel takes of the data, and the error that stops it
before their end. Calls beyond the script take all that is left. -/
def writeAll : List ChannelWrite → List UInt8 → List UInt8 × Option String
  | _, [] => ([], none)
  | [], byte :: rest => (byte :: rest, none)
  | .interrupted :: calls, byte :: rest => writeAll calls (byte :: rest)
  | .failed error :: _, _ :: _ => ([], some error)
  | .took 0 :: _, _ :: _ => ([], some "failed to write whole buffer")
  | .took (count + 1) :: calls, byte :: rest =>
      match writeAll calls ((byte :: rest).drop (count + 1)) with
      | (taken, outcome) => ((byte :: rest).take (count + 1) ++ taken, outcome)

/-- `Ssh2Terminal::write`: write it all, then flush. -/
def terminalWrite (io : CommandIo) (data : String) : Except AppError Unit :=
  match (writeAll io.writes (asBytes data)).2 with
  | some error => .error ⟨.ioError, error⟩
  | none =>
      match io.flush with
      | some error => .error ⟨.ioError, error⟩
      | none => .ok ()

namespace TerminalWorker

def connected : TerminalWorker where
  phase := .reading
  queue := []
  status := .connected

def bufferSize : ℕ := 4096

def readStep (worker : TerminalWorker) :
    ReadResult → Option (TerminalWorker × List TerminalEvent)
  | .bytes chunk =>
      if bufferSize < chunk.length then none
      else if chunk.isEmpty then some ({ worker with phase := .draining }, [])
      else
        some ({ worker with phase := .draining },
          [.data chunk (String.ofList (Utf8.decodeLossy chunk))])
  | .wouldBlock => some ({ worker with phase := .draining }, [])
  | .failed error =>
      some ({ worker with phase := .finished, status := .disconnected },
        [.status .disconnected (some error), .closed])

/-- A failed write or resize is reported, and the loop goes on. -/
def commandStep (io : CommandIo) (worker : TerminalWorker) :
    TerminalCommand → TerminalWorker × List TerminalEvent
  | .write data =>
      match terminalWrite io data with
      | .ok () => (worker, [.wrote data io])
      | .error error =>
          ({ worker with status := .error },
            [.wrote data io, .status .error (some error.toString)])
  | .resize cols rows =>
      match io.resize with
      | none => (worker, [.resized cols rows])
      | some error =>
          ({ worker with status := .error },
            [.status .error (some error.toString)])
  | .close =>
      ({ worker with phase := .finished, status := .disconnected },
        [.closed, .status .disconnected none])

def step (worker : TerminalWorker) :
    WorkerAction → Option (TerminalWorker × List TerminalEvent)
  | .send command =>
      match worker.phase with
      | .finished => some (worker, [])
      | _ =>
          some ({ worker with queue := worker.queue ++ [command] },
            [.queued command])
  | .stop =>
      match worker.phase with
      | .reading => some ({ worker with phase := .finished }, [.closed])
      | _ => none
  | .read result =>
      match worker.phase with
      | .reading => worker.readStep result
      | _ => none
  | .take io =>
      match worker.phase, worker.queue with
      | .draining, command :: rest =>
          some (commandStep io { worker with queue := rest } command)
      | _, _ => none
  | .checkEof eof =>
      match worker.phase, worker.queue with
      | .draining, [] =>
          if eof then
            some ({ worker with phase := .finished, status := .disconnected },
              [.status .disconnected (some "连接已断开"), .closed])
          else some ({ worker with phase := .reading }, [])
      | _, _ => none

def machine :
    Interleaving.Machine TerminalWorker WorkerAction TerminalEvent where
  step := step

/-! What one step can do, one constructor for each branch of the loop. -/

inductive Move (worker : TerminalWorker) :
    TerminalWorker → List TerminalEvent → Prop
  | refused (finished : worker.phase = .finished) : Move worker worker []
  | queued {command} (running : worker.phase ≠ .finished) :
      Move worker { worker with queue := worker.queue ++ [command] }
        [.queued command]
  | stopped (reading : worker.phase = .reading) :
      Move worker { worker with phase := .finished } [.closed]
  | readNothing (reading : worker.phase = .reading) :
      Move worker { worker with phase := .draining } []
  | readChunk {chunk} (reading : worker.phase = .reading)
      (nonempty : chunk ≠ []) (fits : chunk.length ≤ bufferSize) :
      Move worker { worker with phase := .draining }
        [.data chunk (String.ofList (Utf8.decodeLossy chunk))]
  | readFailed {error} (reading : worker.phase = .reading) :
      Move worker { worker with phase := .finished, status := .disconnected }
        [.status .disconnected (some error), .closed]
  | wrote {data rest io} (draining : worker.phase = .draining)
      (head : worker.queue = .write data :: rest)
      (written : terminalWrite io data = .ok ()) :
      Move worker { worker with queue := rest } [.wrote data io]
  | writeFailed {data rest io error} (draining : worker.phase = .draining)
      (head : worker.queue = .write data :: rest)
      (failed : terminalWrite io data = .error error) :
      Move worker { worker with queue := rest, status := .error }
        [.wrote data io, .status .error (some error.toString)]
  | resized {cols rows rest} (draining : worker.phase = .draining)
      (head : worker.queue = .resize cols rows :: rest) :
      Move worker { worker with queue := rest } [.resized cols rows]
  | resizeFailed {cols rows rest error} (draining : worker.phase = .draining)
      (head : worker.queue = .resize cols rows :: rest) :
      Move worker { worker with queue := rest, status := .error }
        [.status .error (some (AppError.toString error))]
  | closed {rest} (draining : worker.phase = .draining)
      (head : worker.queue = .close :: rest) :
      Move worker
        { phase := .finished, queue := rest, status := .disconnected }
        [.closed, .status .disconnected none]
  | resumed (draining : worker.phase = .draining)
      (drained : worker.queue = []) :
      Move worker { worker with phase := .reading } []
  | ended (draining : worker.phase = .draining) (drained : worker.queue = []) :
      Move worker { worker with phase := .finished, status := .disconnected }
        [.status .disconnected (some "连接已断开"), .closed]

variable {worker next : TerminalWorker} {events : List TerminalEvent}

theorem readStep_move {result : ReadResult}
    (reading : worker.phase = .reading)
    (stepped : worker.readStep result = some (next, events)) :
    Move worker next events := by
  cases result with
  | bytes chunk =>
      simp only [readStep] at stepped
      split at stepped
      · cases stepped
      · rename_i fits
        split at stepped
        · cases stepped
          exact .readNothing reading
        · rename_i nonempty
          cases stepped
          exact .readChunk reading (by simpa using nonempty)
            (Nat.le_of_not_lt fits)
  | wouldBlock =>
      cases stepped
      exact .readNothing reading
  | failed error =>
      cases stepped
      exact .readFailed reading

theorem commandStep_move {command : TerminalCommand}
    {rest : List TerminalCommand} {io : CommandIo}
    (draining : worker.phase = .draining)
    (head : worker.queue = command :: rest)
    (handled : commandStep io { worker with queue := rest } command =
      (next, events)) : Move worker next events := by
  cases command with
  | write data =>
      simp only [commandStep] at handled
      split at handled
      · rename_i written
        cases handled
        exact .wrote draining head written
      · rename_i error failed
        cases handled
        exact .writeFailed draining head failed
  | resize cols rows =>
      simp only [commandStep] at handled
      split at handled
      · cases handled
        exact .resized draining head
      · cases handled
        exact .resizeFailed draining head
  | close =>
      cases handled
      exact .closed draining head

theorem step_move {action : WorkerAction}
    (stepped : step worker action = some (next, events)) :
    Move worker next events := by
  cases action with
  | send command =>
      simp only [step] at stepped
      split at stepped
      · rename_i finished
        cases stepped
        exact .refused finished
      · rename_i running
        cases stepped
        exact .queued running
  | stop =>
      simp only [step] at stepped
      split at stepped
      · rename_i reading
        cases stepped
        exact .stopped reading
      · cases stepped
  | read result =>
      simp only [step] at stepped
      split at stepped
      · rename_i reading
        exact readStep_move reading stepped
      · cases stepped
  | take io =>
      simp only [step] at stepped
      split at stepped
      · rename_i command rest draining head
        exact commandStep_move draining head (Option.some.inj stepped)
      · cases stepped
  | checkEof eof =>
      simp only [step] at stepped
      split at stepped
      · rename_i draining drained
        split at stepped
        · cases stepped
          exact .ended draining drained
        · cases stepped
          exact .resumed draining drained
      · cases stepped

end TerminalWorker

end TitanSSH
