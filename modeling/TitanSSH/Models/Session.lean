import TitanSSH.Errors.AppError

namespace TitanSSH

inductive SessionStatus
  | connecting
  | connected
  | authFailed
  | disconnected
  | timeout
  | error
  deriving DecidableEq, Repr

inductive ConnectionPhase
  | loadingCredentials
  | connectingTcp
  | sshHandshake
  | verifyingHostKey
  | authenticating
  | openingChannel
  | requestingPty
  | startingShell
  deriving DecidableEq, Repr

structure SessionInfo where
  sessionId : String
  hostId : String
  host : String
  port : UInt16
  username : String
  status : SessionStatus
  createdAt : ℤ
  deriving DecidableEq, Repr

structure SessionStatusEvent where
  sessionId : String
  status : SessionStatus
  error : Option AppErrorInfo
  deriving DecidableEq, Repr

structure SessionProgressEvent where
  sessionId : String
  phase : ConnectionPhase
  timestamp : ℤ
  deriving DecidableEq, Repr

/-- How far a connection has come, or why it failed. -/
structure SessionConnection where
  phase : Option ConnectionPhase
  error : Option AppErrorInfo
  deriving DecidableEq, Repr

end TitanSSH
