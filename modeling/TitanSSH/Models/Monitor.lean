import TitanSSH.Errors.AppError

namespace TitanSSH

structure NetworkInterface where
  name : String
  receiveBytesPerSecond : Option ℕ
  transmitBytesPerSecond : Option ℕ
  deriving DecidableEq

structure NetworkSnapshot where
  available : Bool
  interfaces : List NetworkInterface
  deriving DecidableEq

/-- The usages are percentages in floating point, of whatever type. -/
structure MonitorSnapshot (Usage : Type) where
  sessionId : String
  timestamp : ℤ
  cpuUsage : Option Usage
  memoryUsage : Option Usage
  diskUsage : Option Usage
  diskAvailableBytes : Option ℕ
  diskTotalBytes : Option ℕ
  network : NetworkSnapshot
  deriving DecidableEq

inductive TaskStatus
  | pending
  | running
  | done
  | failed
  deriving DecidableEq, Repr

structure TaskInfo where
  taskId : String
  taskType : String
  sessionId : Option String
  status : TaskStatus
  createdAt : ℤ
  deriving DecidableEq

structure TaskStatusEvent where
  taskId : String
  status : TaskStatus
  error : Option AppErrorInfo
  deriving DecidableEq

end TitanSSH
