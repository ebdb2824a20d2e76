import TitanSSH.Errors.AppError

namespace TitanSSH

structure RemoteEntry where
  name : String
  path : String
  isDir : Bool
  size : ℕ
  modifiedAt : ℤ
  permissions : String
  deriving DecidableEq

inductive ConflictStrategy
  | reject
  | overwrite
  deriving DecidableEq, Repr

instance : Inhabited ConflictStrategy := ⟨.reject⟩

inductive TransferType
  | upload
  | download
  deriving DecidableEq, Repr

inductive SftpTaskStatus
  | pending
  | running
  | done
  | failed
  | cancelled
  deriving DecidableEq, Repr

structure TransferTask where
  taskId : String
  sessionId : String
  transferType : TransferType
  remotePath : String
  localPath : String
  fileName : String
  totalBytes : ℕ
  transferredBytes : ℕ
  speedBps : ℕ
  status : SftpTaskStatus
  error : Option AppErrorInfo
  createdAt : ℤ
  deriving DecidableEq

/-- The directory that the target path of an upload was composed from. -/
def uploadTargetDir (remotePath fileName : String) : String :=
  let path := remotePath.toList
  let suffix := '/' :: fileName.toList
  if suffix.isSuffixOf path && suffix.length < path.length then
    String.ofList (path.take (path.length - suffix.length))
  else "/"

structure SftpTaskStatusEvent where
  taskId : String
  sessionId : String
  status : SftpTaskStatus
  error : Option AppErrorInfo
  deriving DecidableEq

structure SftpProgressEvent where
  taskId : String
  sessionId : String
  transferredBytes : ℕ
  totalBytes : ℕ
  speedBps : ℕ
  deriving DecidableEq

end TitanSSH
