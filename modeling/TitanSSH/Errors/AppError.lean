import TitanSSH.Library.Text

namespace TitanSSH

inductive AppErrorKind
  | sshConnectionError
  | authenticationError
  | sessionNotFound
  | invalidHostConfig
  | storageError
  | ioError
  | sshProtocolError
  | secureStoreError
  | credentialNotFound
  | sftpChannelError
  | sftpPermissionDenied
  | sftpPathNotFound
  | sftpTransferError
  | sftpOpenError
  | sftpReadError
  | sftpWriteError
  | sftpCreateError
  | sftpTaskNotFound
  | sftpTargetExists
  | sftpTargetBusy
  | sftpPublishError
  | hostKeyRejected
  | hostKeyChallengeNotFound
  | hostKeyVerificationCancelled
  | trustStoreError
  | hostKeySaveFailed
  | hostTrustCleanupFailed
  deriving DecidableEq, Repr

/-- Every variant carries one text; `IoError` carries that of its I/O error. -/
structure AppError where
  kind : AppErrorKind
  detail : String
  deriving DecidableEq, Repr

structure AppErrorInfo where
  code : String
  detail : Option String
  deriving DecidableEq, Repr

namespace AppErrorKind

def code : AppErrorKind → String
  | sshConnectionError => "SshConnectionError"
  | authenticationError => "AuthenticationError"
  | sessionNotFound => "SessionNotFound"
  | invalidHostConfig => "InvalidHostConfig"
  | storageError => "StorageError"
  | ioError => "IoError"
  | sshProtocolError => "SshProtocolError"
  | secureStoreError => "SecureStoreError"
  | credentialNotFound => "CredentialNotFound"
  | sftpChannelError => "SftpChannelError"
  | sftpPermissionDenied => "SftpPermissionDenied"
  | sftpPathNotFound => "SftpPathNotFound"
  | sftpTransferError => "SftpTransferError"
  | sftpOpenError => "SftpOpenError"
  | sftpReadError => "SftpReadError"
  | sftpWriteError => "SftpWriteError"
  | sftpCreateError => "SftpCreateError"
  | sftpTaskNotFound => "SftpTaskNotFound"
  | sftpTargetExists => "SftpTargetExists"
  | sftpTargetBusy => "SftpTargetBusy"
  | sftpPublishError => "SftpPublishError"
  | hostKeyRejected => "HostKeyRejected"
  | hostKeyChallengeNotFound => "HostKeyChallengeNotFound"
  | hostKeyVerificationCancelled => "HostKeyVerificationCancelled"
  | trustStoreError => "TrustStoreError"
  | hostKeySaveFailed => "HostKeySaveFailed"
  | hostTrustCleanupFailed => "HostTrustCleanupFailed"

/-- What `Display` puts before the text. -/
def label : AppErrorKind → String
  | sshConnectionError => "SSH 连接失败: "
  | authenticationError => "认证失败: "
  | sessionNotFound => "会话不存在: "
  | invalidHostConfig => "主机配置无效: "
  | storageError => "存储错误: "
  | ioError => "IO 错误: "
  | sshProtocolError => "SSH 协议错误: "
  | secureStoreError => "安全存储错误: "
  | credentialNotFound => "凭据不存在: "
  | sftpChannelError => "SFTP 通道错误: "
  | sftpPermissionDenied => "SFTP 权限拒绝: "
  | sftpPathNotFound => "SFTP 路径不存在: "
  | sftpTransferError => "SFTP 传输错误: "
  | sftpOpenError => "SFTP 打开失败: "
  | sftpReadError => "SFTP 读取失败: "
  | sftpWriteError => "SFTP 写入失败: "
  | sftpCreateError => "SFTP 创建失败: "
  | sftpTaskNotFound => "SFTP 任务不存在: "
  | sftpTargetExists => "SFTP 目标已存在: "
  | sftpTargetBusy => "SFTP 目标正被占用: "
  | sftpPublishError => "SFTP 发布失败: "
  | hostKeyRejected => "已拒绝未知主机身份: "
  | hostKeyChallengeNotFound => "主机身份确认请求不存在: "
  | hostKeyVerificationCancelled => "主机身份验证已取消: "
  | trustStoreError => "信任存储错误: "
  | hostKeySaveFailed => "主机信任保存失败: "
  | hostTrustCleanupFailed => "主机信任记录清理失败: "

/-- What `Display` puts after the text. -/
def suffix : AppErrorKind → String
  | credentialNotFound => "，请重新编辑主机配置以重新保存凭据"
  | _ => ""

theorem code_injective : Function.Injective code := by
  intro left right equal
  cases left <;> cases right <;> first | rfl | simp [code] at equal

end AppErrorKind

namespace AppError

def code (error : AppError) : String :=
  error.kind.code

def toString (error : AppError) : String :=
  error.kind.label ++ error.detail ++ error.kind.suffix

def withAppendedDetail (error : AppError) (extra : String) : AppError where
  kind := error.kind
  detail := error.toString ++ "；" ++ extra

def toInfo (error : AppError) : AppErrorInfo where
  code := error.code
  detail := some error.detail

open Text

theorem toString_mentions_detail (error : AppError) :
    Mentions error.toString error.detail :=
  ((mentions_self error.detail).append_left _).append_right _

@[simp] theorem withAppendedDetail_kind (error : AppError) (extra : String) :
    (error.withAppendedDetail extra).kind = error.kind := rfl

theorem withAppendedDetail_mentions_detail (error : AppError)
    (extra : String) :
    Mentions (error.withAppendedDetail extra).detail error.detail :=
  (error.toString_mentions_detail.append_right _).append_right _

theorem withAppendedDetail_mentions_extra (error : AppError)
    (mentions : Mentions extra text) :
    Mentions (error.withAppendedDetail extra).detail text :=
  mentions.append_left _

end AppError

end TitanSSH
