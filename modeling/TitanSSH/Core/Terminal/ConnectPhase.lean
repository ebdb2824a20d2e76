import Mathlib.Data.List.Infix
import TitanSSH.Models.Session

namespace TitanSSH

/-! The phases of a connection attempt, and what a failure in one of them is
reported as. -/

namespace ConnectionPhase

/-- A connection attempt goes through its phases in this order. -/
def rank : ConnectionPhase → ℕ
  | loadingCredentials => 0
  | connectingTcp => 1
  | sshHandshake => 2
  | verifyingHostKey => 3
  | authenticating => 4
  | openingChannel => 5
  | requestingPty => 6
  | startingShell => 7

theorem eq_verifyingHostKey {phase : ConnectionPhase} :
    phase = verifyingHostKey ↔ phase.rank = verifyingHostKey.rank := by
  cases phase <;> decide

def message : ConnectionPhase → String
  | loadingCredentials => "正在读取凭据..."
  | connectingTcp => "正在建立 TCP 连接..."
  | sshHandshake => "正在进行 SSH 握手..."
  | verifyingHostKey => "正在验证主机身份..."
  | authenticating => "正在进行 SSH 认证..."
  | openingChannel => "正在打开终端通道..."
  | requestingPty => "正在请求终端 PTY..."
  | startingShell => "正在启动 Shell..."

def timeoutMessage : ConnectionPhase → String
  | loadingCredentials => "读取系统凭据超时"
  | connectingTcp => "建立 TCP 连接超时"
  | sshHandshake => "SSH 握手超时"
  | authenticating => "SSH 认证超时"
  | openingChannel => "打开终端通道超时"
  | requestingPty => "请求终端 PTY 超时"
  | startingShell => "启动 Shell 超时"
  | verifyingHostKey => "连接超时"

end ConnectionPhase

def isTimeoutMessage (message : String) : Bool :=
  let normalized := message.toList.map Char.toLower
  decide ("connection timeout".toList <:+: normalized) ||
    decide ("timed out".toList <:+: normalized) ||
    decide ("超时".toList <:+: message.toList)

def mapPhaseErrorToStatus (phase : ConnectionPhase) (error : AppError) :
    SessionStatus × String :=
  match error.kind with
  | .authenticationError => (.authFailed, "认证失败: " ++ error.detail)
  | .sshConnectionError =>
      if isTimeoutMessage error.detail then (.timeout, phase.timeoutMessage)
      else (.error, "网络连接失败: " ++ error.detail)
  | .sshProtocolError =>
      if isTimeoutMessage error.detail then (.timeout, phase.timeoutMessage)
      else (.error, phase.message ++ ": " ++ error.detail)
  | .secureStoreError =>
      if isTimeoutMessage error.detail then (.timeout, phase.timeoutMessage)
      else (.error, "凭据读取失败: " ++ error.detail)
  | .hostKeyRejected => (.error, "已拒绝未知主机身份: " ++ error.detail)
  | .hostKeyVerificationCancelled =>
      (.error, "主机身份验证已随会话关闭取消")
  | .credentialNotFound =>
      (.error,
        "凭据不存在（" ++ error.detail ++ "），请重新编辑主机配置以重新保存密码")
  | _ => (.error, error.toString)

theorem mapPhaseErrorToStatus_ends (phase : ConnectionPhase) (error : AppError) :
    (mapPhaseErrorToStatus phase error).1 ≠ .connected ∧
      (mapPhaseErrorToStatus phase error).1 ≠ .connecting := by
  unfold mapPhaseErrorToStatus
  split
  all_goals first | (split <;> simp) | simp

end TitanSSH
