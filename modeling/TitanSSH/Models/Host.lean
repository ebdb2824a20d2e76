import TitanSSH.Errors.AppError

namespace TitanSSH

inductive AuthType
  | password
  | privateKey
  deriving DecidableEq, Repr

/-- A stored host; its credentials stand in it by reference only. -/
structure HostConfig where
  id : String
  name : String
  host : String
  port : UInt16
  username : String
  authType : AuthType
  passwordRef : Option String
  privateKeyPath : Option String
  passphraseRef : Option String
  remark : Option String
  group : String
  deriving DecidableEq, Repr

namespace HostConfig

/-- The reading of the credentials under the references of a host, with what is
said of a missing password and whether a key path is asked for before the
passphrase is read. -/
def readCredentials (missing : String) (asksPath : Bool)
    (getCredential : String → Except AppError String) (host : HostConfig) :
    Except AppError (Option String × Option String) :=
  match host.authType with
  | .password =>
      match host.passwordRef with
      | none => .error ⟨.invalidHostConfig, missing⟩
      | some key => (getCredential key).map (some ·, none)
  | .privateKey =>
      if asksPath && host.privateKeyPath.isNone then
        .error ⟨.invalidHostConfig, "私钥路径为必填项"⟩
      else
        match host.passphraseRef with
        | none => .ok (none, none)
        | some key => (getCredential key).map (none, some ·)

/-- The reading of `connect_sftp_for_host`, and of `start_monitoring`. -/
def credentials (getCredential : String → Except AppError String)
    (host : HostConfig) : Except AppError (Option String × Option String) :=
  host.readCredentials "密码引用为空" false getCredential

end HostConfig

structure SaveHostRequest where
  id : String
  name : String
  host : String
  port : UInt16
  username : String
  authType : AuthType
  password : Option String
  privateKeyPath : Option String
  passphrase : Option String
  remark : Option String
  group : String
  deriving DecidableEq, Repr

end TitanSSH
