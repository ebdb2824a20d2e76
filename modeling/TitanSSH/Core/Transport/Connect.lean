import TitanSSH.Core.HostIdentity.Service
import TitanSSH.Models.Host
import TitanSSH.Models.Session

namespace TitanSSH

open Interleaving

/-! How a connection is made: TCP, the SSH handshake, the verification of the
host key by the service that decides it, and only then authentication. -/

namespace Transport

abbrev SocketAddr := String

inductive IoErrorKind
  | timedOut
  | wouldBlock
  | other
  deriving DecidableEq, Repr

structure IoError where
  kind : IoErrorKind
  message : String
  deriving DecidableEq, Repr

def sshConnectTimeoutSecs : ℕ := 10

def isTimeoutError (error : IoError) : Bool :=
  error.kind == .timedOut || error.kind == .wouldBlock

def buildConnectError (sawTimeout : Bool) (lastError : Option IoError)
    (timeoutSecs : ℕ) : AppError :=
  if sawTimeout then
    ⟨.sshConnectionError,
      "Connection timeout after " ++ toString timeoutSecs ++ "s"⟩
  else
    ⟨.sshConnectionError, "连接失败: " ++
      (lastError.elim "unknown TCP connection error" (·.message))⟩

def resolveSocketAddrs (host : HostConfig)
    (resolved : Except String (List SocketAddr)) :
    Except AppError (List SocketAddr) :=
  match resolved with
  | .error message => .error ⟨.ioError, message⟩
  | .ok [] =>
      .error ⟨.sshConnectionError,
        "连接失败: 未解析到可用地址 " ++ host.host ++ ":" ++ toString host.port⟩
  | .ok addrs => .ok addrs

/-- The loop over the addresses, with what it has seen so far. -/
def attemptAddrs (connect : SocketAddr → Except IoError Unit) :
    List SocketAddr → Bool → Option IoError → Except AppError SocketAddr
  | [], sawTimeout, lastError =>
      .error (buildConnectError sawTimeout lastError sshConnectTimeoutSecs)
  | addr :: rest, sawTimeout, _ =>
      match connect addr with
      | .ok () => .ok addr
      | .error error =>
          attemptAddrs connect rest (sawTimeout || isTimeoutError error)
            (some error)

def connectTcpStream (connect : SocketAddr → Except IoError Unit)
    (addrs : List SocketAddr) : Except AppError SocketAddr :=
  attemptAddrs connect addrs false none

/-- `connect_terminal`, `connect_sftp` or `connect_exec`. -/
inductive Capability
  | terminal
  | sftp
  | exec
  deriving DecidableEq, Repr

inductive SetupStage
  | openingChannel
  | requestingPty
  | startingShell
  | sftp
  deriving DecidableEq, Repr

def SetupStage.phase? : SetupStage → Option ConnectionPhase
  | .openingChannel => some .openingChannel
  | .requestingPty => some .requestingPty
  | .startingShell => some .startingShell
  | .sftp => none

def SetupStage.error (message : String) : SetupStage → AppError
  | .sftp => ⟨.sftpChannelError, message⟩
  | _ => ⟨.sshProtocolError, message⟩

def Capability.setup : Capability → List SetupStage
  | .terminal => [.openingChannel, .requestingPty, .startingShell]
  | .sftp => [.sftp]
  | .exec => []

/-- A call of one of the three, with the session that its verifier is for. -/
structure Connection where
  capability : Capability
  sessionId : String
  host : HostConfig
  password : Option String
  passphrase : Option String
  deriving DecidableEq, Repr

inductive Credential
  | password (username : String) (secret : String)
  | keyFile (username : String) (path : String) (passphrase : Option String)
  deriving DecidableEq, Repr

/-- The credential of a connection, or why there is none. -/
def Connection.credential (connection : Connection) :
    Except AppError Credential :=
  match connection.host.authType with
  | .password =>
      match connection.password with
      | none => .error ⟨.invalidHostConfig, "密码为必填项"⟩
      | some secret => .ok (.password connection.host.username secret)
  | .privateKey =>
      match connection.host.privateKeyPath with
      | none => .error ⟨.invalidHostConfig, "私钥路径为必填项"⟩
      | some path =>
          .ok (.keyFile connection.host.username path connection.passphrase)

inductive Phase (scheme : HostKeyScheme)
  | connecting (connection : Connection)
  | handshake (connection : Connection)
  | presenting (connection : Connection) (key : Option (List UInt8))
  -- the verifier runs on the thread that connects
  | verifying (connection : Connection) (blob : List UInt8)
      (call : HostIdentity.Phase scheme)
  | authenticating (connection : Connection) (blob : List UInt8)
  | setup (connection : Connection) (remaining : List SetupStage)
  | connected (connection : Connection)
  | failed (connection : Connection) (error : AppError)
  -- any other call of the service
  | calling (call : HostIdentity.Phase scheme)

inductive Event (scheme : HostKeyScheme)
  | identity (event : HostIdentity.Event scheme)
  | reported (thread : ℕ) (phase : ConnectionPhase)
  | handshaken (thread : ℕ) (connection : Connection)
      (key : Option (List UInt8))
  | offered (thread : ℕ) (connection : Connection) (credential : Credential)
  | ended (thread : ℕ) (connection : Connection) (failure : Option AppError)

/-- What a step cannot determine itself: the network, the server and libssh2. -/
structure Choice where
  identity : HostIdentity.Choice := {}
  resolved : Except String (List SocketAddr) := .ok []
  connect : SocketAddr → Except IoError Unit := fun _ => .ok ()
  socketFailure : Option String := none
  sessionFailure : Option String := none
  hostKey : Option (List UInt8) := none
  authFailure : Option String := none
  authenticated : Bool := true
  setupFailure : Option String := none

variable {scheme : HostKeyScheme}

abbrev Outcome (scheme : HostKeyScheme) :=
  IdentityShared scheme × Phase scheme × List (Event scheme)

/-- Only a terminal has its phases reported. -/
def report (thread : ℕ) (connection : Connection) (phase : ConnectionPhase) :
    List (Event scheme) :=
  if connection.capability = .terminal then [.reported thread phase] else []

def fail (thread : ℕ) (shared : IdentityShared scheme) (connection : Connection)
    (error : AppError) (events : List (Event scheme)) : Outcome scheme :=
  (shared, .failed connection error,
    events ++ [.ended thread connection (some error)])

def stepConnecting (thread : ℕ) (choice : Choice)
    (shared : IdentityShared scheme) (connection : Connection) :
    Outcome scheme :=
  let reported := report thread connection .connectingTcp
  match resolveSocketAddrs connection.host choice.resolved with
  | .error error => fail thread shared connection error reported
  | .ok addrs =>
      match connectTcpStream choice.connect addrs with
      | .error error => fail thread shared connection error reported
      | .ok _ =>
          match choice.socketFailure with
          | some message =>
              fail thread shared connection ⟨.ioError, message⟩ reported
          | none => (shared, .handshake connection, reported)

def stepHandshake (thread : ℕ) (choice : Choice)
    (shared : IdentityShared scheme) (connection : Connection) :
    Outcome scheme :=
  let reported := report thread connection .sshHandshake
  match choice.sessionFailure with
  | some message =>
      fail thread shared connection ⟨.sshProtocolError, message⟩ reported
  | none =>
      (shared, .presenting connection choice.hostKey,
        reported ++ [.handshaken thread connection choice.hostKey])

def Connection.present (scheme : HostKeyScheme) (connection : Connection)
    (blob : List UInt8) : PresentedHostKey scheme :=
  scheme.present connection.host.host connection.host.port blob

def Connection.request (scheme : HostKeyScheme) (connection : Connection)
    (blob : List UInt8) : HostIdentity.Request scheme :=
  .verify connection.sessionId (connection.present scheme blob)

def stepPresenting (thread : ℕ) (shared : IdentityShared scheme)
    (connection : Connection) (key : Option (List UInt8)) : Outcome scheme :=
  let reported := report thread connection .verifyingHostKey
  match key with
  | none =>
      fail thread shared connection ⟨.sshProtocolError,
        "服务器未提供主机密钥，无法验证主机身份，已阻止认证"⟩ reported
  | some blob =>
      let request := connection.request scheme blob
      (shared, .verifying connection blob (.entered request),
        reported ++ [.identity (.started thread request)])

def stepVerifying (thread : ℕ) (choice : Choice)
    (shared : IdentityShared scheme) (connection : Connection)
    (blob : List UInt8) (call : HostIdentity.Phase scheme) :
    Option (Outcome scheme) :=
  match call with
  | .returned _ (.result (.ok ())) =>
      some (shared, .authenticating connection blob, [])
  | .returned _ (.result (.error error)) =>
      some (fail thread shared connection error [])
  | _ =>
      match HostIdentity.step thread choice.identity shared call with
      | none => none
      | some (next, after, events) =>
          some (next, .verifying connection blob after,
            events.map .identity)

def stepAuthenticating (thread : ℕ) (choice : Choice)
    (shared : IdentityShared scheme) (connection : Connection) :
    Outcome scheme :=
  let reported := report thread connection .authenticating
  match connection.credential with
  | .error error => fail thread shared connection error reported
  | .ok credential =>
      let offered := reported ++ [.offered thread connection credential]
      match choice.authFailure with
      | some message =>
          fail thread shared connection ⟨.authenticationError, message⟩ offered
      | none =>
          if choice.authenticated then
            (shared, .setup connection connection.capability.setup, offered)
          else
            fail thread shared connection ⟨.authenticationError, "SSH 认证失败"⟩
              offered

def stepSetup (thread : ℕ) (choice : Choice) (shared : IdentityShared scheme)
    (connection : Connection) (remaining : List SetupStage) : Outcome scheme :=
  match remaining with
  | [] => (shared, .connected connection, [.ended thread connection none])
  | stage :: rest =>
      let reported := stage.phase?.elim [] (report thread connection)
      match choice.setupFailure with
      | some message =>
          fail thread shared connection (stage.error message) reported
      | none => (shared, .setup connection rest, reported)

def stepCalling (thread : ℕ) (choice : Choice) (shared : IdentityShared scheme)
    (call : HostIdentity.Phase scheme) : Option (Outcome scheme) :=
  match HostIdentity.step thread choice.identity shared call with
  | none => none
  | some (next, after, events) =>
      some (next, .calling after, events.map .identity)

def step (thread : ℕ) (choice : Choice) (shared : IdentityShared scheme) :
    Phase scheme → Option (Outcome scheme)
  | .connecting connection =>
      some (stepConnecting thread choice shared connection)
  | .handshake connection => some (stepHandshake thread choice shared connection)
  | .presenting connection key =>
      some (stepPresenting thread shared connection key)
  | .verifying connection blob call =>
      stepVerifying thread choice shared connection blob call
  | .authenticating connection _ =>
      some (stepAuthenticating thread choice shared connection)
  | .setup connection remaining =>
      some (stepSetup thread choice shared connection remaining)
  | .connected _ => none
  | .failed _ _ => none
  | .calling call => stepCalling thread choice shared call

/-- Connections under way beside the calls that decide about their keys. -/
def connections (scheme : HostKeyScheme) :
    Program (IdentityShared scheme) (Phase scheme) Choice (Event scheme) where
  admits
    | .connecting _ => true
    | .calling call => (HostIdentity.service scheme).admits call
    | _ => false
  opened thread
    | .calling call =>
        ((HostIdentity.service scheme).opened thread call).map .identity
    | _ => []
  step := step

def initial (trustStore : Option TrustStore) :
    Config (IdentityShared scheme) (Phase scheme) :=
  ⟨(HostIdentity.initial trustStore).shared, fun _ => none⟩

end Transport

end TitanSSH
