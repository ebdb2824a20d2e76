import Mathlib.Logic.Equiv.Basic
import TitanSSH.Storage.KnownHosts

namespace TitanSSH

/-! The host key that the transport collects between handshake and
authentication, and the challenge that is made of it. -/

inductive HostKeyType
  | rsa
  | dss
  | ecdsa256
  | ecdsa384
  | ecdsa521
  | ed25519
  | unknown
  deriving DecidableEq, Repr

def algorithmName : HostKeyType → String
  | .rsa => "ssh-rsa"
  | .dss => "ssh-dss"
  | .ecdsa256 => "ecdsa-sha2-nistp256"
  | .ecdsa384 => "ecdsa-sha2-nistp384"
  | .ecdsa521 => "ecdsa-sha2-nistp521"
  | .ed25519 => "ssh-ed25519"
  | .unknown => "unknown"

/-- What third-party code makes of a key blob: libssh2 reads the key type off
it, and SHA-256 is taken to be free of collisions. -/
structure HostKeyScheme where
  sha256 : List UInt8 → List UInt8
  keyType : List UInt8 → HostKeyType
  collisionFree : Function.Injective sha256

namespace HostKeyScheme

variable (scheme : HostKeyScheme)

def fingerprintSha256 (blob : List UInt8) : String :=
  "SHA256:" ++ String.ofList (Base64.encode (scheme.sha256 blob))

def algorithm (blob : List UInt8) : String :=
  algorithmName (scheme.keyType blob)

theorem fingerprintSha256_injective :
    Function.Injective scheme.fingerprintSha256 := by
  intro left right equal
  have encodedEq : Base64.encode (scheme.sha256 left) =
      Base64.encode (scheme.sha256 right) := by
    simpa [fingerprintSha256, ← String.toList_inj] using equal
  exact scheme.collisionFree (Base64.encode_injective encodedEq)

def ed25519Blob (fill : UInt8) : List UInt8 :=
  [0, 0, 0, 11, 115, 115, 104, 45, 101, 100, 50, 53, 53, 49, 57, 0, 0, 0, 32] ++
    List.replicate 32 fill

/-- A scheme that is right about two keys, to run the model with. -/
def sample : HostKeyScheme where
  sha256 blob :=
    Equiv.swap (ed25519Blob 0x11)
      [73, 7, 194, 250, 244, 219, 45, 68, 103, 245, 196, 228, 87, 18, 18, 241,
        241, 144, 220, 82, 141, 0, 149, 158, 7, 74, 53, 223, 223, 160, 87, 131]
      (Equiv.swap (ed25519Blob 0x22)
        [13, 156, 153, 44, 118, 36, 131, 223, 11, 93, 224, 76, 173, 99, 219,
          215, 35, 46, 45, 148, 90, 187, 99, 9, 135, 56, 209, 1, 156, 15, 0,
          117] blob)
  keyType blob :=
    if blob.take 15 = (ed25519Blob 0).take 15 then .ed25519 else .unknown
  collisionFree := (Equiv.injective _).comp (Equiv.injective _)

end HostKeyScheme

structure PresentedHostKey (scheme : HostKeyScheme) where
  host : String
  port : UInt16
  algorithm : String
  fingerprint : String
  blob : List UInt8
  algorithm_eq : algorithm = scheme.algorithm blob
  fingerprint_eq : fingerprint = scheme.fingerprintSha256 blob

def HostKeyScheme.present (scheme : HostKeyScheme) (host : String)
    (port : UInt16) (blob : List UInt8) : PresentedHostKey scheme where
  host := host
  port := port
  algorithm := scheme.algorithm blob
  fingerprint := scheme.fingerprintSha256 blob
  blob := blob
  algorithm_eq := rfl
  fingerprint_eq := rfl

def HostKeyScheme.sampleKey (fill : UInt8) : PresentedHostKey .sample :=
  HostKeyScheme.sample.present "10.0.0.8" 22 (HostKeyScheme.ed25519Blob fill)

inductive HostIdentityChallengeKind
  | unknown
  | changed
  deriving DecidableEq, Repr

structure HostIdentityChallenge where
  challengeId : String
  sessionId : String
  host : String
  port : UInt16
  kind : HostIdentityChallengeKind
  keyAlgorithm : String
  fingerprint : String
  storedAlgorithm : Option String
  storedFingerprint : Option String
  timestamp : ℤ
  deriving DecidableEq, Repr

structure IdentityKey where
  sessionId : String
  host : String
  port : UInt16
  fingerprint : String
  deriving DecidableEq, Repr

def IdentityKey.fromChallenge (challenge : HostIdentityChallenge) :
    IdentityKey :=
  ⟨challenge.sessionId, challenge.host, challenge.port, challenge.fingerprint⟩

def IdentityKey.ofPresented {scheme : HostKeyScheme} (sessionId : String)
    (presented : PresentedHostKey scheme) : IdentityKey :=
  ⟨sessionId, presented.host, presented.port, presented.fingerprint⟩

inductive Decision
  | accepted
  | rejected
  | cancelled
  deriving DecidableEq, Repr

/-- The immutable part of a pending challenge.  Ids are unique, so that the
value also stands for the shared cell that its decision is written to. -/
structure ChallengeWait (scheme : HostKeyScheme) where
  challenge : HostIdentityChallenge
  presentedBlob : List UInt8
  algorithm_eq : challenge.keyAlgorithm = scheme.algorithm presentedBlob
  fingerprint_eq :
    challenge.fingerprint = scheme.fingerprintSha256 presentedBlob
  deriving DecidableEq

structure TrustedHostInfo where
  host : String
  port : UInt16
  algorithm : String
  fingerprint : String
  deriving DecidableEq, Repr

namespace ChallengeWait

variable {scheme : HostKeyScheme}

def id (wait : ChallengeWait scheme) : String :=
  wait.challenge.challengeId

def key (wait : ChallengeWait scheme) : IdentityKey :=
  .fromChallenge wait.challenge

def record (wait : ChallengeWait scheme) : TrustRecord :=
  ⟨wait.challenge.host, wait.challenge.port, wait.challenge.keyAlgorithm,
    wait.presentedBlob⟩

def create (sessionId : String) (presented : PresentedHostKey scheme)
    (stored : Option TrustRecord) (uuid : String) (now : ℤ) :
    ChallengeWait scheme where
  challenge :=
    { challengeId := uuid
      sessionId := sessionId
      host := presented.host
      port := presented.port
      kind := match stored with
        | some _ => .changed
        | none => .unknown
      keyAlgorithm := presented.algorithm
      fingerprint := presented.fingerprint
      storedAlgorithm := stored.map (·.algorithm)
      storedFingerprint := stored.map (scheme.fingerprintSha256 ·.blob)
      timestamp := now }
  presentedBlob := presented.blob
  algorithm_eq := presented.algorithm_eq
  fingerprint_eq := presented.fingerprint_eq

theorem session_of_key {wait : ChallengeWait scheme} {sessionId : String}
    {presented : PresentedHostKey scheme}
    (same : wait.key = .ofPresented sessionId presented) :
    wait.challenge.sessionId = sessionId :=
  congrArg IdentityKey.sessionId same

theorem record_of_key {wait : ChallengeWait scheme} {sessionId : String}
    {presented : PresentedHostKey scheme}
    (same : wait.key = .ofPresented sessionId presented) :
    wait.record = ⟨presented.host, presented.port, presented.algorithm,
      presented.blob⟩ := by
  simp only [key, IdentityKey.fromChallenge, IdentityKey.ofPresented,
    IdentityKey.mk.injEq] at same
  obtain ⟨-, hostEq, portEq, fingerprintEq⟩ := same
  rw [wait.fingerprint_eq, presented.fingerprint_eq] at fingerprintEq
  have blobEq := scheme.fingerprintSha256_injective fingerprintEq
  rw [record, wait.algorithm_eq, presented.algorithm_eq, hostEq, portEq, blobEq]

end ChallengeWait

end TitanSSH
