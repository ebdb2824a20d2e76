import TitanSSH.Errors.AppError
import TitanSSH.Library.KeyedStore

namespace TitanSSH

def passwordKey (hostId : String) : String :=
  "titanssh-" ++ hostId ++ "-password"

def passphraseKey (hostId : String) : String :=
  "titanssh-" ++ hostId ++ "-passphrase"

/-! The Linux credential store: the Secret Service, and behind it the kernel
keyring for when no daemon answers. -/

inductive KeyringErrorKind
  | platformFailure
  | noStorageAccess
  | noEntry
  | other
  deriving DecidableEq, Repr

/-- A keyring error with the text it displays. -/
structure KeyringError where
  kind : KeyringErrorKind
  text : String
  deriving DecidableEq, Repr

/-- How one store meets one call: building the entry may fail, and so may the
operation on it. A failure leaves the store as it was. -/
structure EntryIo where
  buildError : Option KeyringError := none
  operationError : Option KeyringError := none
  deriving DecidableEq, Repr

structure ChainIo where
  primary : EntryIo := {}
  fallback : EntryIo := {}
  deriving DecidableEq, Repr

structure CredentialChain where
  primary : KeyedStore String String
  fallback : KeyedStore String String

def KeyringError.noEntryFound : KeyringError :=
  ⟨.noEntry, "No matching entry found in secure storage"⟩

def isSecretServiceUnavailable (error : KeyringError) : Bool :=
  error.kind == .platformFailure || error.kind == .noStorageAccess

def secureStoreError (error : KeyringError) : AppError :=
  ⟨.secureStoreError, error.text⟩

namespace EntryIo

def build (io : EntryIo) : Except KeyringError Unit :=
  match io.buildError with
  | some error => .error error
  | none => .ok ()

def setPassword (io : EntryIo) (key value : String)
    (cells : KeyedStore String String) :
    Except KeyringError Unit × KeyedStore String String :=
  match io.operationError with
  | some error => (.error error, cells)
  | none => (.ok (), cells.insert key value)

def getPassword (io : EntryIo) (key : String)
    (cells : KeyedStore String String) : Except KeyringError String :=
  match io.operationError, cells key with
  | some error, _ => .error error
  | none, none => .error .noEntryFound
  | none, some value => .ok value

def deleteCredential (io : EntryIo) (key : String)
    (cells : KeyedStore String String) :
    Except KeyringError Unit × KeyedStore String String :=
  match io.operationError, cells key with
  | some error, _ => (.error error, cells)
  | none, none => (.error .noEntryFound, cells)
  | none, some _ => (.ok (), cells.erase key)

end EntryIo

namespace CredentialChain

def writeFallback (io : ChainIo) (key value : String)
    (chain : CredentialChain) : Except AppError Unit × CredentialChain :=
  match io.fallback.build with
  | .error error => (.error (secureStoreError error), chain)
  | .ok () =>
      match io.fallback.setPassword key value chain.fallback with
      | (.error error, cells) =>
          (.error (secureStoreError error), { chain with fallback := cells })
      | (.ok (), cells) => (.ok (), { chain with fallback := cells })

def setWithFallback (io : ChainIo) (key value : String)
    (chain : CredentialChain) : Except AppError Unit × CredentialChain :=
  match io.primary.build with
  | .error error =>
      if isSecretServiceUnavailable error then
        chain.writeFallback io key value
      else (.error (secureStoreError error), chain)
  | .ok () =>
      match io.primary.setPassword key value chain.primary with
      | (.ok (), cells) => (.ok (), { chain with primary := cells })
      | (.error error, cells) =>
          if isSecretServiceUnavailable error then
            { chain with primary := cells }.writeFallback io key value
          else (.error (secureStoreError error), { chain with primary := cells })

def readFallback (io : ChainIo) (key : String) (chain : CredentialChain) :
    Except AppError String :=
  match io.fallback.build with
  | .error error => .error (secureStoreError error)
  | .ok () =>
      match io.fallback.getPassword key chain.fallback with
      | .ok value => .ok value
      | .error error =>
          if error.kind = .noEntry then .error ⟨.credentialNotFound, key⟩
          else .error (secureStoreError error)

def getWithFallback (io : ChainIo) (key : String) (chain : CredentialChain) :
    Except AppError String :=
  match io.primary.build with
  | .error error =>
      if isSecretServiceUnavailable error then chain.readFallback io key
      else .error (secureStoreError error)
  | .ok () =>
      match io.primary.getPassword key chain.primary with
      | .ok value => .ok value
      | .error error =>
          if error.kind = .noEntry then chain.readFallback io key
          else if isSecretServiceUnavailable error then
            chain.readFallback io key
          else .error (secureStoreError error)

/-- Delete from one store, keeping the first error that counts. -/
def attemptDelete (io : EntryIo) (key : String) (firstError : Option AppError)
    (cells : KeyedStore String String) :
    Option AppError × KeyedStore String String :=
  match io.build with
  | .error error =>
      if isSecretServiceUnavailable error then (firstError, cells)
      else (firstError.or (some (secureStoreError error)), cells)
  | .ok () =>
      match io.deleteCredential key cells with
      | (.ok (), remaining) => (firstError, remaining)
      | (.error error, remaining) =>
          if error.kind = .noEntry then (firstError, remaining)
          else if isSecretServiceUnavailable error then (firstError, remaining)
          else (firstError.or (some (secureStoreError error)), remaining)

def deleteWithFallback (io : ChainIo) (key : String)
    (chain : CredentialChain) : Except AppError Unit × CredentialChain :=
  match attemptDelete io.primary key none chain.primary with
  | (primaryError, primary) =>
      match attemptDelete io.fallback key primaryError chain.fallback with
      | (none, fallback) => (.ok (), ⟨primary, fallback⟩)
      | (some error, fallback) => (.error error, ⟨primary, fallback⟩)

end CredentialChain

end TitanSSH
