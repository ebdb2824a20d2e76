import TitanSSH.Errors.AppError
import TitanSSH.Models.Host

namespace TitanSSH

/-! `hosts.json`, as the JSON library reads and writes it: a host list that is
written parses back to itself. -/

inductive HostsContent
  | document (hosts : List HostConfig)
  | malformed (error : String)
  deriving DecidableEq, Repr

structure HostStore where
  file : Option HostsContent
  deriving DecidableEq, Repr

/-- The step of a save that fails. The file is written in place, so a write
that fails may leave anything behind. -/
inductive HostsWriteFault
  | serialize (error : String)
  | write (error : String) (left : Option HostsContent)
  deriving DecidableEq, Repr

/-- What the file system does during one call. -/
structure HostStoreIo where
  /-- `exists` answers no when the file cannot be examined. -/
  examinable : Bool := true
  readError : Option String := none
  writeFault : Option HostsWriteFault := none
  deriving DecidableEq, Repr

namespace HostStore

def load (io : HostStoreIo) (store : HostStore) :
    Except AppError (List HostConfig) :=
  match io.examinable, store.file with
  | false, _ => .ok []
  | true, none => .ok []
  | true, some content =>
      match io.readError, content with
      | some error, _ =>
          .error ⟨.storageError, "读取主机配置文件失败: " ++ error⟩
      | none, .malformed error =>
          .error ⟨.storageError, "解析主机配置文件失败: " ++ error⟩
      | none, .document hosts => .ok hosts

def save (io : HostStoreIo) (hosts : List HostConfig) (store : HostStore) :
    Except AppError Unit × HostStore :=
  match io.writeFault with
  | some (.serialize error) =>
      (.error ⟨.storageError, "序列化主机配置失败: " ++ error⟩, store)
  | some (.write error left) =>
      (.error ⟨.storageError, "写入主机配置文件失败: " ++ error⟩,
        { store with file := left })
  | none => (.ok (), { store with file := some (.document hosts) })

theorem save_error (failed : save io hosts store = (.error error, after)) :
    error.kind = .storageError ∧
      ((∀ reason left, io.writeFault = some (.write reason left) →
        left = store.file) → after = store) := by
  cases fault : io.writeFault with
  | none => simp [save, fault] at failed
  | some writeFault =>
      cases writeFault with
      | serialize reason =>
          simp only [save, fault, Prod.mk.injEq, Except.error.injEq] at failed
          obtain ⟨rfl, rfl⟩ := failed
          exact ⟨rfl, fun _ => rfl⟩
      | write reason left =>
          simp only [save, fault, Prod.mk.injEq, Except.error.injEq] at failed
          obtain ⟨rfl, rfl⟩ := failed
          refine ⟨rfl, fun atomic => ?_⟩
          rw [atomic reason left rfl]

theorem load_error (failed : load io store = .error error) :
    error.kind = .storageError := by
  unfold load at failed
  split at failed
  · cases failed
  · cases failed
  · split at failed <;> cases failed <;> rfl

end HostStore

end TitanSSH
