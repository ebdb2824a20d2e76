import TitanSSH.Core.Sftp.Service

namespace TitanSSH.Sftp

/-! The target path of an upload: how the service composes it, and how the window
takes it apart again for a retry. -/

variable {directory fileName : String}

theorem fullRemotePath_slash (ends : directory.toList.getLast? = some '/') :
    (fullRemotePath directory fileName).toList =
      directory.toList ++ fileName.toList := by
  simp [fullRemotePath, ends]

theorem fullRemotePath_plain (ends : directory.toList.getLast? ≠ some '/') :
    (fullRemotePath directory fileName).toList =
      directory.toList ++ '/' :: fileName.toList := by
  simp [fullRemotePath, ends]

def stem (directory : String) : List Char :=
  if directory.toList.getLast? = some '/' then directory.toList.dropLast
  else directory.toList

theorem fullRemotePath_eq (directory fileName : String) :
    (fullRemotePath directory fileName).toList =
      stem directory ++ '/' :: fileName.toList := by
  unfold stem
  split
  · next ends =>
      rw [fullRemotePath_slash ends, List.append_cons]
      congr 1
      exact (List.dropLast_append_getLast? '/' ends).symm
  · next ends => exact fullRemotePath_plain ends

theorem uploadTargetDir_composed (directory fileName : String) :
    (uploadTargetDir (fullRemotePath directory fileName) fileName).toList =
      if stem directory = [] then ['/'] else stem directory := by
  unfold uploadTargetDir
  simp only [fullRemotePath_eq]
  have ends : ('/' :: fileName.toList).isSuffixOf
      (stem directory ++ '/' :: fileName.toList) = true :=
    List.isSuffixOf_iff_suffix.mpr (List.suffix_append _ _)
  rw [ends, Bool.true_and]
  cases found : stem directory with
  | nil => simp
  | cons first rest =>
      have longer : ('/' :: fileName.toList).length <
          (first :: rest ++ '/' :: fileName.toList).length := by
        simp only [List.length_append, List.length_cons]
        omega
      rw [if_pos (decide_eq_true longer), if_neg (List.cons_ne_nil _ _),
        List.length_append, Nat.add_sub_cancel, List.take_left]
      simp

theorem fullRemotePath_retried (directory fileName : String) :
    fullRemotePath (uploadTargetDir (fullRemotePath directory fileName) fileName)
        fileName = fullRemotePath directory fileName ↔
      (stem directory).getLast? ≠ some '/' := by
  rw [String.ext_iff, fullRemotePath_eq directory]
  cases found : stem directory with
  | nil =>
      have back := uploadTargetDir_composed directory fileName
      rw [found, if_pos rfl] at back
      rw [fullRemotePath_slash (by rw [back]; rfl), back]
      simp
  | cons first rest =>
      have back := uploadTargetDir_composed directory fileName
      rw [found, if_neg (List.cons_ne_nil _ _)] at back
      by_cases ends : (first :: rest).getLast? = some '/'
      · rw [fullRemotePath_slash (by rw [back]; exact ends), back]
        simp [ends]
      · rw [fullRemotePath_plain (by rw [back]; exact ends), back]
        simp [ends]

theorem stem_ends_iff :
    (stem directory).getLast? = some '/' ↔
      ['/', '/'] <:+ directory.toList := by
  unfold stem
  constructor
  · intro ends
    split at ends
    · next last =>
        obtain ⟨front, split⟩ := List.getLast?_eq_some_iff.mp ends
        refine ⟨front, ?_⟩
        rw [← List.dropLast_append_getLast? '/' last, split]
        simp
    · next other => exact absurd ends other
  · rintro ⟨front, split⟩
    rw [← split]
    simp

/-! The calls: what the service makes of an upload, and of its retry. -/

def retryUpload (task : TransferTask) : Call :=
  .enqueueUpload task.sessionId task.localPath
    (uploadTargetDir task.remotePath task.fileName)

variable {thread : ℕ} {choice : Choice} {shared : SftpShared}
variable {sessionId localPath : String} {request : TransferRequest}

theorem stepEnqueueUpload_accepted {after : SftpShared} {events : List Event}
    (accepted : stepEnqueueUpload thread choice shared sessionId localPath
      directory = (after, .checkTarget request, events)) :
    request = ⟨sessionId, .upload,
      fullRemotePath directory (fileNameOr localPath), localPath,
      fileNameOr localPath, choice.localSize⟩ := by
  unfold stepEnqueueUpload accept at accepted
  split at accepted
  · simp [refuse] at accepted
  · split at accepted
    · simp only [Prod.mk.injEq, Phase.checkTarget.injEq] at accepted
      exact accepted.2.1.symm
    · simp [refuse] at accepted

theorem retryUpload_newTask (accepted : stepEnqueueUpload thread choice shared
      sessionId localPath directory = (shared, .checkTarget request, [])) :
    retryUpload (newTask choice request) =
      .enqueueUpload sessionId localPath
        (uploadTargetDir (fullRemotePath directory (fileNameOr localPath))
          (fileNameOr localPath)) := by
  rw [stepEnqueueUpload_accepted accepted]
  rfl

/-- A retry or an overwrite goes back to the path of the original upload unless the
directory ended in two slashes. -/
theorem retried_path_iff (directory fileName : String) :
    fullRemotePath (uploadTargetDir (fullRemotePath directory fileName) fileName)
        fileName = fullRemotePath directory fileName ↔
      ¬ ['/', '/'] <:+ directory.toList := by
  rw [fullRemotePath_retried, Ne, stem_ends_iff]

/-- The upload of `a.txt` to `//` goes to `//a.txt`, its retry to `/a.txt`. -/
theorem retried_path_doubled_slash :
    ¬ ∀ directory fileName : String, fileName ≠ "" → '/' ∉ fileName.toList →
      fullRemotePath
          (uploadTargetDir (fullRemotePath directory fileName) fileName)
          fileName = fullRemotePath directory fileName := by
  intro same
  have composed := same "//" "a.txt" (by decide) (by decide)
  rw [fullRemotePath_retried] at composed
  exact composed (by decide)

end TitanSSH.Sftp
