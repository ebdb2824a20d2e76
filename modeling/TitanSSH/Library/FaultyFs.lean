import TitanSSH.Library.KeyedStore

/-! A file system whose operations may fail, shared with a third party that
may create, change or remove one contested path before any of them.  Every
change goes through the log. -/

namespace FaultyFs

variable {π : Type u} {β : Type v} {ε : Type w}

inductive Event (π : Type u) (β : Type v)
  | created (path : π)
  | wrote (path : π) (bytes : List β)
  | removed (path : π)
  | renamed (source target : π) (replaced : Option (List β))
  | probed (path : π) (found : Bool)
  | intruded (path : π) (node : Option (List β))
  deriving DecidableEq, Repr

structure World (π : Type u) (β : Type v) where
  contested : π
  initial : KeyedStore π (List β)
  log : List (Event π β)

/-- What happens at one operation: what the third party has done to the
contested path since the last one, and the error the operation fails with. -/
structure Tick (ε : Type w) (β : Type v) where
  intrusion : Option (Option (List β)) := none
  fault : Option ε := none

inductive Failure (ε : Type w)
  | missing
  | alreadyExists
  | fault (error : ε)
  deriving DecidableEq, Repr

/-- The own operations that change a path. -/
def Event.Touches (path : π) : Event π β → Prop
  | created other => other = path
  | wrote other _ => other = path
  | removed other => other = path
  | renamed source target _ => source = path ∨ target = path
  | probed _ _ => False
  | intruded _ _ => False

variable [DecidableEq π]

def Event.apply : Event π β → KeyedStore π (List β) → KeyedStore π (List β)
  | created path, files => files.insert path []
  | wrote path bytes, files =>
      Function.update files path ((files path).map (· ++ bytes))
  | removed path, files => files.erase path
  | renamed source target _, files =>
      KeyedStore.erase source (Function.update files target (files source))
  | probed _ _, files => files
  | intruded path node, files => Function.update files path node

/-- What the third party made of a path, in a log or before it. -/
def Event.intrusionAt (path : π) : Event π β → Option (Option (List β))
  | intruded other node => if other = path then some node else none
  | _ => none

namespace World

/-- The files are what the log has made of them. -/
def files (world : World π β) : KeyedStore π (List β) :=
  world.log.foldl (fun files event => event.apply files) world.initial

def leftByOthers (path : π) (world : World π β) : Option (List β) :=
  (world.log.filterMap (·.intrusionAt path)).getLast?.getD (world.initial path)

def record (event : Event π β) (world : World π β) : World π β where
  contested := world.contested
  initial := world.initial
  log := world.log ++ [event]

def meet (tick : Tick ε β) (world : World π β) : World π β :=
  match tick.intrusion with
  | none => world
  | some node => world.record (.intruded world.contested node)

def create (tick : Tick ε β) (path : π) (world : World π β) :
    Except (Failure ε) Unit × World π β :=
  match tick.fault with
  | some error => (.error (.fault error), world.meet tick)
  | none => (.ok (), (world.meet tick).record (.created path))

/-- A write that fails may have taken some of the bytes. -/
def write (tick : Tick ε β) (taken : ℕ) (path : π) (bytes : List β)
    (world : World π β) : Except (Failure ε) Unit × World π β :=
  match tick.fault with
  | some error =>
      (.error (.fault error),
        (world.meet tick).record (.wrote path (bytes.take taken)))
  | none => (.ok (), (world.meet tick).record (.wrote path bytes))

/-- An operation that only succeeds or fails, such as a flush. -/
def settle (tick : Tick ε β) (world : World π β) :
    Except (Failure ε) Unit × World π β :=
  match tick.fault with
  | some error => (.error (.fault error), world.meet tick)
  | none => (.ok (), world.meet tick)

def openFile (tick : Tick ε β) (path : π) (world : World π β) :
    Except (Failure ε) Unit × World π β :=
  match tick.fault, (world.meet tick).files path with
  | some error, _ => (.error (.fault error), world.meet tick)
  | none, none => (.error .missing, world.meet tick)
  | none, some _ => (.ok (), world.meet tick)

def probe (tick : Tick ε β) (path : π) (world : World π β) :
    Bool × World π β :=
  let found := ((world.meet tick).files path).isSome
  (found, (world.meet tick).record (.probed path found))

/-- The size of a file, or that there is none; a fault answers neither. -/
def stat (tick : Tick ε β) (path : π) (world : World π β) :
    Except (Failure ε) ℕ × World π β :=
  match tick.fault, (world.meet tick).files path with
  | some error, _ => (.error (.fault error), world.meet tick)
  | none, none =>
      (.error .missing, (world.meet tick).record (.probed path false))
  | none, some content =>
      (.ok content.length, (world.meet tick).record (.probed path true))

def remove (tick : Tick ε β) (path : π) (world : World π β) :
    Except (Failure ε) Unit × World π β :=
  match tick.fault, (world.meet tick).files path with
  | some error, _ => (.error (.fault error), world.meet tick)
  | none, none => (.error .missing, world.meet tick)
  | none, some _ => (.ok (), (world.meet tick).record (.removed path))

/-- Atomic; without `overwrite` it never replaces a file. -/
def rename (tick : Tick ε β) (overwrite : Bool) (source target : π)
    (world : World π β) : Except (Failure ε) Unit × World π β :=
  let met := world.meet tick
  match tick.fault, met.files source, overwrite, met.files target with
  | some error, _, _, _ => (.error (.fault error), met)
  | none, none, _, _ => (.error .missing, met)
  | none, some _, false, some _ => (.error .alreadyExists, met)
  | none, some _, _, replaced =>
      (.ok (), met.record (.renamed source target replaced))

end World

/-! A file that is staged at a path of its own.  Nothing else is touched, and
what the contested path was found to be is known. -/

structure Staged (probed : Option Bool) (staging target : π)
    (held : Option (List β)) (world : World π β) : Prop where
  within : ∀ event ∈ world.log, ∀ path, event.Touches path → path = staging
  probes : ∀ found, .probed target found ∈ world.log → probed = some found
  contested : world.contested = target
  apart : target ≠ staging
  held : world.files staging = held

variable {world after : World π β} {staging target : π} {tick : Tick ε β}
variable {held : Option (List β)} {probed : Option Bool}

@[simp] theorem record_files (event : Event π β) (world : World π β) :
    (world.record event).files = event.apply world.files := by
  simp [World.files, World.record]

theorem files_of_untouched
    (untouched : ∀ event ∈ world.log, ¬event.Touches path) :
    world.files path = world.leftByOthers path := by
  obtain ⟨contested, initial, log⟩ := world
  induction log using List.reverseRecOn with
  | nil => rfl
  | append_singleton earlier event induction =>
      have earlierFiles := induction fun other member =>
        untouched other (by simp [member])
      have last := untouched event (by simp)
      have recorded := record_files event ⟨contested, initial, earlier⟩
      simp only [World.record] at recorded
      rw [recorded]
      cases event with
      | created other =>
          simp only [Event.Touches] at last
          simpa [Event.apply, World.leftByOthers, Event.intrusionAt,
            KeyedStore.insert_of_ne (Ne.symm last)] using earlierFiles
      | wrote other bytes =>
          simp only [Event.Touches] at last
          simpa [Event.apply, World.leftByOthers, Event.intrusionAt,
            Function.update_of_ne (Ne.symm last)] using earlierFiles
      | removed other =>
          simp only [Event.Touches] at last
          simpa [Event.apply, World.leftByOthers, Event.intrusionAt,
            KeyedStore.erase_of_ne (Ne.symm last)] using earlierFiles
      | renamed source target replaced =>
          simp only [Event.Touches, not_or] at last
          simpa [Event.apply, World.leftByOthers, Event.intrusionAt,
            KeyedStore.erase_of_ne (Ne.symm last.1),
            Function.update_of_ne (Ne.symm last.2)] using earlierFiles
      | probed other found =>
          simpa [Event.apply, World.leftByOthers, Event.intrusionAt]
            using earlierFiles
      | intruded other node =>
          by_cases same : other = path
          · simp [Event.apply, World.leftByOthers, Event.intrusionAt, same]
          · simpa [Event.apply, World.leftByOthers, Event.intrusionAt, same,
              Function.update_of_ne (Ne.symm same)] using earlierFiles

theorem Staged.record (staged : Staged probed staging target held world)
    (event : Event π β)
    (touches : ∀ path, event.Touches path → path = staging)
    (probes : ∀ found, event = .probed target found → probed = some found) :
    Staged probed staging target (event.apply world.files staging)
      (world.record event) where
  within := by
    intro other member path touched
    cases List.mem_append.mp member with
    | inl earlier => exact staged.within other earlier path touched
    | inr last =>
        rw [List.mem_singleton.mp last] at touched
        exact touches path touched
  probes := by
    intro found member
    cases List.mem_append.mp member with
    | inl earlier => exact staged.probes found earlier
    | inr last => exact probes found (List.mem_singleton.mp last).symm
  contested := staged.contested
  apart := staged.apart
  held := by rw [record_files]

theorem Staged.meet (staged : Staged probed staging target held world)
    (tick : Tick ε β) : Staged probed staging target held (world.meet tick) := by
  unfold World.meet
  split
  · exact staged
  · rename_i node met
    have recorded := staged.record (.intruded world.contested node)
      (fun _ touched => touched.elim) (fun _ impossible => by cases impossible)
    have kept : Event.apply (.intruded world.contested node) world.files
        staging = held := by
      rw [← staged.held]
      exact Function.update_of_ne
        (fun equal => staged.apart (staged.contested ▸ equal.symm)) ..
    rwa [kept] at recorded

/-- The task has changed nothing. -/
def Idle (world : World π β) : Prop :=
  ∀ event ∈ world.log, ∀ path, ¬event.Touches path

omit [DecidableEq π] in
theorem Idle.meet (idle : Idle world) (tick : Tick ε β) :
    Idle (world.meet tick) := by
  unfold World.meet
  split
  · exact idle
  · intro event member path touched
    cases List.mem_append.mp member with
    | inl earlier => exact idle event earlier path touched
    | inr last =>
        rw [List.mem_singleton.mp last] at touched
        exact touched

omit [DecidableEq π] in
theorem Idle.create_error (idle : Idle world)
    (failed : world.create tick path = (.error reason, after)) :
    Idle after := by
  unfold World.create at failed
  split at failed
  · cases failed
    exact idle.meet tick
  · cases failed

theorem Staged.create_error (staged : Staged probed staging target held world)
    (failed : world.create tick staging = (.error reason, after)) :
    Staged probed staging target held after := by
  unfold World.create at failed
  split at failed
  · cases failed
    exact staged.meet tick
  · cases failed

theorem Staged.create_ok (staged : Staged probed staging target held world)
    (created : world.create tick staging = (.ok (), after)) :
    Staged probed staging target (some []) after := by
  unfold World.create at created
  split at created
  · cases created
  · cases created
    have recorded := (staged.meet tick).record (.created staging)
      (fun _ touched => touched.symm) (fun _ impossible => by cases impossible)
    simpa [Event.apply] using recorded

theorem Staged.wrote (staged : Staged probed staging target held world)
    (bytes : List β) :
    Staged probed staging target (held.map (· ++ bytes))
      (world.record (.wrote staging bytes)) := by
  have recorded := staged.record (.wrote staging bytes)
    (fun _ touched => touched.symm) (fun _ impossible => by cases impossible)
  simpa [Event.apply, staged.held] using recorded

theorem Staged.write_error (staged : Staged probed staging target held world)
    (failed : world.write tick taken staging bytes = (.error reason, after)) :
    Staged probed staging target (held.map (· ++ bytes.take taken)) after := by
  unfold World.write at failed
  split at failed
  · cases failed
    exact (staged.meet tick).wrote (bytes.take taken)
  · cases failed

theorem Staged.write_ok (staged : Staged probed staging target held world)
    (written : world.write tick taken staging bytes = (.ok (), after)) :
    Staged probed staging target (held.map (· ++ bytes)) after := by
  unfold World.write at written
  split at written
  · cases written
  · cases written
    exact (staged.meet tick).wrote bytes

theorem Staged.settle (staged : Staged probed staging target held world)
    (settled : world.settle tick = (outcome, after)) :
    Staged probed staging target held after := by
  unfold World.settle at settled
  split at settled <;> cases settled <;> exact staged.meet tick

theorem Staged.openFile (staged : Staged probed staging target held world)
    (opened : world.openFile tick path = (outcome, after)) :
    Staged probed staging target held after := by
  unfold World.openFile at opened
  split at opened <;> cases opened <;> exact staged.meet tick

theorem Staged.probe_staging (staged : Staged probed staging target held world)
    (probing : world.probe tick staging = (found, after)) :
    Staged probed staging target held after ∧ found = held.isSome := by
  have met := staged.meet tick
  simp only [World.probe, met.held, Prod.mk.injEq] at probing
  obtain ⟨rfl, rfl⟩ := probing
  have recorded := met.record (.probed staging held.isSome)
    (by simp [Event.Touches]) (by simp [Ne.symm staged.apart])
  simp only [Event.apply, met.held] at recorded
  exact ⟨recorded, rfl⟩

theorem Staged.record_probe (staged : Staged none staging target held world)
    (found : Bool) :
    Staged (some found) staging target held
      (world.record (.probed target found)) := by
  have unprobed : ∀ answer, .probed target answer ∈ world.log →
      some found = some answer := by
    intro answer member
    cases staged.probes answer member
  have known : Staged (some found) staging target held world :=
    { staged with probes := unprobed }
  have recorded := known.record (.probed target found)
    (by simp [Event.Touches]) (by simp)
  simpa only [Event.apply, staged.held] using recorded

theorem Staged.probe_contested (staged : Staged none staging target held world)
    (probing : world.probe tick target = (found, after)) :
    Staged (some found) staging target held after := by
  simp only [World.probe, Prod.mk.injEq] at probing
  obtain ⟨rfl, rfl⟩ := probing
  exact (staged.meet tick).record_probe _

theorem Staged.stat (staged : Staged none staging target held world)
    (answered : world.stat tick target = (result, after)) :
    Staged
      (match result with
        | .ok _ => some true
        | .error .missing => some false
        | .error _ => none)
      staging target held after := by
  have met := staged.meet tick
  unfold World.stat at answered
  split at answered
  · cases answered
    exact met
  · cases answered
    exact met.record_probe false
  · cases answered
    exact met.record_probe true

theorem Staged.remove_error (staged : Staged probed staging target held world)
    (failed : world.remove tick staging = (.error reason, after)) :
    Staged probed staging target held after := by
  unfold World.remove at failed
  split at failed <;> cases failed <;> exact staged.meet tick

theorem Staged.remove_ok (staged : Staged probed staging target held world)
    (removed : world.remove tick staging = (.ok (), after)) :
    Staged probed staging target none after := by
  unfold World.remove at removed
  split at removed
  · cases removed
  · cases removed
  · cases removed
    have recorded := (staged.meet tick).record (.removed staging)
      (fun _ touched => touched.symm) (fun _ impossible => by cases impossible)
    simpa [Event.apply] using recorded

theorem Staged.rename_error (staged : Staged probed staging target held world)
    (failed : world.rename tick overwrite source target =
      (.error reason, after)) :
    Staged probed staging target held after := by
  unfold World.rename at failed
  simp only at failed
  split at failed <;> cases failed <;> exact staged.meet tick

/-- What a successful rename of the staged file has done: one last event, over
nothing unless it was allowed to replace. -/
structure Published (overwrite : Bool) (probed : Option Bool)
    (staging target : π) (content : List β) (world : World π β) : Prop where
  last : ∃ before replaced, Staged probed staging target (some content) before ∧
    world.log = before.log ++ [.renamed staging target replaced] ∧
    (overwrite = false → replaced = none)
  content : world.files target = some content

theorem Staged.rename_ok
    (staged : Staged probed staging target (some content) world)
    (renamed : world.rename tick overwrite staging target =
      (.ok (), after)) :
    Published overwrite probed staging target content after := by
  have met := staged.meet tick
  unfold World.rename at renamed
  simp only at renamed
  split at renamed
  · cases renamed
  · cases renamed
  · cases renamed
  · rename_i guarded
    simp only [Prod.mk.injEq, true_and] at renamed
    subst renamed
    refine ⟨⟨world.meet tick, (world.meet tick).files target, met,
      by simp [World.record], fun careful => ?_⟩, ?_⟩
    · cases replaced : (world.meet tick).files target with
      | none => rfl
      | some content =>
          exact absurd replaced (guarded content careful)
    · simp [Event.apply, KeyedStore.erase_of_ne staged.apart, met.held]

end FaultyFs
