import TitanSSH.Library.FaultyFs
import TitanSSH.Library.Interleaving

/-! A file system that clients share, one operation at a time.  A client stages
its work at a place of its own and publishes it at one that others may want as
well, under names of its own for the two.  By itself it works on a `FaultyFs`
whose third party is all the others. -/

namespace SharedFs

open FaultyFs Interleaving

inductive Kind
  | attempt
  | probe

inductive Operation (α β : Type) : Kind → Type
  | create (path : α) : Operation α β .attempt
  | write (path : α) (bytes : List β) : Operation α β .attempt
  | settle : Operation α β .attempt
  | openFile (path : α) : Operation α β .attempt
  | probe (path : α) : Operation α β .probe
  | remove (path : α) : Operation α β .attempt
  | rename (overwrite : Bool) (source target : α) : Operation α β .attempt

abbrev Reply (ε : Type) : Kind → Type
  | .attempt => Except (Failure ε) Unit
  | .probe => Bool

namespace Operation

variable {α β ε π : Type} {kind : Kind}

def map (place : α → π) : Operation α β kind → Operation π β kind
  | create path => .create (place path)
  | write path bytes => .write (place path) bytes
  | settle => .settle
  | openFile path => .openFile (place path)
  | probe path => .probe (place path)
  | remove path => .remove (place path)
  | rename overwrite source target =>
      .rename overwrite (place source) (place target)

def perform [DecidableEq α] (tick : Tick ε β) (taken : ℕ) (world : World α β) :
    Operation α β kind → Reply ε kind × World α β
  | create path => world.create tick path
  | write path bytes => world.write tick taken path bytes
  | settle => world.settle tick
  | openFile path => world.openFile tick path
  | probe path => world.probe tick path
  | remove path => world.remove tick path
  | rename overwrite source target => world.rename tick overwrite source target

/-- The operation works on the staged file, looks for the published one, or
publishes. -/
inductive Stages (staging target : α) :
    {kind : Kind} → Operation α β kind → Prop
  | create : Stages staging target (.create staging)
  | write {bytes} : Stages staging target (.write staging bytes)
  | settle : Stages staging target .settle
  | openFile : Stages staging target (.openFile staging)
  | probe : Stages staging target (.probe staging)
  | contend : Stages staging target (.probe target)
  | remove : Stages staging target (.remove staging)
  | rename {overwrite} :
      Stages staging target (.rename overwrite staging target)

variable [DecidableEq α] [DecidableEq π]
variable {operation : Operation α β kind} {staging target : α} {place : α → π}
variable {target : α} {world : World α β}

theorem perform_meet (operation : Operation α β kind) (tick : Tick ε β)
    (taken : ℕ) (world : World α β) :
    operation.perform tick taken world =
      operation.perform ⟨none, tick.fault⟩ taken (world.meet tick) := by
  cases operation <;> rfl

theorem perform_records (operation : Operation α β kind) (fault : Option ε)
    (taken : ℕ) (world : World α β) :
    ∃ events, (operation.perform ⟨none, fault⟩ taken world).2 =
        ⟨world.contested, world.initial, world.log ++ events⟩ ∧
      ∀ path node, .intruded path node ∉ events := by
  have nothing : world =
      ⟨world.contested, world.initial, world.log ++ []⟩ := by simp
  cases operation with
  | create path =>
      cases fault with
      | none => exact ⟨[.created path], rfl, by simp⟩
      | some error => exact ⟨[], nothing, by simp⟩
  | write path bytes =>
      cases fault with
      | none => exact ⟨[.wrote path bytes], rfl, by simp⟩
      | some error => exact ⟨[.wrote path (bytes.take taken)], rfl, by simp⟩
  | settle => cases fault <;> exact ⟨[], nothing, by simp⟩
  | openFile path =>
      simp only [perform, World.openFile]
      split <;> exact ⟨[], nothing, by simp⟩
  | probe path => exact ⟨[.probed path _], rfl, by simp⟩
  | remove path =>
      simp only [perform, World.remove]
      split
      · exact ⟨[], nothing, by simp⟩
      · exact ⟨[], nothing, by simp⟩
      · exact ⟨[.removed path], rfl, by simp⟩
  | rename overwrite source target =>
      simp only [perform, World.rename]
      split
      · exact ⟨[], nothing, by simp⟩
      · exact ⟨[], nothing, by simp⟩
      · exact ⟨[], nothing, by simp⟩
      · exact ⟨[.renamed source target _], rfl, by simp⟩

/-- Only the contested path has been changed by a third party. -/
structure Confined (target : α) (before : KeyedStore α (List β))
    (world : World α β) : Prop where
  contested : world.contested = target
  initial : world.initial = before
  intrusions : ∀ {path node}, .intruded path node ∈ world.log → path = target

theorem Confined.perform {before : KeyedStore α (List β)}
    (confined : Confined target before world) (operation : Operation α β kind)
    (tick : Tick ε β) (taken : ℕ) :
    Confined target before (operation.perform tick taken world).2 := by
  rw [perform_meet]
  obtain ⟨events, recorded, own⟩ :=
    perform_records operation tick.fault taken (world.meet tick)
  rw [recorded]
  have met : Confined target before (world.meet tick) := by
    unfold World.meet
    split
    · exact confined
    · refine ⟨confined.contested, confined.initial, ?_⟩
      intro path node member
      cases List.mem_append.mp member with
      | inl earlier => exact confined.intrusions earlier
      | inr now =>
          cases List.mem_singleton.mp now
          exact confined.contested
  refine ⟨met.contested, met.initial, ?_⟩
  intro path node member
  cases List.mem_append.mp member with
  | inl earlier => exact met.intrusions earlier
  | inr now => exact absurd now (own path node)

theorem Confined.untouched {before : KeyedStore α (List β)}
    (confined : Confined target before world) {path : α}
    (idle : Idle world) (apart : target ≠ path) :
    world.files path = before path := by
  have none : world.log.filterMap (·.intrusionAt path) = [] := by
    rw [List.filterMap_eq_nil_iff]
    intro event member
    cases event with
    | intruded other node =>
        have outside : other ≠ path := confined.intrusions member ▸ apart
        simp [FaultyFs.Event.intrusionAt, outside]
    | _ => rfl
  rw [files_of_untouched fun event member => idle event member path,
    World.leftByOthers, none, confined.initial]
  rfl

end Operation

/-- What stands under the two names is what stands at their places. -/
structure Mirrors (place : α → π) (staging target : α)
    (own : KeyedStore α β) (files : KeyedStore π β) : Prop where
  staging : own staging = files (place staging)
  target : own target = files (place target)

section Mirrors

variable {α β ε π : Type} {kind : Kind} [DecidableEq α] [DecidableEq π]
variable {operation : Operation α β kind} {staging target : α} {place : α → π}
variable {fault : Option ε} {taken : ℕ}
variable {world : World α β} {shared after : World π β} {reply : Reply ε kind}

/-- An operation sees, and makes of the two, the same in either file system. -/
theorem Operation.Stages.mirrors (stages : operation.Stages staging target)
    (apart : place target ≠ place staging)
    (mirrors : Mirrors place staging target world.files shared.files)
    (performed : (operation.map place).perform ⟨none, fault⟩ taken shared =
      (reply, after)) :
    (operation.perform ⟨none, fault⟩ taken world).1 = reply ∧
      Mirrors place staging target
        (operation.perform ⟨none, fault⟩ taken world).2.files after.files := by
  obtain ⟨rfl, rfl⟩ := Prod.mk.inj performed.symm
  have different : target ≠ staging := fun same => apart (same ▸ rfl)
  obtain ⟨stagingSame, targetSame⟩ := mirrors
  cases stages with
  | create =>
      cases fault with
      | none =>
          refine ⟨rfl, ?_, ?_⟩ <;>
            simp [map, perform, World.create, World.meet, Event.apply,
              KeyedStore.insert_of_ne different, KeyedStore.insert_of_ne apart,
              targetSame]
      | some error => exact ⟨rfl, stagingSame, targetSame⟩
  | write =>
      cases fault <;> refine ⟨rfl, ?_, ?_⟩ <;>
        simp [map, perform, World.write, World.meet, Event.apply, different,
          apart, stagingSame, targetSame]
  | settle => cases fault <;> exact ⟨rfl, stagingSame, targetSame⟩
  | openFile =>
      simp only [map, perform, World.openFile, World.meet, stagingSame]
      split <;> exact ⟨rfl, stagingSame, targetSame⟩
  | probe =>
      refine ⟨?_, ?_, ?_⟩ <;>
        simp [map, perform, World.probe, World.meet, Event.apply, stagingSame,
          targetSame]
  | contend =>
      refine ⟨?_, ?_, ?_⟩ <;>
        simp [map, perform, World.probe, World.meet, Event.apply, stagingSame,
          targetSame]
  | remove =>
      simp only [map, perform, World.remove, World.meet, stagingSame]
      split
      · exact ⟨rfl, stagingSame, targetSame⟩
      · exact ⟨rfl, stagingSame, targetSame⟩
      · refine ⟨rfl, ?_, ?_⟩ <;>
          simp [Event.apply, KeyedStore.erase_of_ne different,
            KeyedStore.erase_of_ne apart, targetSame]
  | rename =>
      simp only [map, perform, World.rename, World.meet, stagingSame,
        targetSame]
      split
      · exact ⟨rfl, stagingSame, targetSame⟩
      · exact ⟨rfl, stagingSame, targetSame⟩
      · exact ⟨rfl, stagingSame, targetSame⟩
      · refine ⟨rfl, ?_, ?_⟩ <;>
          simp [Event.apply, KeyedStore.erase_of_ne different,
            KeyedStore.erase_of_ne apart, stagingSame]

end Mirrors

section Client

variable {Query : Type}

/-- What a client does next. -/
inductive Act (α β ε : Type) (Answer : Query → Type) (σ : Type)
  | finished
  | ask (query : Query) (next : Answer query → σ)
  | operate {kind : Kind} (operation : Operation α β kind)
      (next : Reply ε kind → σ)

def Act.map {α β ε σ τ : Type} {Answer : Query → Type} (goes : σ → τ) :
    Act α β ε Answer σ → Act α β ε Answer τ
  | .finished => .finished
  | .ask query next => .ask query (goes ∘ next)
  | .operate operation next => .operate operation (goes ∘ next)

/-- A client, whose states keep the two names that it works under. -/
structure Client (α β ε π : Type) (Answer : Query → Type) (σ : Type) where
  place : α → π
  starts : σ → Bool
  staging : σ → α
  target : σ → α
  act : σ → Act α β ε Answer σ
  apart : ∀ state, place (target state) ≠ place (staging state)
  stages : ∀ {state kind} {operation : Operation α β kind} {next},
    act state = .operate operation next →
      operation.Stages (staging state) (target state)
  asking : ∀ {state query next}, act state = .ask query next → ∀ answer,
    staging (next answer) = staging state ∧ target (next answer) = target state
  operating : ∀ {state kind} {operation : Operation α β kind} {next},
    act state = .operate operation next → ∀ reply,
      staging (next reply) = staging state ∧ target (next reply) = target state

/-- What a client cannot determine itself. -/
structure Choice (ε : Type) (Answer : Query → Type) where
  fault : Option ε := none
  taken : ℕ := 0
  answer : ∀ query, Answer query

structure State (β π σ : Type) where
  files : KeyedStore π (List β)
  clients : ℕ → Option σ

inductive Action (β ε π : Type) (Answer : Query → Type) (σ : Type)
  | start (thread : ℕ) (state : σ)
  | advance (thread : ℕ) (choice : Choice ε Answer)
  -- a third party changes a file
  | intrude (path : π) (node : Option (List β))

/-- What a client has come to know, and what it has published over what. -/
inductive Observation (α β : Type) (Answer : Query → Type)
  | asked (query : Query) (answer : Answer query)
  | published (target : α) (replaced content : Option (List β))

inductive Event (α β π : Type) (Answer : Query → Type) (σ : Type)
  | started (thread : ℕ) (state : σ) (found : Option (List β))
  | observed (thread : ℕ) (observation : Observation α β Answer)
  | intruded (path : π) (node : Option (List β))

def publication {α β ε : Type} {Answer : Query → Type}
    (files : KeyedStore α (List β)) :
    {kind : Kind} → Operation α β kind → Reply ε kind →
      List (Observation α β Answer)
  | _, .rename _ source target, .ok () =>
      [.published target (files target) (files source)]
  | _, _, _ => []

/-- What has been left at a place, if anything. -/
def Observation.leftAt {α β π : Type} {Answer : Query → Type} [DecidableEq π]
    (place : α → π) (path : π) :
    Observation α β Answer → Option (Option (List β))
  | .asked _ _ => none
  | .published target _ content =>
      if place target = path then some content else none

def lastOf {γ δ : Type} (left : γ → Option δ) (entries : List γ)
    (before : δ) : δ :=
  (entries.filterMap left).getLast?.getD before

theorem lastOf_append {γ δ : Type} (left : γ → Option δ)
    (earlier later : List γ) (before : δ) :
    lastOf left (earlier ++ later) before =
      lastOf left later (lastOf left earlier before) := by
  simp [lastOf, List.getLast?_append]

section Publication

variable {α β ε π : Type} {Answer : Query → Type} {kind : Kind}
variable {operation : Operation α β kind} {reply : Reply ε kind}
variable {staging target : α}
variable {place : α → π} {own : KeyedStore α (List β)}
variable {files : KeyedStore π (List β)}

theorem publication_mirrors (stages : operation.Stages staging target)
    (mirrors : Mirrors place staging target own files) :
    (publication own operation reply : List (Observation α β Answer)) =
      publication (fun name => files (place name)) operation reply := by
  cases stages with
  | rename =>
      cases reply with
      | ok _ => simp only [publication, mirrors.target, mirrors.staging]
      | error _ => rfl
  | _ => rfl

variable [DecidableEq π] {fault : Option ε} {taken : ℕ} {world after : World π β}

/-- Away from the staged file nothing changes but by a publication. -/
theorem Operation.Stages.leaves (stages : operation.Stages staging target)
    {path : π} (elsewhere : path ≠ place staging)
    (performed : (operation.map place).perform ⟨none, fault⟩ taken world =
      (reply, after)) :
    after.files path =
      lastOf (Observation.leftAt place path)
        (publication (fun name => world.files (place name)) operation reply :
          List (Observation α β Answer))
        (world.files path) := by
  obtain ⟨rfl, rfl⟩ := Prod.mk.inj performed.symm
  cases stages with
  | create =>
      cases fault with
      | none =>
          simp [Operation.map, World.create, World.meet,
            Event.apply, KeyedStore.insert_of_ne elsewhere, publication, lastOf]
      | some error => rfl
  | write =>
      cases fault <;>
        simp [Operation.map, World.write, World.meet,
          Event.apply, elsewhere, publication, lastOf]
  | settle => cases fault <;> rfl
  | openFile =>
      simp only [Operation.map, World.openFile]
      split <;> rfl
  | probe =>
      simp [Operation.map, World.probe, World.meet,
        Event.apply, publication, lastOf]
  | contend =>
      simp [Operation.map, World.probe, World.meet,
        Event.apply, publication, lastOf]
  | remove =>
      simp only [Operation.map, World.remove]
      split <;> simp [World.meet, Event.apply,
        KeyedStore.erase_of_ne elsewhere, publication, lastOf]
  | rename =>
      simp only [Operation.map, World.rename]
      split
      · rfl
      · rfl
      · rfl
      · by_cases same : path = place target
        · subst same
          simp [World.meet, Event.apply, KeyedStore.erase_of_ne elsewhere,
            publication, lastOf, Observation.leftAt]
        · simp [World.meet, Event.apply, KeyedStore.erase_of_ne elsewhere,
            publication, lastOf, Observation.leftAt, same, Ne.symm same]

omit [DecidableEq π] in
theorem publication_elsewhere [DecidableEq π]
    (stages : operation.Stages staging target) {path : π}
    (elsewhere : path ≠ place target) (before : Option (List β)) :
    lastOf (Observation.leftAt place path)
      (publication own operation reply : List (Observation α β Answer))
      before = before := by
  cases stages with
  | rename =>
      cases reply with
      | ok _ => simp [publication, lastOf, Observation.leftAt, elsewhere.symm]
      | error _ => rfl
  | _ => rfl

theorem rename_published [DecidableEq α] {tick : Tick ε β} {overwrite : Bool}
    {mine moved : World α β} (apart : target ≠ staging)
    (renamed : mine.rename tick overwrite staging target = (.ok (), moved)) :
    moved.files target = (mine.meet tick).files staging ∧
      (overwrite = false → (mine.meet tick).files target = none) := by
  unfold World.rename at renamed
  simp only at renamed
  split at renamed
  · cases renamed
  · cases renamed
  · cases renamed
  · rename_i guarded
    cases renamed
    refine ⟨by simp [Event.apply, KeyedStore.erase_of_ne apart], ?_⟩
    intro careful
    cases held : (mine.meet tick).files target with
    | none => rfl
    | some content => exact absurd held (guarded content careful)

end Publication

namespace Client

variable {α β ε π σ : Type} {Answer : Query → Type}
variable [DecidableEq α] [DecidableEq π]

omit [DecidableEq α] in
def advance (client : Client α β ε π Answer σ) (shared : State β π σ)
    (thread : ℕ) (choice : Choice ε Answer) (state : σ) :
    Option (State β π σ × List (Event α β π Answer σ)) :=
  match client.act state with
  | .finished => none
  | .ask query next =>
      some (⟨shared.files, Function.update shared.clients thread
        (some (next (choice.answer query)))⟩,
        [.observed thread (.asked query (choice.answer query))])
  | .operate operation next =>
      match (operation.map client.place).perform ⟨none, choice.fault⟩
          choice.taken ⟨client.place (client.target state), shared.files, []⟩
        with
      | (reply, world) =>
          some (⟨world.files,
            Function.update shared.clients thread (some (next reply))⟩,
            (publication (fun name => shared.files (client.place name))
              operation reply).map (.observed thread))

def step (client : Client α β ε π Answer σ) (shared : State β π σ) :
    Action β ε π Answer σ →
      Option (State β π σ × List (Event α β π Answer σ))
  | .start thread state =>
      match shared.clients thread with
      | some _ => none
      | none =>
          if client.starts state then
            some (⟨shared.files,
              Function.update shared.clients thread (some state)⟩,
              [.started thread state
                (shared.files (client.place (client.staging state)))])
          else none
  | .advance thread choice =>
      match shared.clients thread with
      | none => none
      | some state => client.advance shared thread choice state
  | .intrude path node =>
      some (⟨Function.update shared.files path node, shared.clients⟩,
        [.intruded path node])

def machine (client : Client α β ε π Answer σ) :
    Machine (State β π σ) (Action β ε π Answer σ) (Event α β π Answer σ) where
  step := client.step

def initial (files : KeyedStore π (List β)) : State β π σ :=
  ⟨files, fun _ => none⟩

/-- What a client meets at a step of its own. -/
structure Meeting (β ε : Type) (Answer : Query → Type) where
  intrusion : Option (Option (List β)) := none
  choice : Choice ε Answer

def Meeting.tick (meeting : Meeting β ε Answer) : Tick ε β :=
  ⟨meeting.intrusion, meeting.choice.fault⟩

/-- The client by itself, where the others may change what it publishes over. -/
def alone (client : Client α β ε π Answer σ) :
    Machine (σ × World α β) (Meeting β ε Answer) (Observation α β Answer) where
  step current meeting :=
    match client.act current.1 with
    | .finished => none
    | .ask query next =>
        some ((next (meeting.choice.answer query), current.2),
          [.asked query (meeting.choice.answer query)])
    | .operate operation next =>
        match operation.perform meeting.tick meeting.choice.taken current.2 with
        | (reply, world) =>
            some ((next reply, world),
              publication (current.2.meet meeting.tick).files operation reply)

variable {client : Client α β ε π Answer σ}
variable {shared next : State β π σ} {log events : List (Event α β π Answer σ)}

/-- Everything one action can do. -/
inductive Step (client : Client α β ε π Answer σ) (shared : State β π σ) :
    State β π σ → List (Event α β π Answer σ) → Prop
  | started {thread state} (free : shared.clients thread = none)
      (starts : client.starts state = true) :
      Step client shared
        ⟨shared.files, Function.update shared.clients thread (some state)⟩
        [.started thread state
          (shared.files (client.place (client.staging state)))]
  | asked {thread state query next} (choice : Choice ε Answer)
      (running : shared.clients thread = some state)
      (asks : client.act state = .ask query next) :
      Step client shared
        ⟨shared.files, Function.update shared.clients thread
          (some (next (choice.answer query)))⟩
        [.observed thread (.asked query (choice.answer query))]
  | operated {thread state kind} {operation : Operation α β kind}
      {next reply world}
      (choice : Choice ε Answer)
      (running : shared.clients thread = some state)
      (operates : client.act state = .operate operation next)
      (performed : (operation.map client.place).perform ⟨none, choice.fault⟩
        choice.taken ⟨client.place (client.target state), shared.files, []⟩ =
          (reply, world)) :
      Step client shared
        ⟨world.files,
          Function.update shared.clients thread (some (next reply))⟩
        ((publication (fun name => shared.files (client.place name))
          operation reply).map (.observed thread))
  | intruded {path node} :
      Step client shared
        ⟨Function.update shared.files path node, shared.clients⟩
        [.intruded path node]

omit [DecidableEq α] in
theorem step_cases {action : Action β ε π Answer σ}
    (stepped : client.machine.step shared action = some (next, events)) :
    Step client shared next events := by
  cases action with
  | start thread state =>
      cases free : shared.clients thread with
      | some current => simp [machine, step, free] at stepped
      | none =>
          cases starts : client.starts state with
          | false => simp [machine, step, free, starts] at stepped
          | true =>
              simp only [machine, step, free, starts, if_true,
                Option.some.injEq, Prod.mk.injEq] at stepped
              obtain ⟨rfl, rfl⟩ := stepped
              exact .started free starts
  | advance thread choice =>
      cases running : shared.clients thread with
      | none => simp [machine, step, running] at stepped
      | some state =>
          simp only [machine, step, running, advance] at stepped
          split at stepped
          · cases stepped
          · rename_i query after asks
            cases stepped
            exact .asked choice running asks
          · rename_i operation after operates
            cases stepped
            exact .operated choice running operates rfl
  | intrude path node =>
      simp only [machine, step, Option.some.injEq, Prod.mk.injEq] at stepped
      obtain ⟨rfl, rfl⟩ := stepped
      exact .intruded

def observationOf (thread : ℕ) :
    Event α β π Answer σ → Option (Observation α β Answer)
  | .observed other observation =>
      if other = thread then some observation else none
  | _ => none

/-- What one thread has come to know, in order. -/
def observed (thread : ℕ) (log : List (Event α β π Answer σ)) :
    List (Observation α β Answer) :=
  log.filterMap (observationOf thread)

omit [DecidableEq α] [DecidableEq π] in
theorem mem_observed {thread : ℕ} {observation : Observation α β Answer} :
    observation ∈ observed thread log ↔ .observed thread observation ∈ log := by
  constructor
  · intro member
    obtain ⟨event, logged, seen⟩ := List.mem_filterMap.mp member
    cases event with
    | observed other seenThere =>
        simp only [observationOf, Option.ite_none_right_eq_some,
          Option.some.injEq] at seen
        obtain ⟨rfl, rfl⟩ := seen
        exact logged
    | _ => cases seen
  · intro logged
    exact List.mem_filterMap.mpr ⟨_, logged, by simp [observationOf]⟩

omit [DecidableEq α] [DecidableEq π] in
theorem observed_append (thread : ℕ) (log events : List (Event α β π Answer σ)) :
    observed thread (log ++ events) =
      observed thread log ++ observed thread events :=
  List.filterMap_append

omit [DecidableEq α] [DecidableEq π] in
theorem observed_own (thread : ℕ)
    (observations : List (Observation α β Answer)) :
    observed thread (observations.map (Event.observed thread) :
      List (Event α β π Answer σ)) = observations := by
  induction observations with
  | nil => rfl
  | cons head tail induction =>
      simpa [observed, observationOf] using induction

omit [DecidableEq α] [DecidableEq π] in
theorem observed_other {thread other : ℕ} (different : other ≠ thread)
    (observations : List (Observation α β Answer)) :
    observed thread (observations.map (Event.observed other) :
      List (Event α β π Answer σ)) = [] := by
  simp [observed, observationOf, different]

/-- No two clients stage at one place, none publishes where another stages,
and no third party goes there. -/
structure Separated (client : Client α β ε π Answer σ)
    (log : List (Event α β π Answer σ)) : Prop where
  stagings : ∀ {first second state other found before},
    .started first state found ∈ log → .started second other before ∈ log →
      first ≠ second →
        client.place (client.staging state) ≠
          client.place (client.staging other)
  targets : ∀ {first second state other found before},
    .started first state found ∈ log → .started second other before ∈ log →
      client.place (client.target state) ≠
        client.place (client.staging other)
  intrusions : ∀ {path node thread state found},
    .intruded path node ∈ log → .started thread state found ∈ log →
      path ≠ client.place (client.staging state)

omit [DecidableEq α] [DecidableEq π] in
theorem Separated.of_append
    (separated : client.Separated (log ++ events)) : client.Separated log where
  stagings := fun first second different =>
    separated.stagings (List.mem_append_left _ first)
      (List.mem_append_left _ second) different
  targets := fun first second =>
    separated.targets (List.mem_append_left _ first)
      (List.mem_append_left _ second)
  intrusions := fun intrusion started =>
    separated.intrusions (List.mem_append_left _ intrusion)
      (List.mem_append_left _ started)

/-- The thread is where it would be by itself, over files of which its staged
one is as it is. -/
structure View (client : Client α β ε π Answer σ)
    (log : List (Event α β π Answer σ)) (files : KeyedStore π (List β))
    (thread : ℕ) (state first : σ) (found : Option (List β))
    (initial : KeyedStore α (List β))
    (meetings : List (Meeting β ε Answer)) (world : World α β) : Prop where
  started : .started thread first found ∈ log
  starts : client.starts first = true
  found : initial (client.staging first) = found
  ran : client.alone.Run (first, ⟨client.target first, initial, []⟩) meetings
    (observed thread log) (state, world)
  staging : client.staging state = client.staging first
  target : client.target state = client.target first
  confined : Operation.Confined (client.target first) initial world
  staged : world.files (client.staging first) =
    files (client.place (client.staging first))

section View

variable {files later : KeyedStore π (List β)} {thread : ℕ}
variable {state first after : σ} {found : Option (List β)}
variable {own : KeyedStore α (List β)} {meetings : List (Meeting β ε Answer)}
variable {world moved : World α β}

omit [DecidableEq π] in
theorem View.frame
    (view : client.View log files thread state first found own meetings world)
    (quiet : observed thread events = [])
    (kept : later (client.place (client.staging first)) =
      files (client.place (client.staging first))) :
    client.View (log ++ events) later thread state first found own meetings
      world where
  started := List.mem_append_left _ view.started
  starts := view.starts
  found := view.found
  ran := by
    rw [observed_append, quiet, List.append_nil]
    exact view.ran
  staging := view.staging
  target := view.target
  confined := view.confined
  staged := view.staged.trans kept.symm

omit [DecidableEq π] in
theorem View.ask
    (view : client.View log files thread state first found own meetings world)
    (choice : Choice ε Answer) (asks : client.act state = .ask query resume) :
    client.View
      (log ++ [.observed thread (.asked query (choice.answer query))]) files
      thread (resume (choice.answer query)) first found own
      (meetings ++ [⟨none, choice⟩]) world where
  started := List.mem_append_left _ view.started
  starts := view.starts
  found := view.found
  ran := by
    have told : observed thread ([.observed thread
        (.asked query (choice.answer query))] : List (Event α β π Answer σ)) =
        [.asked query (choice.answer query)] := observed_own thread [_]
    rw [observed_append, told]
    exact view.ran.snoc (by simp [alone, asks])
  staging := (client.asking asks _).1.trans view.staging
  target := (client.asking asks _).2.trans view.target
  confined := view.confined
  staged := view.staged

/-- What the others have made of the contested place comes to the thread as
the doing of its third party. -/
theorem View.operate
    (view : client.View log shared.files thread state first found own meetings
      world)
    (choice : Choice ε Answer)
    (operates : client.act state = .operate operation resume)
    (performed : (operation.map client.place).perform ⟨none, choice.fault⟩
      choice.taken ⟨client.place (client.target state), shared.files, []⟩ =
        (reply, became)) :
    ∃ moved, client.View
      (log ++ (publication (fun name => shared.files (client.place name))
        operation reply).map (.observed thread))
      became.files thread (resume reply) first found own
      (meetings ++ [⟨some (shared.files (client.place (client.target first))),
        choice⟩]) moved := by
  have stages := client.stages operates
  have apart := client.apart state
  rw [view.staging, view.target] at stages apart
  let meeting : Meeting β ε Answer :=
    ⟨some (shared.files (client.place (client.target first))), choice⟩
  have different : client.staging first ≠ world.contested := by
    rw [view.confined.contested]
    exact fun same => apart (same ▸ rfl)
  have mirrors : Mirrors client.place (client.staging first)
      (client.target first) (world.meet meeting.tick).files shared.files := by
    constructor
    · simpa [World.meet, Meeting.tick, meeting, FaultyFs.Event.apply, different]
        using view.staged
    · simp [World.meet, Meeting.tick, meeting, FaultyFs.Event.apply,
        view.confined.contested]
  obtain ⟨sameReply, mirrorsAfter⟩ :=
    stages.mirrors apart mirrors performed
  have met := Operation.perform_meet operation meeting.tick choice.taken world
  have replied :
      (operation.perform meeting.tick choice.taken world).1 = reply := by
    rw [met]
    exact sameReply
  refine ⟨(operation.perform meeting.tick choice.taken world).2, ?_⟩
  exact
    { started := List.mem_append_left _ view.started
      starts := view.starts
      found := view.found
      ran := by
        rw [observed_append, observed_own]
        refine view.ran.snoc ?_
        have published : (publication (world.meet meeting.tick).files operation
            reply : List (Observation α β Answer)) = publication
              (fun name => shared.files (client.place name)) operation reply :=
          publication_mirrors stages mirrors
        rw [← published, ← replied]
        simp only [alone, operates, meeting]
      staging := (client.operating operates _).1.trans view.staging
      target := (client.operating operates _).2.trans view.target
      confined := view.confined.perform operation meeting.tick choice.taken
      staged := by
        rw [met]
        exact mirrorsAfter.staging }

end View

section Runs

variable {files : KeyedStore π (List β)}
variable {actions : List (Action β ε π Answer σ)}

omit [DecidableEq α] [DecidableEq π] in
theorem running_after_update {held : ℕ → Option σ} {thread other : ℕ}
    {value : σ} (idle : Function.update held thread (some value) other = none) :
    held other = none ∧ thread ≠ other := by
  rcases eq_or_ne other thread with rfl | different
  · simp at idle
  · exact ⟨by simpa [different] using idle, different.symm⟩

omit [DecidableEq α] in
theorem unobserved
    (run : client.machine.Run (initial files) actions log shared)
    {thread : ℕ} (free : shared.clients thread = none) :
    observed thread log = [] := by
  induction run with
  | refl => rfl
  | snoc earlier stepped induction =>
      rw [observed_append]
      cases step_cases stepped with
      | started idle starts =>
          rw [induction (running_after_update free).1]
          rfl
      | asked choice running asks =>
          obtain ⟨before, different⟩ := running_after_update free
          rw [induction before]
          exact observed_other different [_]
      | operated choice running operates performed =>
          obtain ⟨before, different⟩ := running_after_update free
          rw [induction before]
          exact observed_other different _
      | intruded =>
          rw [induction free]
          rfl

def Viewed (client : Client α β ε π Answer σ)
    (log : List (Event α β π Answer σ)) (shared : State β π σ) : Prop :=
  ∀ thread state, shared.clients thread = some state →
    ∃ first found own meetings world,
      client.View log shared.files thread state first found own meetings world

theorem Viewed.step (viewed : client.Viewed log shared)
    (fresh : ∀ thread, shared.clients thread = none → observed thread log = [])
    (separated : client.Separated (log ++ events))
    (step : client.Step shared next events) :
    client.Viewed (log ++ events) next := by
  cases step with
  | @started opened state free starts =>
      apply everywhere_update
      · let found := shared.files (client.place (client.staging state))
        let own := fun name => shared.files (client.place name)
        refine ⟨state, found, own, [], ⟨client.target state, own, []⟩, ?_⟩
        exact
          { started := List.mem_append_right _ (List.mem_singleton_self _)
            starts := starts
            found := rfl
            ran := by
              rw [observed_append, fresh opened free]
              exact .refl
            staging := rfl
            target := rfl
            confined := ⟨rfl, rfl, fun impossible => by cases impossible⟩
            staged := rfl }
      · intro thread current different running
        obtain ⟨first, found, own, meetings, world, view⟩ :=
          viewed thread current running
        exact ⟨first, found, own, meetings, world, view.frame rfl rfl⟩
  | @asked asking state query resume choice running asks =>
      apply everywhere_update
      · obtain ⟨first, found, own, meetings, world, view⟩ :=
          viewed asking state running
        exact ⟨first, found, own, _, world, view.ask choice asks⟩
      · intro thread current different running
        obtain ⟨first, found, own, meetings, world, view⟩ :=
          viewed thread current running
        exact ⟨first, found, own, meetings, world,
          view.frame (observed_other different.symm [_]) rfl⟩
  | @operated operating state kind operation resume reply became choice
      running operates performed =>
      obtain ⟨mine, before, own, meetings, world, view⟩ :=
        viewed operating state running
      apply everywhere_update
      · obtain ⟨moved, after⟩ := view.operate choice operates performed
        exact ⟨mine, before, own, _, moved, after⟩
      · intro thread current different running
        obtain ⟨first, found, theirs, met, around, other⟩ :=
          viewed thread current running
        refine ⟨first, found, theirs, met, around,
          other.frame (observed_other different.symm _) ?_⟩
        have stages := client.stages operates
        have notStaging : client.place (client.staging first) ≠
            client.place (client.staging state) := by
          rw [view.staging]
          exact separated.stagings (List.mem_append_left _ other.started)
            (List.mem_append_left _ view.started) different
        have notTarget : client.place (client.staging first) ≠
            client.place (client.target state) := by
          rw [view.target]
          exact (separated.targets (List.mem_append_left _ view.started)
            (List.mem_append_left _ other.started)).symm
        have left : became.files (client.place (client.staging first)) =
            lastOf (Observation.leftAt client.place _)
              (publication (fun name => shared.files (client.place name))
                operation reply : List (Observation α β Answer)) _ :=
          stages.leaves notStaging performed
        exact left.trans (publication_elsewhere stages notTarget _)
  | @intruded path node =>
      intro thread current running
      obtain ⟨first, found, own, meetings, world, view⟩ :=
        viewed thread current running
      refine ⟨first, found, own, meetings, world, view.frame rfl ?_⟩
      have outside := separated.intrusions
        (List.mem_append_right log (List.mem_singleton_self _))
        (List.mem_append_left _ view.started)
      exact Function.update_of_ne outside.symm ..

theorem run_viewed
    (run : client.machine.Run (initial files) actions log shared)
    (separated : client.Separated log) : client.Viewed log shared := by
  induction run with
  | refl => exact fun _ _ impossible => nomatch impossible
  | snoc earlier stepped induction =>
      exact (induction separated.of_append).step
        (fun _ free => unobserved earlier free) separated (step_cases stepped)

/-- What a client or a third party has left at a place. -/
def leftAt (place : α → π) (path : π) :
    Event α β π Answer σ → Option (Option (List β))
  | .started _ _ _ => none
  | .observed _ observation => observation.leftAt place path
  | .intruded other node => if other = path then some node else none

omit [DecidableEq α] in
theorem lastOf_observed (place : α → π) (path : π) (thread : ℕ)
    (observations : List (Observation α β Answer)) (before : Option (List β)) :
    lastOf (leftAt place path)
        (observations.map (.observed thread) : List (Event α β π Answer σ))
        before =
      lastOf (Observation.leftAt place path) observations before := by
  rw [lastOf, lastOf, List.filterMap_map]
  rfl

theorem run_left
    (run : client.machine.Run (initial files) actions log shared)
    (separated : client.Separated log) (path : π)
    (unstaged : ∀ thread state found, .started thread state found ∈ log →
      path ≠ client.place (client.staging state)) :
    shared.files path =
      lastOf (leftAt client.place path) log (files path) := by
  induction run with
  | refl => rfl
  | @snoc _ log shared _ _ _ earlier stepped induction =>
      have before := induction separated.of_append
        fun thread state found member =>
          unstaged thread state found (List.mem_append_left _ member)
      rw [lastOf_append, ← before]
      cases step_cases stepped with
      | started free starts => rfl
      | asked choice running asks => rfl
      | @operated thread state kind operation resume reply became choice
          running operates performed =>
          obtain ⟨first, found, own, meetings, world, view⟩ :=
            run_viewed earlier separated.of_append thread state running
          have elsewhere :
              path ≠ client.place (client.staging state) := by
            rw [view.staging]
            exact unstaged _ _ _ (List.mem_append_left _ view.started)
          rw [lastOf_observed]
          exact (client.stages operates).leaves elsewhere performed
      | @intruded other node =>
          by_cases same : path = other
          · subst same
            simp [lastOf, leftAt]
          · simp [lastOf, leftAt, same, Ne.symm same]

omit [DecidableEq α] in
theorem starts_of_started
    (run : client.machine.Run (initial files) actions log shared)
    {thread : ℕ} {state : σ} {found : Option (List β)}
    (started : .started thread state found ∈ log) :
    client.starts state = true := by
  induction run with
  | refl => cases started
  | snoc earlier stepped induction =>
      rcases List.mem_append.mp started with before | now
      · exact induction before
      · cases step_cases stepped with
        | started free starts =>
            cases List.mem_singleton.mp now
            exact starts
        | asked choice running asks => cases List.mem_singleton.mp now
        | operated choice running operates performed => simp at now
        | intruded => cases List.mem_singleton.mp now

end Runs

end Client

end Client

end SharedFs
