import TitanSSH.Core.Terminal.Worker
import TitanSSH.Library.GuardedRuns

namespace TitanSSH

namespace TerminalWorker

/-! Terminal input, from the queue to the bytes that the channel takes. -/

def channelTakes : List ChannelWrite → ℕ → ℕ
  | _, 0 => 0
  | [], length + 1 => length + 1
  | .interrupted :: calls, length + 1 => channelTakes calls (length + 1)
  | .failed _ :: _, _ + 1 => 0
  | .took 0 :: _, _ + 1 => 0
  | .took (count + 1) :: calls, length + 1 =>
      min (count + 1) (length + 1) + channelTakes calls (length - count)

def CutShort (data : String) (io : CommandIo) : Prop :=
  channelTakes io.writes (asBytes data).length < (asBytes data).length

instance (data : String) (io : CommandIo) : Decidable (CutShort data io) :=
  inferInstanceAs (Decidable (_ < _))

def commandInput : TerminalCommand → List UInt8
  | .write data => asBytes data
  | _ => []

def queuedInput (log : List TerminalEvent) : List UInt8 :=
  log.flatMap fun
    | .queued command => commandInput command
    | _ => []

def handledInput (log : List TerminalEvent) : List UInt8 :=
  log.flatMap fun
    | .wrote data _ => asBytes data
    | _ => []

def received (log : List TerminalEvent) : List UInt8 :=
  log.flatMap fun
    | .wrote data io => (writeAll io.writes (asBytes data)).1
    | _ => []

theorem writeAll_taken (calls : List ChannelWrite) (data : List UInt8) :
    (writeAll calls data).1 = data.take (channelTakes calls data.length) := by
  induction calls, data using writeAll.induct with
  | case1 calls => simp [writeAll, channelTakes]
  | case2 byte rest => simp [writeAll, channelTakes]
  | case3 calls byte rest induction =>
      simpa [writeAll, channelTakes] using induction
  | case4 error calls byte rest => simp [writeAll, channelTakes]
  | case5 calls byte rest => simp [writeAll, channelTakes]
  | case6 count calls byte rest taken outcome result induction =>
      have remaining : ((byte :: rest).drop (count + 1)).length =
          rest.length - count := by simp
      rw [result, remaining] at induction
      rw [writeAll, result, List.length_cons, channelTakes]
      simp only at induction ⊢
      by_cases enough : count ≤ rest.length
      · have within : min (count + 1) (rest.length + 1) = count + 1 := by omega
        rw [within, List.take_add (i := count + 1), induction]
      · have exceeded : rest.length ≤ count := Nat.le_of_not_le enough
        have nothing : rest.length - count = 0 := Nat.sub_eq_zero_of_le exceeded
        rw [nothing, channelTakes] at induction
        have within : min (count + 1) (rest.length + 1) =
            (byte :: rest).length := by
          rw [List.length_cons]
          omega
        have whole : (byte :: rest).take (count + 1) = byte :: rest :=
          List.take_of_length_le (Nat.succ_le_succ exceeded)
        rw [within, nothing, channelTakes, induction, List.take_zero,
          List.append_nil, whole]
        simp

def cutsShort : TerminalEvent → Bool
  | .wrote data io => decide (CutShort data io)
  | _ => false

/-- The commands ahead of the first close carry bytes. -/
def carriesInput : List TerminalCommand → Bool
  | [] | .close :: _ => false
  | .write data :: rest => !(asBytes data).isEmpty || carriesInput rest
  | .resize _ _ :: rest => carriesInput rest

/-- When the channel refuses a write before its last byte, no other input waits
behind it, and none is sent to the running loop from then on. -/
def refusedLast (log : List TerminalEvent) (worker : TerminalWorker) :
    WorkerAction → Bool
  | .send command =>
      worker.phase == .finished || !log.any cutsShort ||
        !carriesInput (worker.queue ++ [command])
  | .take io =>
      match worker.queue with
      | .write data :: rest => !decide (CutShort data io) || !carriesInput rest
      | _ => true
  | _ => true

def CutsAreFinal (log : List TerminalEvent) : Prop :=
  ∀ before data io after, log = before ++ .wrote data io :: after →
    before.any cutsShort = true →
    channelTakes io.writes (asBytes data).length = 0

/-- The remote side has received a part of the input up to some byte, and
nothing after input that was dropped. -/
structure Unpunctured (log : List TerminalEvent) : Prop where
  received : received log <+: queuedInput log
  stops : ∀ before data io after, log = before ++ .wrote data io :: after →
    CutShort data io → TerminalWorker.received after = []

@[simp] theorem queuedInput_append (left right : List TerminalEvent) :
    queuedInput (left ++ right) = queuedInput left ++ queuedInput right :=
  List.flatMap_append ..

@[simp] theorem handledInput_append (left right : List TerminalEvent) :
    handledInput (left ++ right) = handledInput left ++ handledInput right :=
  List.flatMap_append ..

@[simp] theorem received_append (left right : List TerminalEvent) :
    received (left ++ right) = received left ++ received right :=
  List.flatMap_append ..

theorem CutsAreFinal.of_append (final : CutsAreFinal (log ++ events)) :
    CutsAreFinal log := by
  intro before data io after split cut
  apply final before data io (after ++ events) _ cut
  rw [split]
  simp

theorem wrote_or_silent (event : TerminalEvent) :
    (∃ data io, event = .wrote data io) ∨
      (received [event] = [] ∧ handledInput [event] = [] ∧
        cutsShort event = false) := by
  cases event <;> simp [received, handledInput, cutsShort]

theorem received_handled (final : CutsAreFinal log) :
    received log <+: handledInput log ∧
      (log.any cutsShort = false → received log = handledInput log) := by
  induction log using List.reverseRecOn with
  | nil => exact ⟨List.prefix_rfl, fun _ => rfl⟩
  | append_singleton earlier event induction =>
      obtain ⟨part, whole⟩ := induction final.of_append
      rw [received_append, handledInput_append, List.any_append]
      rcases wrote_or_silent event with
        ⟨data, io, rfl⟩ | ⟨silent, unhandled, -⟩
      · have taken : received [.wrote data io] =
            (asBytes data).take (channelTakes io.writes (asBytes data).length) := by
          simp [received, writeAll_taken]
        have handled : handledInput [.wrote data io] = asBytes data := by
          simp [handledInput]
        rw [taken, handled]
        cases cut : earlier.any cutsShort with
        | true =>
            have refused := final earlier data io [] rfl cut
            rw [refused, List.take_zero, List.append_nil]
            exact ⟨part.trans (List.prefix_append _ _), by simp⟩
        | false =>
            rw [whole cut]
            refine ⟨List.prefix_append_right_inj _ |>.mpr (List.take_prefix ..),
              fun uncut => ?_⟩
            have complete : ¬CutShort data io := by
              simpa [cutsShort] using uncut
            rw [List.take_of_length_le (Nat.le_of_not_lt complete)]
      · rw [silent, unhandled, List.append_nil, List.append_nil]
        refine ⟨part, fun uncut => whole ?_⟩
        exact (Bool.or_eq_false_iff.mp uncut).1

theorem received_after_cut (final : CutsAreFinal log)
    (split : log = before ++ .wrote data io :: after)
    (cut : CutShort data io) : received after = [] := by
  apply List.flatMap_eq_nil_iff.mpr
  intro event member
  rcases wrote_or_silent event with ⟨later, laterIo, rfl⟩ | ⟨silent, -⟩
  · obtain ⟨front, back, rfl⟩ := List.append_of_mem member
    have refused := final (before ++ .wrote data io :: front) later laterIo back
      (by rw [split]; simp) (by simp [cutsShort, cut])
    simp [writeAll_taken, refused]
  · simpa [received] using silent

theorem Move.input (move : Move worker next events) :
    worker.queue.flatMap commandInput ++ queuedInput events =
      handledInput events ++ next.queue.flatMap commandInput := by
  cases move with
  | queued running => simp [queuedInput, handledInput]
  | wrote draining head written =>
      simp [queuedInput, handledInput, head, commandInput]
  | writeFailed draining head failed =>
      simp [queuedInput, handledInput, head, commandInput]
  | resized draining head =>
      simp [queuedInput, handledInput, head, commandInput]
  | resizeFailed draining head =>
      simp [queuedInput, handledInput, head, commandInput]
  | closed draining head =>
      simp [queuedInput, handledInput, head, commandInput]
  | _ => simp [queuedInput, handledInput]

theorem queued_handled
    (run : machine.Run connected actions log worker) :
    queuedInput log =
      handledInput log ++ worker.queue.flatMap commandInput := by
  apply run.invariant
  · rfl
  · intro log worker action next events holds stepped
    rw [queuedInput_append, handledInput_append, holds, List.append_assoc,
      (step_move stepped).input, List.append_assoc]

/-! Once a write has been cut short, what the loop still handles carries
nothing. -/

def Silenced (log : List TerminalEvent) (worker : TerminalWorker) : Prop :=
  log.any cutsShort = true →
    worker.phase = .finished ∨ carriesInput worker.queue = false

theorem carriesInput_write
    (silent : carriesInput (.write data :: rest) = false) :
    asBytes data = [] ∧ carriesInput rest = false := by
  simpa [carriesInput] using silent

theorem commandStep_write (worker : TerminalWorker) (io : CommandIo)
    (data : String) :
    ∃ tail, (commandStep io worker (.write data)).2 = .wrote data io :: tail ∧
      (tail = [] ∨ ∃ status message, tail = [.status status message]) ∧
      (commandStep io worker (.write data)).1.queue = worker.queue := by
  simp only [commandStep]
  split
  · exact ⟨[], rfl, .inl rfl, rfl⟩
  · exact ⟨_, rfl, .inr ⟨_, _, rfl⟩, rfl⟩

theorem readStep_queue {result : ReadResult}
    (stepped : readStep worker result = some (next, events)) :
    next.queue = worker.queue ∧ events.any cutsShort = false := by
  cases result with
  | bytes chunk =>
      simp only [readStep] at stepped
      split at stepped
      · cases stepped
      · split at stepped
        · cases stepped
          exact ⟨rfl, rfl⟩
        · cases stepped
          exact ⟨rfl, rfl⟩
  | wouldBlock =>
      cases stepped
      exact ⟨rfl, rfl⟩
  | failed error =>
      cases stepped
      exact ⟨rfl, rfl⟩

theorem step_take
    (stepped : step worker (.take io) = some (next, events)) :
    worker.phase = .draining ∧ ∃ command rest,
      worker.queue = command :: rest ∧
      commandStep io { worker with queue := rest } command = (next, events) := by
  simp only [step] at stepped
  split at stepped
  · rename_i command rest draining head
    exact ⟨draining, command, rest, head, Option.some.inj stepped⟩
  · cases stepped

theorem Silenced.take (silenced : Silenced log worker)
    (permitted : refusedLast log worker (.take io) = true)
    (stepped : step worker (.take io) = some (next, events)) :
    Silenced (log ++ events) next := by
  obtain ⟨draining, command, rest, head, handled⟩ := step_take stepped
  intro cut
  rw [List.any_append, Bool.or_eq_true] at cut
  have silent : log.any cutsShort = true → carriesInput worker.queue = false := by
    intro earlier
    rcases silenced earlier with finished | silent
    · rw [draining] at finished
      cases finished
    · exact silent
  rw [head] at silent
  cases command with
  | write data =>
      obtain ⟨tail, wrote, reported, queue⟩ :=
        commandStep_write { worker with queue := rest } io data
      rw [handled] at wrote queue
      change events = .wrote data io :: tail at wrote
      change next.queue = rest at queue
      right
      rw [queue]
      rcases cut with earlier | now
      · exact (carriesInput_write (silent earlier)).2
      · have short : CutShort data io := by
          rcases reported with rfl | ⟨status, message, rfl⟩ <;>
            simpa [wrote, cutsShort] using now
        simpa [refusedLast, head, short] using permitted
  | resize cols rows =>
      have unwritten : events.any cutsShort = false ∧ next.queue = rest := by
        simp only [commandStep] at handled
        split at handled
        · cases handled
          exact ⟨rfl, rfl⟩
        · cases handled
          exact ⟨rfl, rfl⟩
      rcases cut with earlier | now
      · rw [unwritten.2]
        exact .inr (silent earlier)
      · rw [unwritten.1] at now
        cases now
  | close =>
      cases handled
      exact .inl rfl

theorem Silenced.step (silenced : Silenced log worker)
    (permitted : refusedLast log worker action = true)
    (stepped : TerminalWorker.step worker action = some (next, events)) :
    Silenced (log ++ events) next := by
  cases action with
  | send command =>
      simp only [TerminalWorker.step] at stepped
      split at stepped
      · cases stepped
        simpa using silenced
      · rename_i running
        cases stepped
        intro cut
        have earlier : log.any cutsShort = true := by
          simpa [cutsShort] using cut
        have quiet : worker.phase = .finished ∨
            carriesInput (worker.queue ++ [command]) = false := by
          simpa [refusedLast, earlier] using permitted
        exact quiet
  | stop =>
      simp only [TerminalWorker.step] at stepped
      split at stepped
      · cases stepped
        exact fun _ => .inl rfl
      · cases stepped
  | read result =>
      simp only [TerminalWorker.step] at stepped
      split at stepped
      · rename_i reading
        obtain ⟨queue, unwritten⟩ := readStep_queue stepped
        intro cut
        rw [List.any_append, unwritten, Bool.or_false] at cut
        rcases silenced cut with finished | silent
        · rw [reading] at finished
          cases finished
        · rw [queue]
          exact .inr silent
      · cases stepped
  | take io => exact silenced.take permitted stepped
  | checkEof eof =>
      simp only [TerminalWorker.step] at stepped
      split at stepped
      · rename_i draining drained
        split at stepped
        · cases stepped
          exact fun _ => .inl rfl
        · cases stepped
          intro _
          right
          rw [drained]
          rfl
      · cases stepped

theorem Move.wrote_head (move : Move worker next events)
    (split : events = before ++ .wrote data io :: after) :
    worker.phase = .draining ∧ before = [] ∧
      ∃ rest, worker.queue = .write data :: rest := by
  cases move with
  | wrote draining head written =>
      cases before with
      | nil =>
          obtain ⟨⟨rfl, rfl⟩, -⟩ := by simpa using split
          exact ⟨draining, rfl, _, head⟩
      | cons event before => simp at split
  | writeFailed draining head failed =>
      cases before with
      | nil =>
          obtain ⟨⟨rfl, rfl⟩, -⟩ := by simpa using split
          exact ⟨draining, rfl, _, head⟩
      | cons event before => simp [List.cons_eq_append_iff] at split
  | _ => simp [List.cons_eq_append_iff] at split

def CarriesNothing (past : List TerminalEvent) (event : TerminalEvent) : Prop :=
  ∀ data io, event = .wrote data io → past.any cutsShort = true →
    asBytes data = []

theorem Silenced.emitted (silenced : Silenced log worker)
    (stepped : TerminalWorker.step worker action = some (next, events)) :
    ∀ before event after, events = before ++ event :: after →
      CarriesNothing (log ++ before) event := by
  intro before event after split data io wrote cut
  subst wrote
  obtain ⟨draining, rfl, rest, head⟩ := (step_move stepped).wrote_head split
  rw [List.append_nil] at cut
  rcases silenced cut with finished | silent
  · rw [draining] at finished
    cases finished
  · rw [head] at silent
    exact (carriesInput_write silent).1

theorem cuts_final
    (run : machine.RunWhere refusedLast [] connected actions log worker) :
    CutsAreFinal log := by
  have initial : Silenced [] connected := fun cut => by cases cut
  have explained : ∀ before event after, log = before ++ event :: after →
      CarriesNothing ([] ++ before) event :=
    run.history Silenced initial
      (fun silenced permitted stepped => silenced.step permitted stepped)
      (fun silenced _ stepped => silenced.emitted stepped)
  intro before data io after split cut
  have empty := explained before (.wrote data io) after split data io rfl cut
  rw [empty, List.length_nil, channelTakes]

/-- The remote side receives its input without holes when a write that the
channel cuts short is the last input of the loop. -/
theorem input_unpunctured
    (run : machine.RunWhere refusedLast [] connected actions log worker) :
    Unpunctured log := by
  have final := cuts_final run
  refine ⟨?_, fun before data io after split cut =>
    received_after_cut final split cut⟩
  rw [queued_handled run.run]
  exact (received_handled final).1.trans (List.prefix_append _ _)

/-- One flush fails and the last line is cut after six bytes; what follows it is
a resize, a close and a line behind the close. -/
theorem input_unpunctured_cut :
    ∃ log worker,
      machine.RunWhere refusedLast [] connected
        [.send (.write "ls"), .send (.write "\n"), .send (.write "rm -r old\n"),
          .send (.resize 80 24), .read .wouldBlock,
          .take { flush := some "would block" },
          .take { writes := [.interrupted, .took 1] }, .send .close,
          .send (.write "exit\n"),
          .take { writes := [.took 6, .failed "would block"] }, .take {},
          .take {}] log worker ∧
      received log = asBytes "ls\nrm -r " ∧ Unpunctured log := by
  have executed : ∃ log worker,
      machine.RunWhere refusedLast [] connected
        [.send (.write "ls"), .send (.write "\n"), .send (.write "rm -r old\n"),
          .send (.resize 80 24), .read .wouldBlock,
          .take { flush := some "would block" },
          .take { writes := [.interrupted, .took 1] }, .send .close,
          .send (.write "exit\n"),
          .take { writes := [.took 6, .failed "would block"] }, .take {},
          .take {}] log worker ∧
      received log = asBytes "ls\nrm -r " :=
    ⟨_, _, Interleaving.Machine.runWhere_of_executeWhere rfl, rfl⟩
  obtain ⟨log, worker, run, taken⟩ := executed
  exact ⟨log, worker, run, taken, input_unpunctured run⟩

/-- The channel takes six bytes of the first line, would then block, and takes
the second line whole. -/
theorem cut_input_reaches_shell :
    ∃ log worker,
      machine.Run connected
        [.send (.write "rm -r old\n"), .send (.write "ls\n"),
          .read .wouldBlock,
          .take { writes := [.took 6, .failed "would block"] }, .take {}]
        log worker ∧
      received log = asBytes "rm -r ls\n" ∧
      ¬received log <+: queuedInput log := by
  have executed : ∃ log worker,
      machine.Run connected
        [.send (.write "rm -r old\n"), .send (.write "ls\n"),
          .read .wouldBlock,
          .take { writes := [.took 6, .failed "would block"] }, .take {}]
        log worker ∧
      received log = asBytes "rm -r ls\n" ∧
      queuedInput log = asBytes "rm -r old\nls\n" :=
    ⟨_, _, Interleaving.Machine.run_of_execute rfl, rfl, rfl⟩
  obtain ⟨log, worker, run, taken, input⟩ := executed
  refine ⟨log, worker, run, taken, ?_⟩
  rw [taken, input]
  decide

end TerminalWorker

end TitanSSH
