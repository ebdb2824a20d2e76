import TitanSSH.Core.Terminal.Worker

namespace TitanSSH

namespace TerminalWorker

/-! Terminal output, from the reads of the channel to the emitted text. -/

def chunks (log : List TerminalEvent) : List (List UInt8) :=
  log.filterMap fun
    | .data chunk _ => some chunk
    | _ => none

def emittedText (log : List TerminalEvent) : List Char :=
  log.flatMap fun
    | .data _ text => text.toList
    | _ => []

theorem Move.data (move : Move worker next events)
    (member : .data chunk text ∈ events) :
    text = String.ofList (Utf8.decodeLossy chunk) ∧ chunk ≠ [] ∧
      chunk.length ≤ bufferSize := by
  cases move with
  | readChunk reading nonempty fits =>
      obtain ⟨rfl, rfl⟩ := TerminalEvent.data.inj (List.mem_singleton.mp member)
      exact ⟨rfl, nonempty, fits⟩
  | _ => simp at member

def DecodedReads (log : List TerminalEvent) : Prop :=
  ∀ chunk text, .data chunk text ∈ log →
    text = String.ofList (Utf8.decodeLossy chunk) ∧ chunk ≠ [] ∧
      chunk.length ≤ bufferSize

theorem decodedReads (run : machine.Run connected actions log worker) :
    DecodedReads log := by
  apply run.invariant
  · intro chunk text member
    simp at member
  · intro log worker action next events holds stepped chunk text member
    cases List.mem_append.mp member with
    | inl earlier => exact holds chunk text earlier
    | inr new => exact (step_move stepped).data new

theorem emittedText_eq (decoded : DecodedReads log) :
    emittedText log = (chunks log).flatMap Utf8.decodeLossy := by
  induction log with
  | nil => rfl
  | cons event rest induction =>
      have remaining := induction fun chunk text member =>
        decoded chunk text (by simp [member])
      simp only [emittedText, chunks] at remaining
      cases event with
      | data chunk text =>
          obtain ⟨rfl, _⟩ := decoded chunk text (by simp)
          simp [emittedText, chunks, remaining]
      | _ => simpa [emittedText, chunks] using remaining

/-- Output in UTF-8 is emitted unchanged exactly when no read ends inside a
character. -/
theorem emitted_iff (run : machine.Run connected actions log worker)
    (stream : (chunks log).flatten = Utf8.encode text) :
    emittedText log = text ↔ ∀ chunk ∈ chunks log, Utf8.Valid chunk := by
  rw [emittedText_eq (decodedReads run)]
  exact Utf8.decodeLossy_chunks_iff stream

theorem run_of_reads
    (fit : ∀ chunk ∈ reads, chunk ≠ [] ∧ chunk.length ≤ bufferSize) :
    ∃ actions log, machine.Run connected actions log connected ∧
      chunks log = reads := by
  induction reads using List.reverseRecOn with
  | nil => exact ⟨[], [], .refl, rfl⟩
  | append_singleton earlier chunk induction =>
      obtain ⟨actions, log, run, read⟩ := induction fun other member =>
        fit other (by simp [member])
      obtain ⟨nonempty, fits⟩ := fit chunk (by simp)
      have reading : machine.step connected (.read (.bytes chunk)) =
          some ({ connected with phase := .draining },
            [.data chunk (String.ofList (Utf8.decodeLossy chunk))]) := by
        simp [machine, step, readStep, connected, Nat.not_lt.mpr fits, nonempty]
      have checking : machine.step { connected with phase := .draining }
          (.checkEof false) = some (connected, []) := rfl
      refine ⟨_, _, (run.snoc reading).snoc checking, ?_⟩
      rw [← read]
      simp [chunks]

theorem emitted_whole_characters :
    ∃ log worker,
      machine.Run connected
        [.read (.bytes [0x63, 0xC3, 0xA9]), .checkEof false,
          .read (.bytes [0xC3, 0xA9])] log worker ∧
      emittedText log = ['c', 'é', 'é'] := by
  have executed : ∃ log worker,
      machine.Run connected
        [.read (.bytes [0x63, 0xC3, 0xA9]), .checkEof false,
          .read (.bytes [0xC3, 0xA9])] log worker ∧
      chunks log = [[0x63, 0xC3, 0xA9], [0xC3, 0xA9]] :=
    ⟨_, _, Interleaving.Machine.run_of_execute rfl, rfl⟩
  obtain ⟨log, worker, run, reads⟩ := executed
  refine ⟨log, worker, run, (emitted_iff run ?_).mpr ?_⟩
  · rw [reads]
    decide
  · intro chunk member
    rw [reads] at member
    rcases (by simpa using member :
        chunk = [0x63, 0xC3, 0xA9] ∨ chunk = [0xC3, 0xA9]) with rfl | rfl
    · exact ⟨['c', 'é'], by decide⟩
    · exact ⟨['é'], by decide⟩

/-- The two bytes of one character, read one by one, come out as two
replacement characters. -/
theorem split_character_replaced :
    ∃ log worker,
      machine.Run connected
        [.read (.bytes [0xC3]), .checkEof false, .read (.bytes [0xA9])]
        log worker ∧
      (chunks log).flatten = Utf8.encode ['é'] ∧
      emittedText log = ['\uFFFD', '\uFFFD'] := by
  exact ⟨_, _, Interleaving.Machine.run_of_execute rfl, by decide, by decide⟩

end TerminalWorker

end TitanSSH
