import Mathlib.Data.List.Basic

namespace Utf8

/-! UTF-8 as byte lists: encoding, and the lossy decoding that puts one
replacement character for each maximal part that is not UTF-8. -/

def encode (text : List Char) : List UInt8 :=
  text.flatMap String.utf8EncodeChar

def Valid (bytes : List UInt8) : Prop :=
  ∃ text, encode text = bytes

def decodeChar? (bytes : List UInt8) : Option Char :=
  bytes.toByteArray.utf8DecodeChar? 0

def isContinuation (byte : UInt8) : Bool :=
  0x80 ≤ byte && byte ≤ 0xBF

/-- What may stand second after the first byte of three or four. -/
def secondAllowed (first second : UInt8) : Bool :=
  isContinuation second &&
    (if first = 0xE0 then decide (0xA0 ≤ second)
    else if first = 0xED then decide (second ≤ 0x9F)
    else if first = 0xF0 then decide (0x90 ≤ second)
    else if first = 0xF4 then decide (second ≤ 0x8F)
    else 0xE1 ≤ first && first ≤ 0xF3)

/-- How far an encoding that breaks off or goes wrong had come. -/
def invalidLength : List UInt8 → ℕ
  | first :: second :: rest =>
      if secondAllowed first second then
        match rest with
        | third :: _ => if 0xF0 ≤ first && isContinuation third then 3 else 2
        | [] => 2
      else 1
  | _ => 1

def replacement : Char := '\uFFFD'

/-- The first character of a decoding, and how many bytes it stands for. -/
def firstChunk (bytes : List UInt8) : Char × ℕ :=
  match decodeChar? bytes with
  | some character => (character, character.utf8Size)
  | none => (replacement, invalidLength bytes)

def lossyWithin : ℕ → List UInt8 → List Char
  | 0, _ => []
  | _ + 1, [] => []
  | fuel + 1, byte :: rest =>
      (firstChunk (byte :: rest)).1 ::
        lossyWithin fuel ((byte :: rest).drop (firstChunk (byte :: rest)).2)

def decodeLossy (bytes : List UInt8) : List Char :=
  lossyWithin bytes.length bytes

@[simp] theorem encode_nil : encode [] = [] := rfl

@[simp] theorem encode_cons (character : Char) (text : List Char) :
    encode (character :: text) =
      String.utf8EncodeChar character ++ encode text := by
  simp [encode]

@[simp] theorem encode_append (left right : List Char) :
    encode (left ++ right) = encode left ++ encode right := by
  simp [encode]

theorem valid_encode (text : List Char) : Valid (encode text) :=
  ⟨text, rfl⟩

theorem decodeChar?_encodeChar (character : Char) (rest : List UInt8) :
    decodeChar? (String.utf8EncodeChar character ++ rest) =
      some character := by
  rw [decodeChar?, List.toByteArray_append]
  exact ByteArray.utf8DecodeChar?_utf8EncodeChar_append

theorem eq_of_decodeChar? (decoded : decodeChar? bytes = some character) :
    ∃ rest, bytes = String.utf8EncodeChar character ++ rest := by
  obtain ⟨rest, split⟩ := ByteArray.exists_of_utf8DecodeChar?_eq_some decoded
  refine ⟨rest.data.toList, ?_⟩
  have data := congrArg (fun array => array.data.toList) split
  simpa using data

theorem invalidLength_pos (bytes : List UInt8) : 0 < invalidLength bytes := by
  unfold invalidLength
  split
  · split
    · split
      · split <;> decide
      · decide
    · decide
  · decide

theorem firstChunk_pos (bytes : List UInt8) : 0 < (firstChunk bytes).2 := by
  unfold firstChunk
  split
  · exact Char.utf8Size_pos _
  · exact invalidLength_pos bytes

theorem drop_firstChunk_length (byte : UInt8) (rest : List UInt8) :
    ((byte :: rest).drop (firstChunk (byte :: rest)).2).length ≤
      rest.length := by
  have positive := firstChunk_pos (byte :: rest)
  rw [List.length_drop, List.length_cons]
  omega

theorem lossyWithin_eq {bytes : List UInt8} (enough : bytes.length ≤ fuel)
    (enough' : bytes.length ≤ fuel') :
    lossyWithin fuel bytes = lossyWithin fuel' bytes := by
  induction fuel generalizing bytes fuel' with
  | zero =>
      cases bytes with
      | nil => cases fuel' <;> rfl
      | cons byte rest => simp at enough
  | succ fuel induction =>
      cases bytes with
      | nil => cases fuel' <;> rfl
      | cons byte rest =>
          cases fuel' with
          | zero => simp at enough'
          | succ fuel' =>
              have shorter := drop_firstChunk_length byte rest
              have fits : rest.length ≤ fuel := Nat.le_of_succ_le_succ enough
              have fits' : rest.length ≤ fuel' := Nat.le_of_succ_le_succ enough'
              rw [lossyWithin, lossyWithin,
                induction (Nat.le_trans shorter fits)
                  (Nat.le_trans shorter fits')]

theorem decodeLossy_cons (byte : UInt8) (rest : List UInt8) :
    decodeLossy (byte :: rest) =
      (firstChunk (byte :: rest)).1 ::
        decodeLossy ((byte :: rest).drop (firstChunk (byte :: rest)).2) := by
  have shorter := drop_firstChunk_length byte rest
  rw [decodeLossy, List.length_cons, lossyWithin, decodeLossy,
    lossyWithin_eq shorter (Nat.le_refl _)]

theorem decodeLossy_encodeChar (character : Char) (rest : List UInt8) :
    decodeLossy (String.utf8EncodeChar character ++ rest) =
      character :: decodeLossy rest := by
  have decoded := decodeChar?_encodeChar character rest
  have chunk : firstChunk (String.utf8EncodeChar character ++ rest) =
      (character, character.utf8Size) := by
    rw [firstChunk, decoded]
  cases bytes : String.utf8EncodeChar character ++ rest with
  | nil => simp at bytes
  | cons byte tail =>
      rw [decodeLossy_cons, ← bytes, chunk,
        ← String.length_utf8EncodeChar character, List.drop_left]

theorem decodeLossy_encode (text : List Char) :
    decodeLossy (encode text) = text := by
  induction text with
  | nil => rfl
  | cons character rest induction =>
      rw [encode_cons, decodeLossy_encodeChar, induction]

theorem encode_injective : Function.Injective encode :=
  Function.LeftInverse.injective decodeLossy_encode

/-! Counting first bytes.  Every character of a decoding, the replacement
included, stands for at most one first byte. -/

def firstBytes (bytes : List UInt8) : ℕ :=
  bytes.countP (·.IsUTF8FirstByte)

def StartsCharacter : List UInt8 → Prop
  | [] => True
  | byte :: _ => byte.IsUTF8FirstByte

theorem isContinuation_not_first {byte : UInt8}
    (continues : isContinuation byte = true) : ¬byte.IsUTF8FirstByte := by
  unfold isContinuation at continues
  obtain ⟨⟨⟨value, bounded⟩⟩⟩ := byte
  revert value
  decide +kernel

theorem encodeChar_cons (character : Char) :
    ∃ first rest, String.utf8EncodeChar character = first :: rest ∧
      first.IsUTF8FirstByte ∧ ∀ byte ∈ rest, ¬byte.IsUTF8FirstByte := by
  have position : ∀ index (inside : index <
      (String.utf8EncodeChar character).length),
      (String.utf8EncodeChar character)[index].IsUTF8FirstByte ↔ index = 0 :=
    fun _ _ => UInt8.isUTF8FirstByte_getElem_utf8EncodeChar
  have nonempty := @String.utf8EncodeChar_ne_nil character
  generalize String.utf8EncodeChar character = bytes at position nonempty
  cases bytes with
  | nil => exact absurd rfl nonempty
  | cons first rest =>
      refine ⟨first, rest, rfl, (position 0 (by simp)).mpr rfl, ?_⟩
      intro byte member firstByte
      obtain ⟨index, inside, rfl⟩ := List.getElem_of_mem member
      have atIndex := (position (index + 1) (by simpa using inside)).mp
        (by simpa using firstByte)
      omega

/-- Past its first byte, what a character of a decoding stands for starts no
other. -/
theorem firstChunk_rest (byte : UInt8) (rest : List UInt8) :
    ∀ other ∈ rest.take ((firstChunk (byte :: rest)).2 - 1),
      ¬other.IsUTF8FirstByte := by
  intro other member
  unfold firstChunk at member
  split at member
  · rename_i character decoded
    obtain ⟨after, split⟩ := eq_of_decodeChar? decoded
    obtain ⟨first, others, bytes, _, notFirst⟩ := encodeChar_cons character
    have size : character.utf8Size = others.length + 1 := by
      rw [← String.length_utf8EncodeChar, bytes, List.length_cons]
    rw [bytes, List.cons_append] at split
    obtain ⟨_, rfl⟩ := List.cons.inj split
    rw [size, Nat.add_sub_cancel, List.take_left] at member
    exact notFirst other member
  · unfold invalidLength at member
    split at member
    · rename_i first second following shape
      obtain ⟨rfl, rfl⟩ := List.cons.inj shape
      split at member
      · rename_i allowed
        have secondNotFirst : ¬second.IsUTF8FirstByte := by
          simp only [secondAllowed, Bool.and_eq_true] at allowed
          exact isContinuation_not_first allowed.1
        split at member
        · rename_i third _ _
          split at member
          · rename_i longer
            have thirdNotFirst : ¬third.IsUTF8FirstByte := by
              simp only [Bool.and_eq_true] at longer
              exact isContinuation_not_first longer.2
            rcases (by simpa using member : other = second ∨ other = third)
              with rfl | rfl
            · exact secondNotFirst
            · exact thirdNotFirst
          · rw [(by simpa using member : other = second)]
            exact secondNotFirst
        · rw [(by simpa using member : other = second)]
          exact secondNotFirst
      · simp at member
    · simp at member

theorem firstBytes_cons (byte : UInt8) (rest : List UInt8) :
    firstBytes (byte :: rest) =
      (if byte.IsUTF8FirstByte then 1 else 0) +
        firstBytes ((byte :: rest).drop (firstChunk (byte :: rest)).2) := by
  have positive := firstChunk_pos (byte :: rest)
  obtain ⟨beyond, size⟩ : ∃ beyond,
      (firstChunk (byte :: rest)).2 = beyond + 1 :=
    ⟨_, (Nat.succ_pred_eq_of_pos positive).symm⟩
  have quiet := firstChunk_rest byte rest
  rw [size, Nat.add_sub_cancel] at quiet
  have none : (rest.take beyond).countP (·.IsUTF8FirstByte) = 0 := by
    apply List.countP_eq_zero.mpr
    intro other member
    simpa using quiet other member
  have split : rest.countP (·.IsUTF8FirstByte) =
      (rest.drop beyond).countP (·.IsUTF8FirstByte) := by
    conv_lhs => rw [← List.take_append_drop beyond rest]
    rw [List.countP_append, none, Nat.zero_add]
  rw [size, List.drop_succ_cons, firstBytes, firstBytes, List.countP_cons,
    split, Nat.add_comm]
  simp

theorem firstBytes_le_decodeLossy (bytes : List UInt8) :
    firstBytes bytes ≤ (decodeLossy bytes).length := by
  induction size : bytes.length using Nat.strongRecOn generalizing bytes with
  | _ count induction =>
      cases bytes with
      | nil => simp [firstBytes]
      | cons byte rest =>
          have shorter := drop_firstChunk_length byte rest
          have remaining := induction _ (by rw [← size, List.length_cons]; omega)
            ((byte :: rest).drop (firstChunk (byte :: rest)).2) rfl
          rw [firstBytes_cons, decodeLossy_cons, List.length_cons]
          split <;> omega

theorem firstBytes_lt_decodeLossy (inside : ¬StartsCharacter bytes) :
    firstBytes bytes < (decodeLossy bytes).length := by
  cases bytes with
  | nil => exact absurd trivial inside
  | cons byte rest =>
      have remaining := firstBytes_le_decodeLossy
        ((byte :: rest).drop (firstChunk (byte :: rest)).2)
      have notFirst : ¬byte.IsUTF8FirstByte := inside
      rw [firstBytes_cons, decodeLossy_cons, List.length_cons, if_neg notFirst]
      omega

theorem firstBytes_encode (text : List Char) :
    firstBytes (encode text) = text.length := by
  induction text with
  | nil => rfl
  | cons character rest induction =>
      obtain ⟨first, others, bytes, isFirst, notFirst⟩ :=
        encodeChar_cons character
      have one : firstBytes (String.utf8EncodeChar character) = 1 := by
        have none : others.countP (·.IsUTF8FirstByte) = 0 := by
          apply List.countP_eq_zero.mpr
          intro other member
          simpa using notFirst other member
        simp [firstBytes, bytes, isFirst, none]
      rw [encode_cons, firstBytes, List.countP_append, ← firstBytes,
        ← firstBytes, one, induction, List.length_cons, Nat.add_comm]

theorem valid_of_append (whole : encode text = left ++ right)
    (starts : StartsCharacter right) : Valid left ∧ Valid right := by
  induction text generalizing left with
  | nil =>
      obtain ⟨rfl, rfl⟩ := List.append_eq_nil_iff.mp whole.symm
      exact ⟨valid_encode [], valid_encode []⟩
  | cons character rest induction =>
      rw [encode_cons] at whole
      rcases List.append_eq_append_iff.mp whole with
        ⟨middle, leftEq, restEq⟩ | ⟨middle, charEq, rightEq⟩
      · obtain ⟨⟨front, frontEq⟩, rightValid⟩ := induction restEq
        refine ⟨⟨character :: front, ?_⟩, rightValid⟩
        rw [encode_cons, frontEq, leftEq]
      · cases middle with
        | nil =>
            rw [List.append_nil] at charEq
            rw [List.nil_append] at rightEq
            exact ⟨⟨[character], by simp [charEq]⟩, ⟨rest, rightEq.symm⟩⟩
        | cons byte remaining =>
            obtain ⟨first, others, bytes, isFirst, notFirst⟩ :=
              encodeChar_cons character
            rw [bytes] at charEq
            cases left with
            | nil =>
                refine ⟨valid_encode [], ⟨character :: rest, ?_⟩⟩
                rw [encode_cons, bytes, charEq, rightEq, List.nil_append]
            | cons head tail =>
                obtain ⟨_, rfl⟩ := List.cons.inj charEq
                rw [rightEq] at starts
                exact absurd starts (notFirst byte (by simp))

/-! Decoding a text in chunks. -/

variable {chunks : List (List UInt8)}

theorem firstBytes_append (left right : List UInt8) :
    firstBytes (left ++ right) = firstBytes left + firstBytes right :=
  List.countP_append

theorem firstBytes_flatten_le (chunks : List (List UInt8)) :
    firstBytes chunks.flatten ≤ (chunks.flatMap decodeLossy).length := by
  induction chunks with
  | nil => exact Nat.le_refl 0
  | cons chunk rest induction =>
      have first := firstBytes_le_decodeLossy chunk
      rw [List.flatten_cons, firstBytes_append, List.flatMap_cons,
        List.length_append]
      exact Nat.add_le_add first induction

theorem startsCharacter_of_count
    (counted : firstBytes chunks.flatten = (chunks.flatMap decodeLossy).length) :
    ∀ chunk ∈ chunks, StartsCharacter chunk := by
  induction chunks with
  | nil => simp
  | cons first rest induction =>
      rw [List.flatten_cons, firstBytes_append, List.flatMap_cons,
        List.length_append] at counted
      have firstLe := firstBytes_le_decodeLossy first
      have restLe := firstBytes_flatten_le rest
      have starts : StartsCharacter first := by
        by_contra inside
        have strict := firstBytes_lt_decodeLossy inside
        omega
      have remaining := induction (by omega)
      intro chunk member
      rcases List.mem_cons.mp member with rfl | inRest
      · exact starts
      · exact remaining chunk inRest

theorem startsCharacter_flatten
    (starts : ∀ chunk ∈ chunks, StartsCharacter chunk) :
    StartsCharacter chunks.flatten := by
  induction chunks with
  | nil => exact trivial
  | cons first rest induction =>
      cases first with
      | nil => exact induction fun chunk member => starts chunk (by simp [member])
      | cons byte remaining => exact starts (byte :: remaining) (by simp)

theorem valid_of_startsCharacter (whole : Valid chunks.flatten)
    (starts : ∀ chunk ∈ chunks, StartsCharacter chunk) :
    ∀ chunk ∈ chunks, Valid chunk := by
  induction chunks with
  | nil => simp
  | cons first rest induction =>
      obtain ⟨text, encoded⟩ := whole
      have restStarts : ∀ chunk ∈ rest, StartsCharacter chunk :=
        fun chunk member => starts chunk (by simp [member])
      obtain ⟨firstValid, restValid⟩ :=
        valid_of_append encoded (startsCharacter_flatten restStarts)
      intro chunk member
      rcases List.mem_cons.mp member with rfl | inRest
      · exact firstValid
      · exact induction restValid restStarts chunk inRest

theorem encode_flatMap_decodeLossy (valid : ∀ chunk ∈ chunks, Valid chunk) :
    encode (chunks.flatMap decodeLossy) = chunks.flatten := by
  induction chunks with
  | nil => rfl
  | cons first rest induction =>
      obtain ⟨text, rfl⟩ := valid first (by simp)
      rw [List.flatMap_cons, encode_append, decodeLossy_encode,
        List.flatten_cons,
        induction fun chunk member => valid chunk (by simp [member])]

/-- Decoding the chunks of a text one by one gives the text exactly when no
chunk boundary is inside a character. -/
theorem decodeLossy_chunks_iff (whole : chunks.flatten = encode text) :
    chunks.flatMap decodeLossy = text ↔ ∀ chunk ∈ chunks, Valid chunk := by
  constructor
  · intro decoded
    apply valid_of_startsCharacter ⟨text, whole.symm⟩
    apply startsCharacter_of_count
    rw [whole, firstBytes_encode, decoded]
  · intro valid
    apply encode_injective
    rw [encode_flatMap_decodeLossy valid, whole]

end Utf8
