import Mathlib.Data.List.Infix

namespace Text

/-! Text as a list of characters: white space, words, lines and unsigned
numbers, as the Rust standard library reads them. -/

/-- The code points of Unicode's `White_Space`. -/
def isWhitespace (character : Char) : Bool :=
  let code := character.toNat
  (9 ≤ code && code ≤ 13) || code == 0x20 || code == 0x85 || code == 0xA0 ||
    code == 0x1680 || (0x2000 ≤ code && code ≤ 0x200A) || code == 0x2028 ||
    code == 0x2029 || code == 0x202F || code == 0x205F || code == 0x3000

def trimStart (text : List Char) : List Char :=
  text.dropWhile isWhitespace

def trimEnd (text : List Char) : List Char :=
  (text.reverse.dropWhile isWhitespace).reverse

def trim (text : List Char) : List Char :=
  trimEnd (trimStart text)

def trimEndMatches (symbol : Char) (text : List Char) : List Char :=
  (text.reverse.dropWhile (· == symbol)).reverse

def splitWhitespace (text : List Char) : List (List Char) :=
  (text.splitOnP isWhitespace).filter (!·.isEmpty)

/-- Lines end at `\n` or `\r\n`; a final line may lack its ending. -/
def lines : List Char → List (List Char)
  | [] => []
  | '\n' :: rest => [] :: lines rest
  | '\r' :: '\n' :: rest => [] :: lines rest
  | character :: rest =>
      match lines rest with
      | [] => [[character]]
      | line :: remaining => (character :: line) :: remaining

def Solid (word : List Char) : Prop :=
  word ≠ [] ∧ ∀ character ∈ word, isWhitespace character = false

instance (word : List Char) : Decidable (Solid word) :=
  decidable_of_iff (word ≠ [] ∧ word.all (fun character => !isWhitespace character))
    (by simp [Solid])

theorem trimStart_of_head (solid : isWhitespace character = false)
    (rest : List Char) : trimStart (character :: rest) = character :: rest := by
  simp [trimStart, solid]

theorem trimEnd_append (solid : Solid word) :
    trimEnd (text ++ word) = text ++ word := by
  obtain ⟨nonempty, clean⟩ := solid
  cases reversed : word.reverse with
  | nil => exact absurd (List.reverse_eq_nil_iff.mp reversed) nonempty
  | cons last rest =>
      have lastMember : last ∈ word := by
        have member : last ∈ word.reverse := by simp [reversed]
        exact List.mem_reverse.mp member
      have wordEq : word = rest.reverse ++ [last] := by
        rw [← List.reverse_reverse word, reversed, List.reverse_cons]
      subst wordEq
      simp [trimEnd, clean last lastMember]

theorem trim_of_solid_ends (first : Solid left) (middle : List Char)
    (last : Solid right) :
    trim (left ++ middle ++ right) = left ++ middle ++ right := by
  obtain ⟨nonempty, clean⟩ := first
  cases left with
  | nil => exact absurd rfl nonempty
  | cons head tail =>
      have headClean : isWhitespace head = false := clean head (by simp)
      have started : trimStart (head :: tail ++ middle ++ right) =
          head :: tail ++ middle ++ right := by
        simpa using trimStart_of_head headClean (tail ++ middle ++ right)
      rw [trim, started]
      exact trimEnd_append last

theorem trimEndMatches_of_not_mem (absent : symbol ∉ text) :
    trimEndMatches symbol text = text := by
  have kept : text.reverse.dropWhile (· == symbol) = text.reverse := by
    cases reversed : text.reverse with
    | nil => rfl
    | cons last rest =>
        have member : last ∈ text := by
          have inReverse : last ∈ text.reverse := by simp [reversed]
          exact List.mem_reverse.mp inReverse
        have different : last ≠ symbol := fun equal => absent (equal ▸ member)
        simp [different]
  rw [trimEndMatches, kept, List.reverse_reverse]

theorem splitWhitespace_solid (solid : Solid word) :
    splitWhitespace word = [word] := by
  rw [splitWhitespace, List.splitOnP_eq_singleton solid.2]
  simp [solid.1]

theorem splitWhitespace_cons_word (solid : Solid word) :
    splitWhitespace (word ++ ' ' :: rest) = word :: splitWhitespace rest := by
  have separated : isWhitespace ' ' = true := by decide
  rw [splitWhitespace, splitWhitespace,
    List.splitOnP_append_cons_of_forall_mem solid.2 ' ' separated]
  simp [solid.1]

theorem lines_cons_line
    (unbroken : ∀ character ∈ line, character ≠ '\n' ∧ character ≠ '\r') :
    lines (line ++ '\n' :: rest) = line :: lines rest := by
  induction line with
  | nil => rfl
  | cons head tail induction =>
      obtain ⟨notNewline, notReturn⟩ := unbroken head (by simp)
      have remaining := induction fun character member =>
        unbroken character (by simp [member])
      rw [List.cons_append, lines]
      · rw [remaining]
      · exact notNewline
      · exact fun _ isReturn => absurd isReturn notReturn

theorem lines_of_terminated {α : Type*} (items : List α)
    (entry : α → List Char)
    (unbroken : ∀ item ∈ items, ∀ character ∈ entry item,
      character ≠ '\n' ∧ character ≠ '\r') :
    lines (items.flatMap fun item => entry item ++ ['\n']) =
      items.map entry := by
  induction items with
  | nil => rfl
  | cons head tail induction =>
      have remaining := induction fun item member =>
        unbroken item (by simp [member])
      rw [List.flatMap_cons, List.append_assoc, List.singleton_append,
        lines_cons_line (unbroken head (by simp)), remaining, List.map_cons]

theorem Solid.unbroken (solid : Solid word) (character : Char)
    (member : character ∈ word) : character ≠ '\n' ∧ character ≠ '\r' := by
  have clean := solid.2 character member
  constructor <;> intro equal <;> subst equal <;> exact absurd clean (by decide)

/-! Unsigned decimal numbers. -/

inductive IntErrorKind
  | empty
  | invalidDigit
  | posOverflow
  deriving DecidableEq, Repr

def IntErrorKind.description : IntErrorKind → String
  | .empty => "cannot parse integer from empty string"
  | .invalidDigit => "invalid digit found in string"
  | .posOverflow => "number too large to fit in target type"

def toDigit? (character : Char) : Option ℕ :=
  if character.isDigit then some (character.toNat - '0'.toNat) else none

def parseDigits (bound : ℕ) : ℕ → List Char → Except IntErrorKind ℕ
  | result, [] => .ok result
  | result, character :: rest =>
      match toDigit? character with
      | none => .error .invalidDigit
      | some digit =>
          if 10 * result + digit < bound then
            parseDigits bound (10 * result + digit) rest
          else .error .posOverflow

/-- The numbers below `bound`, with an optional plus sign. -/
def parseUnsigned (bound : ℕ) : List Char → Except IntErrorKind ℕ
  | [] => .error .empty
  | ['+'] => .error .invalidDigit
  | ['-'] => .error .invalidDigit
  | '+' :: digits => parseDigits bound 0 digits
  | digits => parseDigits bound 0 digits

theorem parseDigits_ofDigitChars
    (digits : ∀ character ∈ text, character.isDigit = true)
    (fits : Nat.ofDigitChars 10 text result < bound) :
    parseDigits bound result text = .ok (Nat.ofDigitChars 10 text result) := by
  induction text generalizing result with
  | nil => simp [parseDigits]
  | cons head tail induction =>
      have headDigit : toDigit? head = some (head.toNat - '0'.toNat) := by
        simp [toDigit?, digits head (by simp)]
      rw [Nat.ofDigitChars_cons] at fits
      have grown : 10 * result + (head.toNat - '0'.toNat) ≤
          Nat.ofDigitChars 10 tail
            (10 * result + (head.toNat - '0'.toNat)) := by
        rw [Nat.ofDigitChars_eq_ofDigitChars_zero]
        have positive : 1 ≤ 10 ^ tail.length := Nat.one_le_pow _ _ (by decide)
        exact le_trans (Nat.le_mul_of_pos_left _ positive)
          (Nat.le_add_right _ _)
      have small : 10 * result + (head.toNat - '0'.toNat) < bound :=
        lt_of_le_of_lt grown fits
      rw [parseDigits, headDigit, Nat.ofDigitChars_cons]
      simp only [small, if_true]
      exact induction (fun character member =>
        digits character (by simp [member])) fits

theorem parseUnsigned_of_digits (nonempty : text ≠ [])
    (digits : ∀ character ∈ text, character.isDigit = true) :
    parseUnsigned bound text = parseDigits bound 0 text := by
  cases text with
  | nil => exact absurd rfl nonempty
  | cons head tail =>
      have headDigit := digits head (by simp)
      have notPlus : head ≠ '+' := fun equal => by subst equal; simp at headDigit
      have notMinus : head ≠ '-' := fun equal => by subst equal; simp at headDigit
      rw [parseUnsigned]
      · simp
      · simp [notPlus]
      · simp [notMinus]
      · simp [notPlus]

theorem parseUnsigned_toDigits (fits : value < bound) :
    parseUnsigned bound (Nat.toDigits 10 value) = .ok value := by
  have digits : ∀ character ∈ Nat.toDigits 10 value,
      character.isDigit = true := fun character member =>
    Nat.isDigit_of_mem_toDigits (b := 10) (by decide) (by decide) member
  rw [parseUnsigned_of_digits Nat.toDigits_ne_nil digits,
    parseDigits_ofDigitChars digits (by rwa [Nat.ofDigitChars_ten_toDigits]),
    Nat.ofDigitChars_ten_toDigits]

theorem parseDigits_lt (small : result < bound)
    (parsed : parseDigits bound result text = .ok value) : value < bound := by
  induction text generalizing result with
  | nil =>
      cases parsed
      exact small
  | cons head tail induction =>
      rw [parseDigits] at parsed
      split at parsed
      · cases parsed
      · split at parsed
        · next fits => exact induction fits parsed
        · cases parsed

theorem parseUnsigned_lt (positive : 0 < bound)
    (parsed : parseUnsigned bound text = .ok value) : value < bound := by
  rw [parseUnsigned.eq_def] at parsed
  split at parsed
  · cases parsed
  · cases parsed
  · cases parsed
  · exact parseDigits_lt positive parsed
  · exact parseDigits_lt positive parsed

theorem parseDigits_not_ok (member : symbol ∈ text)
    (notDigit : symbol.isDigit = false) :
    parseDigits bound result text ≠ .ok value := by
  induction text generalizing result with
  | nil => simp at member
  | cons head tail induction =>
      rw [parseDigits]
      cases read : toDigit? head with
      | none => simp
      | some digit =>
          have headDigit : head.isDigit = true := by
            by_contra contrary
            simp [toDigit?, contrary] at read
          have different : symbol ≠ head := fun equal => by
            subst equal
            simp [headDigit] at notDigit
          have inTail : symbol ∈ tail := by simpa [different] using member
          by_cases fits : 10 * result + digit < bound
          · simpa [fits] using induction inTail
          · simp [fits]

theorem parseUnsigned_not_ok (symbol : Char) (member : symbol ∈ text)
    (notDigit : symbol.isDigit = false) (notPlus : symbol ≠ '+') :
    parseUnsigned bound text ≠ .ok value := by
  rw [parseUnsigned.eq_def]
  split
  · simp
  · simp
  · simp
  · exact parseDigits_not_ok (by simpa [notPlus] using member) notDigit
  · exact parseDigits_not_ok member notDigit

/-! Texts inside texts. -/

def Mentions (text needle : String) : Prop :=
  needle.toList <:+: text.toList

instance (text needle : String) : Decidable (Mentions text needle) :=
  inferInstanceAs (Decidable (_ <:+: _))

theorem mentions_self (text : String) : Mentions text text :=
  List.infix_rfl

theorem Mentions.trans (inner : Mentions middle needle)
    (outer : Mentions text middle) : Mentions text needle :=
  List.IsInfix.trans inner outer

theorem Mentions.append_left (mentions : Mentions text needle)
    (before : String) : Mentions (before ++ text) needle := by
  rw [Mentions, String.toList_append]
  exact List.IsInfix.trans mentions (List.suffix_append _ _).isInfix

theorem Mentions.append_right (mentions : Mentions text needle)
    (after : String) : Mentions (text ++ after) needle := by
  rw [Mentions, String.toList_append]
  exact List.IsInfix.trans mentions (List.prefix_append _ _).isInfix

end Text
