import Mathlib.Data.List.Basic
import Mathlib.Data.Nat.Notation
import Mathlib.Logic.Function.Basic

namespace Base64

/-! Standard base64 without padding: three octets are four sextets, and a last
group of one or two octets is two or three sextets whose spare bits are zero. -/

def alphabet : List Char :=
  "ABCDEFGHIJKLMNOPQRSTUVWXYZabcdefghijklmnopqrstuvwxyz0123456789+/".toList

def symbol (sextet : ℕ) : Char :=
  alphabet.getD sextet 'A'

def value? (character : Char) : Option ℕ :=
  alphabet.idxOf? character

inductive DecodeError
  | invalidByte (offset : ℕ) (byte : UInt8)
  | invalidLength (length : ℕ)
  | invalidLastSymbol (offset : ℕ) (byte : UInt8)
  deriving DecidableEq, Repr

def DecodeError.description : DecodeError → String
  | .invalidByte offset byte =>
      "Invalid symbol " ++ toString byte ++ ", offset " ++ toString offset ++
        "."
  | .invalidLength length => "Invalid input length: " ++ toString length
  | .invalidLastSymbol offset byte =>
      "Invalid last symbol " ++ toString byte ++ ", offset " ++
        toString offset ++ "."

def sextets : List UInt8 → List ℕ
  | [] => []
  | [first] => [first.toNat / 4, first.toNat % 4 * 16]
  | [first, second] =>
      [first.toNat / 4, first.toNat % 4 * 16 + second.toNat / 16,
        second.toNat % 16 * 4]
  | first :: second :: third :: rest =>
      first.toNat / 4 :: (first.toNat % 4 * 16 + second.toNat / 16) ::
        (second.toNat % 16 * 4 + third.toNat / 64) :: third.toNat % 64 ::
        sextets rest

def encode (bytes : List UInt8) : List Char :=
  (sextets bytes).map symbol

/-- The first octet of a character's encoding. -/
def leadingByte (character : Char) : UInt8 :=
  (String.utf8EncodeChar character).headD 0

def readSymbols (offset : ℕ) : List Char → Except DecodeError (List ℕ)
  | [] => .ok []
  | character :: rest =>
      match value? character with
      | none => .error (.invalidByte offset (leadingByte character))
      | some sextet =>
          match readSymbols (offset + 1) rest with
          | .error error => .error error
          | .ok remaining => .ok (sextet :: remaining)

def octets (offset : ℕ) : List ℕ → Except DecodeError (List UInt8)
  | [] => .ok []
  | [_] => .error (.invalidLength (offset + 1))
  | [first, second] =>
      if second % 16 = 0 then .ok [.ofNat (first * 4 + second / 16)]
      else .error (.invalidLastSymbol (offset + 1)
        (leadingByte (symbol second)))
  | [first, second, third] =>
      if third % 4 = 0 then
        .ok [.ofNat (first * 4 + second / 16),
          .ofNat (second % 16 * 16 + third / 4)]
      else .error (.invalidLastSymbol (offset + 2)
        (leadingByte (symbol third)))
  | first :: second :: third :: fourth :: rest =>
      match octets (offset + 4) rest with
      | .error error => .error error
      | .ok remaining =>
          .ok (.ofNat (first * 4 + second / 16) ::
            .ofNat (second % 16 * 16 + third / 4) ::
            .ofNat (third % 4 * 64 + fourth) :: remaining)

def decode (text : List Char) : Except DecodeError (List UInt8) :=
  match readSymbols 0 text with
  | .error error => .error error
  | .ok values => octets 0 values

theorem sextets_lt : ∀ (bytes : List UInt8), ∀ sextet ∈ sextets bytes,
    sextet < 64
  | [], sextet, member => by simp [sextets] at member
  | [first], sextet, member => by
      have firstLt := first.toNat_lt
      simp only [sextets, List.mem_cons, List.not_mem_nil, or_false] at member
      omega
  | [first, second], sextet, member => by
      have firstLt := first.toNat_lt
      have secondLt := second.toNat_lt
      simp only [sextets, List.mem_cons, List.not_mem_nil, or_false] at member
      omega
  | first :: second :: third :: rest, sextet, member => by
      have firstLt := first.toNat_lt
      have secondLt := second.toNat_lt
      have thirdLt := third.toNat_lt
      simp only [sextets, List.mem_cons] at member
      rcases member with equal | equal | equal | equal | inRest
      · omega
      · omega
      · omega
      · omega
      · exact sextets_lt rest sextet inRest

theorem value?_symbol (small : sextet < 64) :
    value? (symbol sextet) = some sextet := by
  have everywhere : ∀ index : Fin 64,
      value? (symbol index) = some index.val := by decide +kernel
  exact everywhere ⟨sextet, small⟩

theorem readSymbols_map_symbol (offset : ℕ)
    (small : ∀ sextet ∈ values, sextet < 64) :
    readSymbols offset (values.map symbol) = .ok values := by
  induction values generalizing offset with
  | nil => rfl
  | cons head tail induction =>
      have headRead := value?_symbol (small head (by simp))
      have tailRead := induction (offset + 1) fun sextet member =>
        small sextet (by simp [member])
      simp [readSymbols, headRead, tailRead]

private theorem octet_eq (equal : value = byte.toNat) :
    UInt8.ofNat value = byte := by
  rw [equal, UInt8.ofNat_toNat]

theorem octets_sextets (offset : ℕ) : ∀ bytes : List UInt8,
    octets offset (sextets bytes) = .ok bytes
  | [] => rfl
  | [first] => by
      have firstLt := first.toNat_lt
      have firstEq : UInt8.ofNat (first.toNat / 4 * 4 +
          first.toNat % 4 * 16 / 16) = first := octet_eq (by omega)
      simp only [sextets, octets, firstEq]
      simp
  | [first, second] => by
      have firstLt := first.toNat_lt
      have secondLt := second.toNat_lt
      have firstEq : UInt8.ofNat (first.toNat / 4 * 4 +
          (first.toNat % 4 * 16 + second.toNat / 16) / 16) = first :=
        octet_eq (by omega)
      have secondEq : UInt8.ofNat
          ((first.toNat % 4 * 16 + second.toNat / 16) % 16 * 16 +
            second.toNat % 16 * 4 / 4) = second := octet_eq (by omega)
      simp only [sextets, octets, firstEq, secondEq]
      simp
  | first :: second :: third :: rest => by
      have firstLt := first.toNat_lt
      have secondLt := second.toNat_lt
      have thirdLt := third.toNat_lt
      have firstEq : UInt8.ofNat (first.toNat / 4 * 4 +
          (first.toNat % 4 * 16 + second.toNat / 16) / 16) = first :=
        octet_eq (by omega)
      have secondEq : UInt8.ofNat
          ((first.toNat % 4 * 16 + second.toNat / 16) % 16 * 16 +
            (second.toNat % 16 * 4 + third.toNat / 64) / 4) = second :=
        octet_eq (by omega)
      have thirdEq : UInt8.ofNat
          ((second.toNat % 16 * 4 + third.toNat / 64) % 4 * 64 +
            third.toNat % 64) = third := octet_eq (by omega)
      have remaining := octets_sextets (offset + 4) rest
      simp only [sextets, octets, remaining, firstEq, secondEq, thirdEq]

theorem decode_encode (bytes : List UInt8) :
    decode (encode bytes) = .ok bytes := by
  rw [decode, encode, readSymbols_map_symbol 0 (sextets_lt bytes)]
  exact octets_sextets 0 bytes

theorem encode_injective : Function.Injective encode := by
  intro left right equal
  have decoded := congrArg decode equal
  rw [decode_encode, decode_encode] at decoded
  exact Except.ok.inj decoded

theorem encode_ne_nil (nonempty : bytes ≠ []) : encode bytes ≠ [] := by
  intro empty
  exact nonempty (encode_injective (empty.trans (by rfl : [] = encode [])))

theorem symbol_mem_alphabet (small : sextet < 64) :
    symbol sextet ∈ alphabet := by
  have everywhere : ∀ index : Fin 64, symbol index ∈ alphabet := by
    decide +kernel
  exact everywhere ⟨sextet, small⟩

theorem encode_alphabet (member : character ∈ encode bytes) :
    character ∈ alphabet := by
  obtain ⟨sextet, inSextets, rfl⟩ := List.mem_map.mp member
  exact symbol_mem_alphabet (sextets_lt bytes sextet inSextets)

example : encode "blob".toUTF8.toList = "YmxvYg".toList := by decide +kernel

end Base64
