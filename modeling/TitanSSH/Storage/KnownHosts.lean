import TitanSSH.Library.Base64
import TitanSSH.Library.Text

namespace TitanSSH

open Text

/-! The `known_hosts` format of the trust store: one line for each record. -/

structure TrustRecord where
  host : String
  port : UInt16
  algorithm : String
  blob : List UInt8
  deriving DecidableEq, Repr

namespace TrustRecord

def atEndpoint (host : String) (port : UInt16) (record : TrustRecord) : Bool :=
  record.host == host && record.port == port

def matchesKey (record : TrustRecord) (host : String) (port : UInt16)
    (algorithm : String) (blob : List UInt8) : Bool :=
  record.host == host && record.port == port &&
    record.algorithm == algorithm && record.blob == blob

@[simp] theorem atEndpoint_iff {record : TrustRecord} {host : String}
    {port : UInt16} :
    atEndpoint host port record = true ↔
      record.host = host ∧ record.port = port := by
  simp [atEndpoint]

@[simp] theorem matchesKey_iff {record : TrustRecord} {host : String}
    {port : UInt16} {algorithm : String} {blob : List UInt8} :
    record.matchesKey host port algorithm blob = true ↔
      record = ⟨host, port, algorithm, blob⟩ := by
  cases record
  simp [matchesKey, and_assoc]

end TrustRecord

def parseHostPattern (pattern : List Char) :
    Except String (String × UInt16) :=
  let shown := String.ofList pattern
  match pattern with
  | '[' :: rest =>
      let host := rest.takeWhile (· != ']')
      match rest.dropWhile (· != ']') with
      | [] => .error ("主机段缺少右括号: " ++ shown)
      | _ :: ':' :: portText =>
          if host.isEmpty then .error ("主机段主机为空: " ++ shown)
          else
            match parseUnsigned UInt16.size portText with
            | .error error =>
                .error ("端口解析失败: " ++ shown ++ " (" ++
                  error.description ++ ")")
            | .ok port => .ok (String.ofList host, .ofNat port)
      | _ => .error ("括号主机段缺少端口: " ++ shown)
  | _ =>
      if pattern.contains ':' then
        .error ("主机段格式非法（无括号含冒号）: " ++ shown)
      else if pattern.isEmpty then .error "主机段为空"
      else .ok (shown, 22)

def parseEntry (line : List Char) : Except String (Option TrustRecord) :=
  let trimmed := trim line
  if trimmed.isEmpty || trimmed.head? == some '#' then .ok none
  else
    match splitWhitespace trimmed with
    | [pattern, algorithm, encoded] =>
        match parseHostPattern pattern with
        | .error reason => .error reason
        | .ok (host, port) =>
            if algorithm.isEmpty then .error "算法名不能为空"
            else if encoded.isEmpty then .error "公钥不能为空"
            else
              match Base64.decode (trimEndMatches '=' encoded) with
              | .error error =>
                  .error ("公钥 base64 解码失败 (" ++ error.description ++ ")")
              | .ok blob =>
                  if blob.isEmpty then .error "公钥解码后为空"
                  else .ok (some ⟨host, port, String.ofList algorithm, blob⟩)
    | _ => .error "期望 `<host> <algorithm> <base64>` 三段"

def formatHostPattern (host : String) (port : UInt16) : String :=
  if port ≠ 22 ∨ ':' ∈ host.toList then
    "[" ++ host ++ "]:" ++ toString port
  else host

def serializeEntry (record : TrustRecord) : String :=
  formatHostPattern record.host record.port ++ " " ++ record.algorithm ++
    " " ++ String.ofList (Base64.encode record.blob)

def serializeRecords : List TrustRecord → String
  | [] => ""
  | record :: rest => serializeEntry record ++ "\n" ++ serializeRecords rest

/-- What the writer is given: a host that host validation admits and that has
no white space in it, an OpenSSH algorithm name and a key. -/
structure TrustRecord.Admitted (record : TrustRecord) : Prop where
  host : Solid record.host.toList
  algorithm : Solid record.algorithm.toList
  blob : record.blob ≠ []

/-- The endpoints that the reader recovers from the line the writer makes of
them. -/
def Storable (host : String) (port : UInt16) : Prop :=
  if port ≠ 22 ∨ ':' ∈ host.toList then ']' ∉ host.toList
  else host.toList.head? ≠ some '#' ∧ host.toList.head? ≠ some '['

instance (host : String) (port : UInt16) : Decidable (Storable host port) :=
  inferInstanceAs (Decidable (if port ≠ 22 ∨ ':' ∈ host.toList then _ else _))

/-! What the writer makes of an endpoint, and what the reader makes of that. -/

theorem toString_port (port : UInt16) :
    (toString port).toList = Nat.toDigits 10 port.toNat :=
  Nat.toList_repr

theorem formatHostPattern_bracketed (host : String)
    (bracketed : port ≠ 22 ∨ ':' ∈ host.toList) :
    (formatHostPattern host port).toList =
      '[' :: (host.toList ++ ']' :: ':' :: Nat.toDigits 10 port.toNat) := by
  simp [formatHostPattern, bracketed, toString_port]

theorem formatHostPattern_plain (host : String)
    (plain : ¬(port ≠ 22 ∨ ':' ∈ host.toList)) :
    (formatHostPattern host port).toList = host.toList := by
  simp [formatHostPattern, plain]

theorem digit_not_whitespace (digit : character.isDigit = true) :
    isWhitespace character = false := by
  have bounds : 48 ≤ character.toNat ∧ character.toNat ≤ 57 :=
    Char.isDigit_iff_toNat.mp digit
  simp only [isWhitespace, Bool.or_eq_false_iff, Bool.and_eq_false_iff,
    decide_eq_false_iff_not, beq_eq_false_iff_ne]
  omega

theorem port_clean (port : UInt16) :
    ∀ character ∈ Nat.toDigits 10 port.toNat,
      isWhitespace character = false := fun _ member =>
  digit_not_whitespace
    (Nat.isDigit_of_mem_toDigits (b := 10) (by decide) (by decide) member)

theorem formatHostPattern_solid (solid : Solid host.toList) (port : UInt16) :
    Solid (formatHostPattern host port).toList := by
  by_cases bracketed : port ≠ 22 ∨ ':' ∈ host.toList
  · rw [formatHostPattern_bracketed host bracketed]
    refine ⟨by simp, fun character member => ?_⟩
    simp only [List.mem_cons, List.mem_append] at member
    rcases member with rfl | inHost | rfl | rfl | inPort
    · decide
    · exact solid.2 character inHost
    · decide
    · decide
    · exact port_clean port character inPort
  · rw [formatHostPattern_plain host bracketed]
    exact solid

theorem bne_of_absent {symbol : Char} {front : List Char}
    (absent : symbol ∉ front) :
    ∀ character ∈ front, (character != symbol) = true := by
  intro character member
  rw [bne_iff_ne]
  rintro rfl
  exact absent member

/-- What is read of a bracketed pattern whose first closing bracket is known. -/
theorem parseHostPattern_closed {front back : List Char} (absent : ']' ∉ front) :
    parseHostPattern ('[' :: (front ++ ']' :: back)) = .ok endpoint ↔
      ∃ portText port, back = ':' :: portText ∧ front ≠ [] ∧
        parseUnsigned UInt16.size portText = .ok port ∧
        endpoint = (String.ofList front, .ofNat port) := by
  have taken : (front ++ ']' :: back).takeWhile (· != ']') = front := by
    rw [List.takeWhile_append_of_pos (bne_of_absent absent)]
    simp
  have dropped : (front ++ ']' :: back).dropWhile (· != ']') =
      ']' :: back := by
    rw [List.dropWhile_append_of_pos (bne_of_absent absent)]
    simp
  simp only [parseHostPattern, taken, dropped]
  cases back with
  | nil => simp
  | cons first portText =>
      by_cases colon : first = ':'
      · subst colon
        cases front with
        | nil => simp
        | cons head tail =>
            cases read : parseUnsigned UInt16.size portText with
            | error error => simp [read]
            | ok value => simp [read, eq_comm]
      · simp [colon]

theorem parseHostPattern_format {host : String} {port : UInt16}
    (nonempty : host.toList ≠ []) (storable : Storable host port) :
    parseHostPattern (formatHostPattern host port).toList =
      .ok (host, port) := by
  by_cases bracketed : port ≠ 22 ∨ ':' ∈ host.toList
  · rw [Storable, if_pos bracketed] at storable
    rw [formatHostPattern_bracketed host bracketed,
      parseHostPattern_closed storable]
    exact ⟨Nat.toDigits 10 port.toNat, port.toNat, rfl, nonempty,
      parseUnsigned_toDigits port.toNat_lt, by simp⟩
  · rw [formatHostPattern_plain host bracketed]
    rw [Storable, if_neg bracketed] at storable
    push Not at bracketed
    obtain ⟨rfl, noColon⟩ := bracketed
    rw [parseHostPattern.eq_def]
    split
    · rename_i rest pattern
      simp [pattern] at storable
    · simp [noColon, nonempty]

theorem parseHostPattern_bracket_inside {host : String} {port : UInt16}
    (bracketed : port ≠ 22 ∨ ':' ∈ host.toList) (inside : ']' ∈ host.toList) :
    parseHostPattern (formatHostPattern host port).toList ≠ .ok endpoint := by
  obtain ⟨front, back, hostEq, absent⟩ :=
    List.eq_append_cons_of_mem inside
  rw [formatHostPattern_bracketed host bracketed, hostEq, List.append_assoc,
    List.cons_append, Ne, parseHostPattern_closed absent]
  rintro ⟨portText, value, rest, -, read, -⟩
  cases back with
  | nil => simp at rest
  | cons first back =>
      obtain ⟨-, rfl⟩ := List.cons.inj rest
      exact parseUnsigned_not_ok ']' (by simp) (by decide)
        (by decide) read

theorem parseHostPattern_plain_bracket {rest : List Char}
    (noColon : ':' ∉ rest) :
    parseHostPattern ('[' :: rest) ≠ .ok endpoint := by
  have suffix : rest.dropWhile (· != ']') <:+ rest := List.dropWhile_suffix _
  simp only [parseHostPattern]
  split
  · simp
  · rename_i portText dropped
    have member : ':' ∈ rest.dropWhile (· != ']') := by simp [dropped]
    exact absurd (suffix.subset member) noColon
  · simp

/-! The line of a record. -/

theorem serializeEntry_toList (record : TrustRecord) :
    (serializeEntry record).toList =
      (formatHostPattern record.host record.port).toList ++ ' ' ::
        (record.algorithm.toList ++ ' ' :: Base64.encode record.blob) := by
  simp [serializeEntry]

theorem encoded_solid (nonempty : blob ≠ []) :
    Solid (Base64.encode blob) := by
  refine ⟨Base64.encode_ne_nil nonempty, fun character member => ?_⟩
  have clean : Base64.alphabet.all (fun symbol => !isWhitespace symbol) := by
    decide
  simpa using List.all_eq_true.mp clean character
    (Base64.encode_alphabet member)

theorem encoded_unpadded (blob : List UInt8) :
    trimEndMatches '=' (Base64.encode blob) = Base64.encode blob := by
  refine trimEndMatches_of_not_mem fun member => ?_
  exact absurd (Base64.encode_alphabet member) (by decide)

namespace TrustRecord.Admitted

variable {record : TrustRecord}

theorem pattern (admitted : record.Admitted) :
    Solid (formatHostPattern record.host record.port).toList :=
  formatHostPattern_solid admitted.host record.port

theorem trim_entry (admitted : record.Admitted) :
    trim (serializeEntry record).toList = (serializeEntry record).toList := by
  rw [serializeEntry_toList]
  have trimmed := trim_of_solid_ends admitted.pattern
    (' ' :: (record.algorithm.toList ++ [' ']))
    (encoded_solid admitted.blob)
  simpa using trimmed

theorem words (admitted : record.Admitted) :
    splitWhitespace (serializeEntry record).toList =
      [(formatHostPattern record.host record.port).toList,
        record.algorithm.toList, Base64.encode record.blob] := by
  rw [serializeEntry_toList, splitWhitespace_cons_word admitted.pattern,
    splitWhitespace_cons_word admitted.algorithm,
    splitWhitespace_solid (encoded_solid admitted.blob)]

theorem unbroken (admitted : record.Admitted) :
    ∀ character ∈ (serializeEntry record).toList,
      character ≠ '\n' ∧ character ≠ '\r' := by
  intro character member
  rw [serializeEntry_toList] at member
  simp only [List.mem_append, List.mem_cons] at member
  rcases member with inPattern | rfl | inAlgorithm | rfl | inKey
  · exact admitted.pattern.unbroken character inPattern
  · decide
  · exact admitted.algorithm.unbroken character inAlgorithm
  · decide
  · exact (encoded_solid admitted.blob).unbroken character inKey

theorem entry_head (admitted : record.Admitted) :
    (serializeEntry record).toList.head? =
      (formatHostPattern record.host record.port).toList.head? := by
  rw [serializeEntry_toList, List.head?_append_of_ne_nil]
  exact admitted.pattern.1

theorem parseEntry_of_pattern (admitted : record.Admitted)
    (noComment : (formatHostPattern record.host record.port).toList.head? ≠
      some '#') :
    parseEntry (serializeEntry record).toList =
      match parseHostPattern
          (formatHostPattern record.host record.port).toList with
      | .error reason => .error reason
      | .ok (host, port) =>
          .ok (some ⟨host, port, record.algorithm, record.blob⟩) := by
  have started : ((serializeEntry record).toList.isEmpty ||
      (serializeEntry record).toList.head? == some '#') = false := by
    rw [Bool.or_eq_false_iff, beq_eq_false_iff_ne, admitted.entry_head]
    exact ⟨by simp [serializeEntry_toList], noComment⟩
  have keyWord := (encoded_solid admitted.blob).1
  simp only [parseEntry, admitted.trim_entry, admitted.words, started,
    encoded_unpadded, Base64.decode_encode]
  simp [admitted.algorithm.1, keyWord, admitted.blob]

theorem parseEntry_comment (admitted : record.Admitted)
    (comment : (formatHostPattern record.host record.port).toList.head? =
      some '#') :
    parseEntry (serializeEntry record).toList = .ok none := by
  simp [parseEntry, admitted.trim_entry, admitted.entry_head, comment]

theorem pattern_head_of_bracketed (host : String) {port : UInt16}
    (bracketed : port ≠ 22 ∨ ':' ∈ host.toList) :
    (formatHostPattern host port).toList.head? = some '[' := by
  rw [formatHostPattern_bracketed host bracketed]
  rfl

theorem parseEntry_of_storable (admitted : record.Admitted)
    (storable : Storable record.host record.port) :
    parseEntry (serializeEntry record).toList = .ok (some record) := by
  have noComment : (formatHostPattern record.host record.port).toList.head? ≠
      some '#' := by
    by_cases bracketed : record.port ≠ 22 ∨ ':' ∈ record.host.toList
    · rw [pattern_head_of_bracketed record.host bracketed]
      decide
    · rw [formatHostPattern_plain record.host bracketed]
      rw [Storable, if_neg bracketed] at storable
      exact storable.1
  rw [admitted.parseEntry_of_pattern noComment,
    parseHostPattern_format admitted.host.1 storable]

theorem parseEntry_of_not_storable (admitted : record.Admitted)
    (lost : ¬Storable record.host record.port) (read : TrustRecord) :
    parseEntry (serializeEntry record).toList ≠ .ok (some read) := by
  by_cases comment :
      (formatHostPattern record.host record.port).toList.head? = some '#'
  · simp [admitted.parseEntry_comment comment]
  · have unread : ∀ endpoint, parseHostPattern
        (formatHostPattern record.host record.port).toList ≠
          .ok endpoint := by
      intro endpoint
      by_cases bracketed : record.port ≠ 22 ∨ ':' ∈ record.host.toList
      · rw [Storable, if_pos bracketed, not_not] at lost
        exact parseHostPattern_bracket_inside bracketed lost
      · rw [formatHostPattern_plain record.host bracketed] at comment ⊢
        rw [Storable, if_neg bracketed] at lost
        push Not at bracketed
        have opened : record.host.toList.head? = some '[' := by
          by_contra closed
          exact lost ⟨comment, closed⟩
        obtain ⟨rest, hostEq⟩ := List.head?_eq_some_iff.mp opened
        rw [hostEq]
        refine parseHostPattern_plain_bracket fun member => ?_
        exact bracketed.2 (by simp [hostEq, member])
    rw [admitted.parseEntry_of_pattern comment]
    cases parsed : parseHostPattern
        (formatHostPattern record.host record.port).toList with
    | error reason => simp
    | ok endpoint => exact absurd parsed (unread endpoint)

end TrustRecord.Admitted

end TitanSSH
