import Mathlib.Data.List.Basic

namespace Path

/-! Unix paths as text.  A path is read as its components, where empty segments
and `.` are skipped, except for a `.` that a relative path starts with. -/

/-- The root or the leading `.`, and what follows it. -/
def splitHead : List Char → List Char × List Char
  | '/' :: body => (['/'], body)
  | ['.'] => (['.'], [])
  | '.' :: '/' :: body => (['.'], '/' :: body)
  | body => ([], body)

def isComponent (segment : List Char) : Bool :=
  segment != [] && segment != ['.']

/-- The segments of a body from the last component backwards. -/
def segments (body : List Char) : List (List Char) :=
  (body.splitOnP (· == '/')).reverse.dropWhile (!isComponent ·)

def joinSegments : List (List Char) → List Char
  | [] => []
  | [segment] => segment
  | segment :: rest => segment ++ '/' :: joinSegments rest

/-- The last component, when it is neither the root, `.` nor `..`. -/
def fileName? (path : List Char) : Option (List Char) :=
  match segments (splitHead path).2 with
  | [] => none
  | last :: _ => if last = ['.', '.'] then none else some last

def parent? (path : List Char) : Option (List Char) :=
  match segments (splitHead path).2 with
  | [] => if (splitHead path).1 = ['.'] then some [] else none
  | _ :: rest =>
      some ((splitHead path).1 ++
        joinSegments (rest.dropWhile (!isComponent ·)).reverse)

def endsWithSeparator (path : List Char) : Bool :=
  path.getLast? == some '/'

def join (base name : List Char) : List Char :=
  match name with
  | '/' :: _ => name
  | _ =>
      if base.isEmpty || endsWithSeparator base then base ++ name
      else base ++ '/' :: name

example : parent? "/srv/data//file.txt".toList = some "/srv/data".toList := by
  decide

example : fileName? "./a/./".toList = some "a".toList := by decide

/-- A name that a path can end in: a proper component, without separators. -/
structure ProperName (name : List Char) : Prop where
  noSeparator : '/' ∉ name
  component : isComponent name = true
  notParent : name ≠ ['.', '.']

theorem segments_append (proper : ProperName name) :
    segments (body ++ '/' :: name) =
      name :: (body.splitOnP (· == '/')).reverse := by
  have single : name.splitOnP (· == '/') = [name] :=
    List.splitOnP_eq_singleton fun character member => by
      simp only [beq_eq_false_iff_ne]
      exact fun equal => proper.noSeparator (equal ▸ member)
  rw [segments, List.splitOnP_append_cons _ _ (by simp), single]
  simp [proper.component]

theorem segments_name (proper : ProperName name) : segments name = [name] := by
  have single : name.splitOnP (· == '/') = [name] :=
    List.splitOnP_eq_singleton fun character member => by
      simp only [beq_eq_false_iff_ne]
      exact fun equal => proper.noSeparator (equal ▸ member)
  rw [segments, single]
  simp [proper.component]

theorem splitHead_name (proper : ProperName name) :
    splitHead name = ([], name) := by
  have noSeparator := proper.noSeparator
  have component := proper.component
  rw [splitHead.eq_def]
  split
  · simp at noSeparator
  · simp [isComponent] at component
  · simp at noSeparator
  · rfl

theorem splitHead_append (front name : List Char) :
    (splitHead (front ++ '/' :: name)).2 = name ∨
      ∃ body, (splitHead (front ++ '/' :: name)).2 = body ++ '/' :: name := by
  cases front with
  | nil => exact .inl rfl
  | cons first rest =>
      right
      rw [splitHead.eq_def]
      split
      · rename_i body whole
        obtain ⟨-, rfl⟩ := List.cons.inj whole
        exact ⟨rest, rfl⟩
      · rename_i whole
        simp at whole
      · rename_i body whole
        obtain ⟨-, tail⟩ := List.cons.inj whole
        exact ⟨rest, tail.symm⟩
      · exact ⟨first :: rest, rfl⟩

theorem fileName?_append (proper : ProperName name) (front : List Char) :
    fileName? (front ++ '/' :: name) = some name := by
  rcases splitHead_append front name with body | ⟨rest, body⟩
  · rw [fileName?, body, segments_name proper]
    simp [proper.notParent]
  · rw [fileName?, body, segments_append proper]
    simp [proper.notParent]

theorem fileName?_name (proper : ProperName name) :
    fileName? name = some name := by
  rw [fileName?, splitHead_name proper, segments_name proper]
  simp [proper.notParent]

theorem fileName?_join (proper : ProperName name) (base : List Char) :
    fileName? (join base name) = some name := by
  have relative : join base name =
      if base.isEmpty || endsWithSeparator base then base ++ name
      else base ++ '/' :: name := by
    cases name with
    | nil => rfl
    | cons first rest =>
        have notRoot : first ≠ '/' := fun equal =>
          proper.noSeparator (by simp [equal])
        rw [join]
        simp [notRoot]
  rw [relative]
  split
  · rename_i attached
    cases last : base.getLast? with
    | none =>
        rw [List.getLast?_eq_none_iff.mp last]
        exact fileName?_name proper
    | some separator =>
        obtain ⟨front, rfl⟩ := List.getLast?_eq_some_iff.mp last
        have isSeparator : separator = '/' := by
          simpa [endsWithSeparator] using attached
        subst isSeparator
        rw [List.append_assoc]
        exact fileName?_append proper front
  · exact fileName?_append proper base

theorem noSeparator_of_mem_segments {body piece : List Char}
    (member : piece ∈ body.splitOnP (· == '/')) : '/' ∉ piece := by
  induction body generalizing piece with
  | nil =>
      rw [List.splitOnP_nil, List.mem_singleton] at member
      simp [member]
  | cons first rest induction =>
      rw [List.splitOnP_cons_eq_if_modifyHead] at member
      cases split : rest.splitOnP (· == '/') with
      | nil => exact absurd split (List.splitOnP_ne_nil _ rest)
      | cons head tail =>
          rw [split] at member induction
          by_cases isSeparator : first = '/'
          · simp only [isSeparator, beq_self_eq_true, if_true,
              List.mem_cons] at member
            rcases member with rfl | rest'
            · simp
            · exact induction (by simpa using rest')
          · simp only [beq_iff_eq, isSeparator, if_false,
              List.modifyHead_cons, List.mem_cons] at member
            rcases member with rfl | inTail
            · have headClean : '/' ∉ head := induction (by simp)
              simp [headClean, Ne.symm isSeparator]
            · exact induction (by simp [inTail])

theorem fileName?_noSeparator (found : fileName? path = some name) :
    '/' ∉ name := by
  unfold fileName? at found
  cases listed : segments (splitHead path).2 with
  | nil => simp [listed] at found
  | cons last rest =>
      have member : last ∈ segments (splitHead path).2 := by simp [listed]
      have inSplit := (List.dropWhile_suffix _).subset member
      simp only [listed, Option.ite_none_left_eq_some,
        Option.some.injEq] at found
      rw [← found.2]
      exact noSeparator_of_mem_segments (List.mem_reverse.mp inSplit)

end Path
