import LanguageServer.Text.Lines

/-! The lines of a text are its parts between line feeds. A part that ends at a line feed loses one
carriage return there, and what comes after the last line feed is a line unless it is empty. -/

namespace LanguageServer.Text

/-- A part without a carriage return at its end. -/
def chomp (part : List Char) : List Char :=
  if part.getLast? = some '\r' then part.dropLast else part

/-- The lines that parts between line feeds are. -/
def ended : List (List Char) → List (List Char)
  | [] => []
  | [last] => if last = [] then [] else [last]
  | part :: next :: parts => chomp part :: ended (next :: parts)

@[simp]
theorem chomp_nil : chomp [] = [] := rfl

/-- A part has no carriage return at its end, or it has one more than its line. -/
theorem chomp_cases (part : List Char) : part = chomp part ∨ part = chomp part ++ ['\r'] := by
  unfold chomp
  split
  · rename_i last
    obtain ⟨front, same⟩ := List.getLast?_eq_some_iff.mp last
    right
    rw [same, List.dropLast_concat]
  · exact .inl rfl

/-- A character in front of a part stays there, unless it is a carriage return and all of it. -/
theorem chomp_cons {c : Char} {part : List Char} (kept : c = '\r' → part ≠ []) :
    chomp (c :: part) = c :: chomp part := by
  cases part with
  | nil =>
    have other : c ≠ '\r' := fun same => kept same rfl
    simp [chomp, other]
  | cons d part =>
    unfold chomp
    rw [List.getLast?_cons_cons]
    split
    · rw [List.dropLast_cons_of_ne_nil (List.cons_ne_nil d part)]
    · rfl

theorem splitOn_cons (mark c : Char) (text : List Char) :
    (c :: text).splitOn mark =
      if c = mark then [] :: text.splitOn mark else (text.splitOn mark).modifyHead (c :: ·) := by
  simp only [List.splitOn, List.splitOnP_cons_eq_if_modifyHead, beq_iff_eq]

theorem splitOn_feed (first second : List Char) :
    (first ++ '\n' :: second).splitOn '\n' = first.splitOn '\n' ++ second.splitOn '\n' :=
  List.splitOnP_append_cons first second (by simp)

theorem exists_splitOn (mark : Char) (text : List Char) :
    ∃ part parts, text.splitOn mark = part :: parts :=
  List.exists_cons_of_ne_nil (List.splitOnP_ne_nil _ text)

theorem ended_cons (part : List Char) (text : List Char) :
    ended (part :: text.splitOn '\n') = chomp part :: ended (text.splitOn '\n') := by
  obtain ⟨next, parts, same⟩ := exists_splitOn '\n' text
  rw [same, ended]

/-- An empty part that is not the last one is in front only where a text begins with a line feed. -/
theorem eq_feed_of_splitOn {text next : List Char} {parts : List (List Char)}
    (split : text.splitOn '\n' = [] :: next :: parts) : ∃ rest, text = '\n' :: rest := by
  cases text with
  | nil => simp at split
  | cons c rest =>
    by_cases feed : c = '\n'
    · exact ⟨rest, by rw [feed]⟩
    · obtain ⟨part, others, same⟩ := exists_splitOn '\n' rest
      rw [splitOn_cons, if_neg feed, same] at split
      simp at split

/-- A character that belongs to no cut comes in front of the first line, or it is the only line. -/
theorem ended_modifyHead {c : Char} {text : List Char}
    (kept : ∀ rest, c = '\r' → text ≠ '\n' :: rest) :
    (ended (text.splitOn '\n') = [] →
        ended ((text.splitOn '\n').modifyHead (c :: ·)) = [[c]]) ∧
      ∀ line more, ended (text.splitOn '\n') = line :: more →
        ended ((text.splitOn '\n').modifyHead (c :: ·)) = (c :: line) :: more := by
  obtain ⟨part, parts, same⟩ := exists_splitOn '\n' text
  rw [same, List.modifyHead_cons]
  cases parts with
  | nil =>
    by_cases empty : part = []
    · simp [ended, empty]
    · simp [ended, empty]
  | cons next parts =>
    have inside : c = '\r' → part ≠ [] := by
      intro returned empty
      rw [empty] at same
      obtain ⟨rest, begins⟩ := eq_feed_of_splitOn same
      exact kept rest returned begins
    rw [ended, ended, chomp_cons inside]
    simp

/-- The lines of a text are its parts between line feeds. -/
theorem lines_eq_ended (text : List Char) : lines text = ended (text.splitOn '\n') := by
  fun_induction lines text with
  | case1 => rfl
  | case2 rest ih =>
    rw [splitOn_cons, if_pos rfl, ended_cons, ih, chomp_nil]
  | case3 rest ih =>
    have split : ('\r' :: '\n' :: rest).splitOn '\n' = ['\r'] :: rest.splitOn '\n' := by
      rw [splitOn_cons, if_neg (by decide), splitOn_cons, if_pos rfl]
      rfl
    rw [split, ended_cons, ih]
    rfl
  | case4 c rest feed returned none ih =>
    rw [splitOn_cons, if_neg feed, (ended_modifyHead returned).1 (ih ▸ none)]
  | case5 c rest feed returned line more some ih =>
    rw [splitOn_cons, if_neg feed, (ended_modifyHead returned).2 line more (ih ▸ some)]

/-- A text has no more lines than characters, and no line is longer than the text. -/
theorem lines_within (text : List Char) :
    (lines text).length ≤ text.length ∧ ∀ line ∈ lines text, line.length ≤ text.length := by
  fun_induction lines text with
  | case1 => simp
  | case2 rest ih =>
    obtain ⟨count, long⟩ := ih
    refine ⟨Nat.succ_le_succ count, List.forall_mem_cons.mpr ⟨Nat.zero_le _, ?_⟩⟩
    intro line member
    exact Nat.le_succ_of_le (long line member)
  | case3 rest ih =>
    obtain ⟨count, long⟩ := ih
    refine ⟨Nat.le_succ_of_le (Nat.succ_le_succ count), List.forall_mem_cons.mpr ⟨Nat.zero_le _, ?_⟩⟩
    intro line member
    exact Nat.le_trans (long line member) (Nat.le_add_right _ 2)
  | case4 c rest feed returned none ih => simp
  | case5 c rest feed returned line more some ih =>
    rw [some, List.length_cons, List.forall_mem_cons] at ih
    obtain ⟨count, first, long⟩ := ih
    refine ⟨Nat.le_succ_of_le count, List.forall_mem_cons.mpr ⟨Nat.succ_le_succ first, ?_⟩⟩
    intro line member
    exact Nat.le_succ_of_le (long line member)

/-! ### The first line of a text -/

/-- How a line ends, and what comes after: with the text, with a line feed, or with a carriage return
and a line feed. -/
inductive LineEnd : List Char → List Char → Prop
  | last : LineEnd [] []
  | feed {rest : List Char} : LineEnd ('\n' :: rest) rest
  | returned {rest : List Char} : LineEnd ('\r' :: '\n' :: rest) rest

/-- Between two parts of a text is the middle of a line end. -/
def Divides (left right : List Char) : Prop :=
  left.getLast? = some '\r' ∧ right.head? = some '\n'

/-- A text that is not empty begins with a line, which ends somehow and has a rest after it. -/
structure FirstLine (line back rest : List Char) : Prop where
  unbroken : '\n' ∉ line
  whole : ¬ Divides line back
  ends : LineEnd back rest

theorem not_divides_nil (right : List Char) : ¬ Divides [] right := by
  simp [Divides]

theorem lines_first {text : List Char} (nonempty : text ≠ []) :
    ∃ line back rest, text = line ++ back ∧ FirstLine line back rest ∧
      lines text = line :: lines rest := by
  fun_induction lines text with
  | case1 => exact absurd rfl nonempty
  | case2 rest ih => exact ⟨[], _, rest, rfl, ⟨by simp, not_divides_nil _, .feed⟩, rfl⟩
  | case3 rest ih => exact ⟨[], _, rest, rfl, ⟨by simp, not_divides_nil _, .returned⟩, rfl⟩
  | case4 c rest feed returned none ih =>
    have empty : rest = [] := by
      cases rest with
      | nil => rfl
      | cons d rest =>
        obtain ⟨line, back, after, -, -, same⟩ := ih (List.cons_ne_nil d rest)
        rw [none] at same
        cases same
    subst empty
    refine ⟨[c], [], [], rfl, ⟨?_, by simp [Divides], .last⟩, rfl⟩
    exact fun member => feed (List.mem_singleton.mp member).symm
  | case5 c rest feed returned line more some ih =>
    have nonempty : rest ≠ [] := by
      rintro rfl
      cases some
    obtain ⟨line, back, after, rfl, first, same⟩ := ih nonempty
    obtain ⟨rfl, rfl⟩ := List.cons.inj (some.symm.trans same)
    refine ⟨c :: line, back, after, rfl, ⟨?_, ?_, first.ends⟩, rfl⟩
    · intro member
      rcases List.mem_cons.mp member with same | inside
      · exact feed same.symm
      · exact first.unbroken inside
    · rintro ⟨last, follows⟩
      cases line with
      | nil =>
        obtain ⟨after, same⟩ := List.head?_eq_some_iff.mp follows
        exact returned after (Option.some.inj last) same
      | cons d line => exact first.whole ⟨List.getLast?_cons_cons ▸ last, follows⟩

end LanguageServer.Text
