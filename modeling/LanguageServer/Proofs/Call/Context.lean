import Mathlib.Combinatorics.Enumerative.DyckWord
import Mathlib.Data.List.TakeWhile
import LanguageServer.Call.Context

/-!
The call around the cursor. The search for it walks back from the cursor and counts the closing
parentheses it has not matched yet; what it finds is the only parenthesis that opens before a
balanced rest. The called name is what stands before that parenthesis.
-/

namespace LanguageServer.Call

open Text DyckStep

/-- A round parenthesis as a step of a path, up where it opens and down where it closes. -/
def round? (c : Char) : Option DyckStep :=
  if c = '(' then some U else if c = ')' then some D else none

/-- The round parentheses of a text. -/
def rounds (text : List Char) : List DyckStep :=
  text.filterMap round?

/-- The round parentheses of a text form a Dyck word. -/
def IsBalanced (text : List Char) : Prop :=
  ∃ word : DyckWord, word.toList = rounds text

/-- A parenthesis opens at a place of a text, and the rest of the text is balanced. -/
structure Opens (text : List Char) (place : Nat) : Prop where
  opening : text[place]? = some '('
  balanced : IsBalanced (text.drop (place + 1))

/-- `name` is the name at the end of a text: behind it are blanks only, before it at most the
digits of its run of identifier characters, and the run cannot be longer. The name is empty where
no run or only digits end the text. -/
structure EndsInName (text name : List Char) : Prop where
  split : ∃ front digits blanks, text = front ++ (digits ++ name) ++ blanks ∧
    (∀ c ∈ blanks, isBlank c = true) ∧
    (∀ c, (front ++ (digits ++ name)).getLast? = some c → isBlank c = false) ∧
    (∀ c ∈ digits ++ name, isIdentifier c = true) ∧
    (∀ c, front.getLast? = some c → isIdentifier c = false) ∧
    ∀ c ∈ digits, c.isDigit = true
  first : ∀ c, name.head? = some c → c.isDigit = false

section Search

variable {steps : List DyckStep} {depth : Nat}

/-- Paths that want `depth` more steps up in front: no rest of them goes up more than down. -/
structure Wants (steps : List DyckStep) (depth : Nat) : Prop where
  total : steps.count D = steps.count U + depth
  rests : ∀ n, (steps.drop n).count U ≤ (steps.drop n).count D

theorem Wants.down (wants : Wants steps depth) : Wants (D :: steps) (depth + 1) := by
  obtain ⟨total, rests⟩ := wants
  refine ⟨by simp; omega, ?_⟩
  intro n
  cases n with
  | zero => simp; omega
  | succ n => exact rests n

theorem Wants.up (wants : Wants steps (depth + 1)) : Wants (U :: steps) depth := by
  obtain ⟨total, rests⟩ := wants
  refine ⟨by simp; omega, ?_⟩
  intro n
  cases n with
  | zero => simp; omega
  | succ n => exact rests n

/-- A path that wants nothing and goes up in front is no rest of a path that wants anything. -/
theorem Wants.not_up (wants : Wants steps 0) (front : List DyckStep) :
    ¬ Wants (front ++ U :: steps) depth := by
  intro longer
  have rest := longer.rests front.length
  rw [List.drop_left] at rest
  have total := wants.total
  simp at rest
  omega

/-- Dyck words are the paths that want nothing: what a start of a word has too many steps up, the
rest of it has too many steps down. -/
theorem isBalanced_iff {text : List Char} : IsBalanced text ↔ Wants (rounds text) 0 := by
  have parts : ∀ step n, (rounds text).count step =
      ((rounds text).take n).count step + ((rounds text).drop n).count step := by
    intro step n
    rw [← List.count_append, List.take_append_drop]
  constructor
  · rintro ⟨word, same⟩
    have total := word.count_U_eq_count_D
    rw [same] at total
    refine ⟨by omega, ?_⟩
    intro n
    have start := word.count_D_le_count_U n
    rw [same] at start
    have ups := parts U n
    have downs := parts D n
    omega
  · rintro ⟨total, rests⟩
    refine ⟨⟨rounds text, by omega, ?_⟩, rfl⟩
    intro n
    have rest := rests n
    have ups := parts U n
    have downs := parts D n
    omega

/-- What the search from the end is for: a parenthesis that opens before a balanced rest, in a
reversed text with the arguments already read. -/
def IsSplit (text arguments before rest : List Char) : Prop :=
  ∃ inner, text = inner ++ '(' :: before ∧ rest = inner.reverse ++ arguments ∧
    Wants (rounds rest) 0

/-- A character that is not the parenthesis in search joins the arguments. -/
theorem isSplit_cons {c : Char} {text arguments before rest : List Char}
    (passes : c = '(' → ¬ Wants (rounds arguments) 0) :
    IsSplit text (c :: arguments) before rest ↔ IsSplit (c :: text) arguments before rest := by
  constructor
  · rintro ⟨inner, rfl, rfl, wants⟩
    exact ⟨c :: inner, rfl, by simp, wants⟩
  · rintro ⟨inner, place, rfl, wants⟩
    cases inner with
    | nil =>
      injection place with first
      exact absurd wants (passes first)
    | cons d inner =>
      injection place with same tail
      subst same
      exact ⟨inner, tail, by simp, wants⟩

theorem splitOpen_eq_some (text : List Char) {arguments : List Char}
    (wants : Wants (rounds arguments) depth) {before rest : List Char} :
    splitOpen text depth arguments = some (before, rest) ↔
      IsSplit text arguments before rest := by
  -- The invariant is that the arguments read so far want as many parentheses as are unmatched.
  fun_induction splitOpen text depth arguments with
  | case1 => simp [IsSplit]
  | case2 depth text arguments ih =>
    rw [ih wants.down, isSplit_cons (fun first => absurd first (by decide))]
  | case3 text arguments closing =>
    constructor
    · intro found
      obtain ⟨rfl, rfl⟩ := Prod.mk.inj (Option.some.inj found)
      exact ⟨[], rfl, rfl, wants⟩
    · rintro ⟨inner, place, rfl, whole⟩
      cases inner with
      | nil =>
        injection place with _ tail
        rw [tail]
        rfl
      | cons c inner =>
        injection place with same tail
        subst same
        refine absurd whole ?_
        have split : rounds (('(' :: inner).reverse ++ arguments) =
            rounds inner.reverse ++ U :: rounds arguments := by
          simp [rounds, round?]
        rw [split]
        exact wants.not_up _
  | case4 text arguments depth closing ih =>
    rw [ih wants.up, isSplit_cons]
    intro _ none
    have := none.total
    have := wants.total
    omega
  | case5 c text depth arguments closing opening ih =>
    have same : rounds (c :: arguments) = rounds arguments := by
      simp [rounds, round?, closing, opening]
    rw [ih (by rwa [same]), isSplit_cons (fun first => absurd first opening)]

theorem splitOpen_reverse {text before rest : List Char} :
    splitOpen text.reverse 0 [] = some (before, rest) ↔
      text = before.reverse ++ '(' :: rest ∧ IsBalanced rest := by
  have start : Wants (rounds []) 0 := ⟨rfl, by simp [rounds]⟩
  rw [splitOpen_eq_some _ start, isBalanced_iff]
  constructor
  · rintro ⟨inner, parts, rfl, wants⟩
    have reading := congrArg List.reverse parts
    exact ⟨by simpa using reading, wants⟩
  · rintro ⟨rfl, wants⟩
    exact ⟨rest.reverse, by simp, by simp, wants⟩

end Search

section Name

variable {p : Char → Bool} {run rest : List Char}

theorem takeWhile_run (inside : ∀ c ∈ run, p c = true)
    (stop : ∀ c, rest.head? = some c → p c = false) : (run ++ rest).takeWhile p = run := by
  rw [List.takeWhile_append_of_pos inside]
  cases rest with
  | nil => simp
  | cons c rest => simp [stop c rfl]

theorem dropWhile_run (inside : ∀ c ∈ run, p c = true)
    (stop : ∀ c, rest.head? = some c → p c = false) : (run ++ rest).dropWhile p = rest := by
  rw [List.dropWhile_append_of_pos inside]
  cases rest with
  | nil => rfl
  | cons c rest => simp [stop c rfl]

theorem first_dropWhile {text : List Char} {c : Char}
    (first : (text.dropWhile p).head? = some c) : p c = false := by
  have none := List.head?_dropWhile_not p text
  rw [first] at none
  simpa using none

/-- Every text ends in exactly one name, maybe the empty one. -/
theorem endsInName_iff {text name : List Char} :
    EndsInName text name ↔ name = nameBefore text.reverse := by
  constructor
  · rintro ⟨⟨front, digits, blanks, rfl, blank, notBlank, run, stop, digit⟩, first⟩
    have reversed : (front ++ (digits ++ name) ++ blanks).reverse =
        blanks.reverse ++ ((digits ++ name).reverse ++ front.reverse) := by
      simp only [List.reverse_append, List.append_assoc]
    have trimmed : (blanks.reverse ++ ((digits ++ name).reverse ++ front.reverse)).dropWhile
        isBlank = (digits ++ name).reverse ++ front.reverse := by
      apply dropWhile_run
      · intro c member
        exact blank c (List.mem_reverse.mp member)
      · intro c last
        rw [← List.reverse_append, List.head?_reverse] at last
        exact notBlank c last
    have taken : ((digits ++ name).reverse ++ front.reverse).takeWhile isIdentifier =
        (digits ++ name).reverse := by
      apply takeWhile_run
      · intro c member
        exact run c (List.mem_reverse.mp member)
      · intro c last
        rw [List.head?_reverse] at last
        exact stop c last
    rw [nameBefore, reversed, trimmed, taken, List.reverse_reverse, dropWhile_run digit first]
  · rintro rfl
    obtain ⟨trimmed, same⟩ : ∃ trimmed, trimmed = text.reverse.dropWhile isBlank := ⟨_, rfl⟩
    obtain ⟨run, longest⟩ : ∃ run, run = (trimmed.takeWhile isIdentifier).reverse := ⟨_, rfl⟩
    have name : run.takeWhile Char.isDigit ++ nameBefore text.reverse = run := by
      rw [nameBefore, ← same, ← longest, List.takeWhile_append_dropWhile]
    have body : (trimmed.dropWhile isIdentifier).reverse ++ run = trimmed.reverse := by
      rw [longest, ← List.reverse_append, List.takeWhile_append_dropWhile]
    have whole : trimmed.reverse ++ (text.reverse.takeWhile isBlank).reverse = text := by
      rw [same, ← List.reverse_append, List.takeWhile_append_dropWhile, List.reverse_reverse]
    refine ⟨⟨(trimmed.dropWhile isIdentifier).reverse, run.takeWhile Char.isDigit,
      (text.reverse.takeWhile isBlank).reverse, ?_, ?_, ?_, ?_, ?_, ?_⟩, ?_⟩
    · rw [name, body, whole]
    · intro c member
      exact List.mem_takeWhile_imp (List.mem_reverse.mp member)
    · intro c last
      rw [name, body, List.getLast?_reverse, same] at last
      exact first_dropWhile last
    · intro c member
      rw [name, longest] at member
      exact List.mem_takeWhile_imp (List.mem_reverse.mp member)
    · intro c last
      rw [List.getLast?_reverse] at last
      exact first_dropWhile last
    · intro c member
      exact List.mem_takeWhile_imp member
    · intro c first
      exact first_dropWhile first

end Name

theorem splitOpen_parts {text before rest : List Char}
    (found : splitOpen text.reverse 0 [] = some (before, rest)) :
    text.take before.length = before.reverse ∧ text.drop (before.length + 1) = rest := by
  obtain ⟨rfl, -⟩ := splitOpen_reverse.mp found
  constructor
  · rw [List.take_left' (by simp)]
  · rw [List.drop_append]
    simp

theorem opens_iff {text : List Char} {place : Nat} :
    Opens text place ↔ ∃ before rest, splitOpen text.reverse 0 [] = some (before, rest) ∧
      before.length = place := by
  constructor
  · rintro ⟨opening, balanced⟩
    obtain ⟨bound, here⟩ := List.getElem?_eq_some_iff.mp opening
    have parts : text = (text.take place).reverse.reverse ++ '(' :: text.drop (place + 1) := by
      rw [← here, ← List.drop_eq_getElem_cons bound, List.reverse_reverse, List.take_append_drop]
    refine ⟨_, _, splitOpen_reverse.mpr ⟨parts, balanced⟩, ?_⟩
    simp [Nat.le_of_lt bound]
  · rintro ⟨before, rest, found, rfl⟩
    have back := (splitOpen_parts found).2
    obtain ⟨parts, balanced⟩ := splitOpen_reverse.mp found
    refine ⟨?_, back ▸ balanced⟩
    rw [parts, List.getElem?_append_right (by simp)]
    simp

theorem opens_unique {text : List Char} {place other : Nat} (opens : Opens text place)
    (opensOther : Opens text other) : place = other := by
  obtain ⟨before, rest, found, rfl⟩ := opens_iff.mp opens
  obtain ⟨beforeOther, restOther, foundOther, rfl⟩ := opens_iff.mp opensOther
  rw [found] at foundOther
  exact congrArg List.length (Prod.mk.inj (Option.some.inj foundOther)).1

theorem context_eq_some {text : List Char} {call : Context} :
    context? text = some call ↔ Opens text call.paren ∧ call.name ≠ [] ∧
      EndsInName (text.take call.paren) call.name ∧
      call.commas = countCommas (text.drop (call.paren + 1)) := by
  constructor
  · intro found
    unfold context? at found
    split at found
    · cases found
    next before rest split =>
      obtain ⟨front, back⟩ := splitOpen_parts split
      split at found
      · cases found
      next name nonempty =>
        injection found with found
        subst found
        refine ⟨opens_iff.mpr ⟨before, rest, split, rfl⟩, nonempty, ?_, by rw [back]⟩
        rw [front, endsInName_iff, List.reverse_reverse]
  · rintro ⟨opens, nonempty, named, commas⟩
    obtain ⟨before, rest, split, length⟩ := opens_iff.mp opens
    obtain ⟨front, back⟩ := splitOpen_parts split
    rw [length] at front back
    rw [front, endsInName_iff, List.reverse_reverse] at named
    unfold context?
    rw [split]
    simp only
    split
    next empty => exact absurd (named.trans empty) nonempty
    next => rw [← named, length, ← back, ← commas]

/-- Among the parentheses that open in a text at most one stands before a balanced rest. There is
a call at the cursor exactly where there is such a parenthesis and a name ends the text before it,
and the call found is that one. -/
theorem call_at_open_parenthesis (text : List Char) :
    (∀ place other, Opens text place → Opens text other → place = other) ∧
    (∀ front, ∃! name, EndsInName front name) ∧
    ((context? text).isSome ↔
      ∃ place name, Opens text place ∧ EndsInName (text.take place) name ∧ name ≠ []) ∧
    ∀ call, context? text = some call →
      Opens text call.paren ∧ EndsInName (text.take call.paren) call.name ∧
      call.commas = countCommas (text.drop (call.paren + 1)) := by
  refine ⟨fun _ _ => opens_unique, ?_, ?_, ?_⟩
  · intro front
    exact ⟨_, endsInName_iff.mpr rfl, fun name named => endsInName_iff.mp named⟩
  · rw [Option.isSome_iff_exists]
    constructor
    · rintro ⟨call, found⟩
      obtain ⟨opens, nonempty, named, -⟩ := context_eq_some.mp found
      exact ⟨call.paren, call.name, opens, named, nonempty⟩
    · rintro ⟨place, name, opens, named, nonempty⟩
      let commas := countCommas (text.drop (place + 1))
      exact ⟨⟨name, place, commas⟩, context_eq_some.mpr ⟨opens, nonempty, named, rfl⟩⟩
  · intro call found
    obtain ⟨opens, -, named, commas⟩ := context_eq_some.mp found
    exact ⟨opens, named, commas⟩

/-- The call of `g` is the open one: `f` opens before it and `h` is closed. -/
theorem call_at_open_parenthesis_nested :
    Opens "f(12g ( x, h(1), ".toList 6 ∧ EndsInName "f(12g ".toList "g".toList ∧
      ¬ Opens "f(12g ( x, h(1), ".toList 1 := by
  obtain ⟨unique, -, -, found⟩ := call_at_open_parenthesis "f(12g ( x, h(1), ".toList
  obtain ⟨opens, named, -⟩ := found ⟨"g".toList, 6, 2⟩ (by decide +kernel)
  exact ⟨opens, named, fun outer => absurd (unique 6 1 opens outer) (by decide)⟩

end LanguageServer.Call
