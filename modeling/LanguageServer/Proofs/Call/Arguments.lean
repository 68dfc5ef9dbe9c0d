import LanguageServer.Call.Context

/-! The grammar of arguments. Commas separate arguments unless they stand in strings or in brackets,
and the count of separators follows this grammar, also where the last argument is unfinished. -/

namespace LanguageServer.Call

/-! ### The grammar -/

/-- The brackets that open a group. -/
def openings : List Char := ['(', '[', '\x7b']

/-- The brackets that close a group, whichever has opened it. -/
def closings : List Char := [')', ']', '\x7d']

/-- A character that stands for itself: no quote, comma or bracket. -/
structure IsPlain (c : Char) : Prop where
  quote : c ≠ '"'
  comma : c ≠ ','
  opens : c ∉ openings
  closes : c ∉ closings

/-- What can stand between quotes: any characters, with a backslash before each quote and before each
backslash. Other characters can have one, too. -/
inductive IsQuoted : List Char → Prop
  | nil : IsQuoted []
  | plain {c : Char} {rest : List Char} (quote : c ≠ '"') (backslash : c ≠ '\\')
      (further : IsQuoted rest) : IsQuoted (c :: rest)
  | escaped {c : Char} {rest : List Char} (further : IsQuoted rest) : IsQuoted ('\\' :: c :: rest)

/-- A sequence of plain characters, closed strings and closed groups, with commas between them only if
they may be there. In a group they may. -/
inductive IsItems : Bool → List Char → Prop
  | nil {commas : Bool} : IsItems commas []
  | plain {commas : Bool} {c : Char} {rest : List Char} (plain : IsPlain c)
      (further : IsItems commas rest) : IsItems commas (c :: rest)
  | string {commas : Bool} {chars rest : List Char} (quoted : IsQuoted chars)
      (further : IsItems commas rest) : IsItems commas ('"' :: chars ++ '"' :: rest)
  | group {commas : Bool} {first last : Char} {inner rest : List Char} (opens : first ∈ openings)
      (items : IsItems true inner) (closes : last ∈ closings) (further : IsItems commas rest) :
      IsItems commas (first :: inner ++ last :: rest)
  | comma {rest : List Char} (further : IsItems true rest) : IsItems true (',' :: rest)

/-- An argument: a sequence of items without commas between them. -/
def IsArgument (text : List Char) : Prop :=
  IsItems false text

/-- What an argument can end with while it is written: groups that are not closed, one in the other,
with items and commas in them, and then perhaps a string that is not closed. -/
inductive IsUnfinished : List Char → Prop
  | group {first : Char} {inner : List Char} (opens : first ∈ openings) (items : IsItems true inner) :
      IsUnfinished (first :: inner)
  | within {first : Char} {inner tail : List Char} (opens : first ∈ openings)
      (items : IsItems true inner) (further : IsUnfinished tail) :
      IsUnfinished (first :: inner ++ tail)
  | string {chars : List Char} (quoted : IsQuoted chars) : IsUnfinished ('"' :: chars)
  | backslash {chars : List Char} (quoted : IsQuoted chars) : IsUnfinished ('"' :: chars ++ ['\\'])

/-! ### Single characters -/

namespace Separators

/-- Where the count stands outside of strings, with the groups that are open. -/
def outside (count depth : Nat) : Separators :=
  ⟨count, depth, false, false⟩

/-- Where the count stands in a string. -/
def inside (count depth : Nat) : Separators :=
  ⟨count, depth, true, false⟩

variable {c : Char} {count depth : Nat}

theorem step_plain (plain : IsPlain c) : (outside count depth).step c = outside count depth := by
  obtain ⟨quote, comma, opens, closes⟩ := plain
  simp only [openings, closings, List.mem_cons, List.not_mem_nil, or_false, not_or] at opens closes
  unfold step outside
  simp_all

theorem step_opening (opens : c ∈ openings) :
    (outside count depth).step c = outside count (depth + 1) := by
  simp only [openings, List.mem_cons, List.not_mem_nil, or_false] at opens
  rcases opens with rfl | rfl | rfl <;> rfl

theorem step_closing (closes : c ∈ closings) :
    (outside count (depth + 1)).step c = outside count depth := by
  simp only [closings, List.mem_cons, List.not_mem_nil, or_false] at closes
  rcases closes with rfl | rfl | rfl <;> rfl

theorem step_quote : (outside count depth).step '"' = inside count depth := rfl

theorem step_comma : (outside count 0).step ',' = outside (count + 1) 0 := rfl

theorem step_comma_within : (outside count (depth + 1)).step ',' = outside count (depth + 1) := rfl

theorem step_endQuote : (inside count depth).step '"' = outside count depth := rfl

theorem step_inside (quote : c ≠ '"') (backslash : c ≠ '\\') :
    (inside count depth).step c = inside count depth := by
  unfold step inside
  simp_all

theorem step_escaped : ((inside count depth).step '\\').step c = inside count depth := rfl

/-! ### Whole texts -/

theorem foldl_quoted {chars : List Char} (quoted : IsQuoted chars) :
    chars.foldl step (inside count depth) = inside count depth := by
  induction quoted with
  | nil => rfl
  | plain quote backslash further ih => rw [List.foldl_cons, step_inside quote backslash, ih]
  | escaped further ih => rw [List.foldl_cons, List.foldl_cons, step_escaped, ih]

/-- Items leave the count as it is: what they open they close, and their commas stand in groups. -/
theorem foldl_items {commas : Bool} {text : List Char} (items : IsItems commas text)
    (deep : commas = true → depth ≠ 0) :
    text.foldl step (outside count depth) = outside count depth := by
  induction items generalizing depth with
  | nil => rfl
  | plain plain further ih => rw [List.foldl_cons, step_plain plain, ih deep]
  | string quoted further ih =>
    rw [List.cons_append, List.foldl_cons, step_quote, List.foldl_append, foldl_quoted quoted,
      List.foldl_cons, step_endQuote, ih deep]
  | group opens items closes further inner ih =>
    rw [List.cons_append, List.foldl_cons, step_opening opens, List.foldl_append,
      inner fun _ => Nat.succ_ne_zero depth, List.foldl_cons, step_closing closes, ih deep]
  | comma further ih =>
    obtain ⟨less, rfl⟩ := Nat.exists_eq_succ_of_ne_zero (deep rfl)
    rw [List.foldl_cons, step_comma_within, ih deep]

/-- What is unfinished separates nothing: all its commas stand in an open group or string. -/
theorem count_unfinished {tail : List Char} (unfinished : IsUnfinished tail) :
    (tail.foldl step (outside count depth)).count = count := by
  induction unfinished generalizing depth with
  | group opens items =>
    rw [List.foldl_cons, step_opening opens, foldl_items items fun _ => Nat.succ_ne_zero depth]
    rfl
  | within opens items further ih =>
    rw [List.cons_append, List.foldl_cons, step_opening opens, List.foldl_append,
      foldl_items items fun _ => Nat.succ_ne_zero depth, ih]
  | string quoted =>
    rw [List.foldl_cons, step_quote, foldl_quoted quoted]
    rfl
  | backslash quoted =>
    rw [List.cons_append, List.foldl_cons, step_quote, List.foldl_append, foldl_quoted quoted]
    rfl

theorem foldl_argument {text : List Char} (argument : IsArgument text) (count : Nat) :
    text.foldl step (outside count 0) = outside count 0 := by
  refine foldl_items argument ?_
  intro absurdity
  cases absurdity

/-- Each argument after the first one adds the comma before it. -/
theorem foldl_arguments {argument : List Char} {more : List (List Char)}
    (first : IsArgument argument) (others : ∀ other ∈ more, IsArgument other) (count : Nat) :
    ([','].intercalate (argument :: more)).foldl step (outside count 0) =
      outside (count + more.length) 0 := by
  induction more generalizing argument count with
  | nil => simpa using foldl_argument first count
  | cons next more ih =>
    obtain ⟨second, others⟩ := List.forall_mem_cons.mp others
    have joined : [','].intercalate (argument :: next :: more) =
        argument ++ ',' :: [','].intercalate (next :: more) := by simp [List.intercalate]
    rw [joined, List.foldl_append, foldl_argument first, List.foldl_cons, step_comma,
      ih second others, List.length_cons, Nat.add_assoc, Nat.add_comm 1]

theorem foldl_intercalate {arguments : List (List Char)} (nonempty : arguments ≠ [])
    (each : ∀ argument ∈ arguments, IsArgument argument) :
    ([','].intercalate arguments).foldl step (outside 0 0) = outside (arguments.length - 1) 0 := by
  obtain ⟨argument, more, rfl⟩ := List.exists_cons_of_ne_nil nonempty
  obtain ⟨first, others⟩ := List.forall_mem_cons.mp each
  simpa using foldl_arguments first others 0

end Separators

theorem countCommas_intercalate {arguments : List (List Char)} (nonempty : arguments ≠ [])
    (each : ∀ argument ∈ arguments, IsArgument argument) :
    countCommas ([','].intercalate arguments) = arguments.length - 1 :=
  congrArg Separators.count (Separators.foldl_intercalate nonempty each)

/-- Between arguments there is one separator less than there are arguments, whatever strings and groups
they hold, and also while the last of them is unfinished. -/
theorem commas_separate_arguments {arguments : List (List Char)} (nonempty : arguments ≠ [])
    (each : ∀ argument ∈ arguments, IsArgument argument) :
    countCommas ([','].intercalate arguments) = arguments.length - 1 ∧
      ∀ tail, IsUnfinished tail →
        countCommas ([','].intercalate arguments ++ tail) = arguments.length - 1 := by
  refine ⟨countCommas_intercalate nonempty each, fun tail unfinished => ?_⟩
  change (([','].intercalate arguments ++ tail).foldl Separators.step
    (Separators.outside 0 0)).count = arguments.length - 1
  rw [List.foldl_append, Separators.foldl_intercalate nonempty each,
    Separators.count_unfinished unfinished]

/-- Two arguments, a call and a string, and then a group and a string that are not closed. -/
theorem commas_separate_arguments_nested :
    let arguments := [['g', '(', '1', ',', '2', ']'], ['"', ',', '\\', '"', '"']]
    let tail := ['\x7b', ',', '"', '\\']
    (∀ argument ∈ arguments, IsArgument argument) ∧ IsUnfinished tail ∧
      countCommas ([','].intercalate arguments ++ tail) = 1 := by
  intro arguments tail
  have plain : IsPlain 'g' ∧ IsPlain '1' ∧ IsPlain '2' := by
    refine ⟨⟨?_, ?_, ?_, ?_⟩, ⟨?_, ?_, ?_, ?_⟩, ⟨?_, ?_, ?_, ?_⟩⟩ <;> decide
  obtain ⟨letter, one, two⟩ := plain
  have call : IsArgument ['g', '(', '1', ',', '2', ']'] :=
    .plain letter (@IsItems.group false '(' ']' ['1', ',', '2'] [] (by decide)
      (.plain one (.comma (.plain two .nil))) (by decide) .nil)
  have string : IsArgument ['"', ',', '\\', '"', '"'] :=
    @IsItems.string false [',', '\\', '"'] [] (.plain (by decide) (by decide) (.escaped .nil)) .nil
  have each : ∀ argument ∈ arguments, IsArgument argument :=
    List.forall_mem_cons.mpr ⟨call, List.forall_mem_cons.mpr ⟨string, by simp⟩⟩
  have unfinished : IsUnfinished tail :=
    @IsUnfinished.within '\x7b' [','] ['"', '\\'] (by decide) (.comma .nil) (.backslash .nil)
  exact ⟨each, unfinished, (commas_separate_arguments (by simp [arguments]) each).2 tail unfinished⟩

end LanguageServer.Call
