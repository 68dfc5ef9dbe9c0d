import Mathlib.Data.List.Infix
import LanguageServer.Proofs.Call.Arguments
import LanguageServer.Proofs.Call.Context
import LanguageServer.Proofs.Text.Word

/-! Calls whose arguments hold strings. The count of separators skips strings, but the search for the
call reads the line as it is written: a parenthesis in a string counts like any other. So a call is
found exactly if the round parentheses of its arguments are balanced, those in strings included. -/

namespace LanguageServer.Call

open Text DyckStep

/-! ### Names and arguments -/

/-- A name: identifier characters, of which the first is no digit. -/
structure IsName (name : List Char) : Prop where
  nonempty : name ≠ []
  chars : ∀ c ∈ name, isIdentifier c = true
  first : ∀ c, name.head? = some c → c.isDigit = false

theorem isName_singleton {c : Char} (identifier : isIdentifier c = true)
    (letter : c.isDigit = false) : IsName [c] := by
  refine ⟨List.cons_ne_nil c [], ?_, ?_⟩
  · intro d member
    rw [List.mem_singleton.mp member]
    exact identifier
  · intro d first
    rw [← Option.some.inj first]
    exact letter

/-- No name ends a text, so a name that follows it does not go on with another one. -/
def IsApart (text : List Char) : Prop :=
  ∀ tail, tail <:+ text → ¬ IsName tail

def pairs : List (Char × Char) := [('(', ')'), ('[', ']'), ('\x7b', '\x7d')]

/-- A sequence of plain characters, closed strings and groups whose brackets belong together, with
commas between them only if they may be there. What stands in a string meets a condition. -/
inductive IsMatched (content : List Char → Prop) : Bool → List Char → Prop
  | nil {commas : Bool} : IsMatched content commas []
  | plain {commas : Bool} {c : Char} {rest : List Char} (plain : IsPlain c)
      (further : IsMatched content commas rest) : IsMatched content commas (c :: rest)
  | string {commas : Bool} {chars rest : List Char} (quoted : IsQuoted chars) (meets : content chars)
      (further : IsMatched content commas rest) : IsMatched content commas ('"' :: chars ++ '"' :: rest)
  | group {commas : Bool} {first last : Char} {inner rest : List Char} (pair : (first, last) ∈ pairs)
      (items : IsMatched content true inner) (further : IsMatched content commas rest) :
      IsMatched content commas (first :: inner ++ last :: rest)
  | comma {rest : List Char} (further : IsMatched content true rest) :
      IsMatched content true (',' :: rest)

theorem IsMatched.items {content : List Char → Prop} {commas : Bool} {text : List Char}
    (matched : IsMatched content commas text) : IsItems commas text := by
  induction matched with
  | nil => exact .nil
  | plain plain _ ih => exact .plain plain ih
  | string quoted _ _ ih => exact .string quoted ih
  | group pair _ _ inner ih =>
    have brackets : ∀ pair ∈ pairs, pair.1 ∈ openings ∧ pair.2 ∈ closings := by decide
    obtain ⟨opens, closes⟩ := brackets _ pair
    exact .group opens inner closes ih
  | comma _ ih => exact .comma ih

/-! ### Balanced texts -/

theorem rounds_append (first second : List Char) :
    rounds (first ++ second) = rounds first ++ rounds second :=
  List.filterMap_append

theorem rounds_cons_of_none {c : Char} (other : round? c = none) (text : List Char) :
    rounds (c :: text) = rounds text :=
  List.filterMap_cons_none other

theorem round?_of_plain {c : Char} (plain : IsPlain c) : round? c = none := by
  have opens : c ≠ '(' := fun same => plain.opens (by rw [same]; decide)
  have closes : c ≠ ')' := fun same => plain.closes (by rw [same]; decide)
  rw [round?, if_neg opens, if_neg closes]

theorem isBalanced_of_rounds {first second : List Char} (same : rounds first = rounds second)
    (balanced : IsBalanced second) : IsBalanced first := by
  obtain ⟨word, spelled⟩ := balanced
  exact ⟨word, spelled.trans same.symm⟩

theorem isBalanced_nil : IsBalanced [] :=
  ⟨0, rfl⟩

theorem IsBalanced.append {first second : List Char} (one : IsBalanced first)
    (other : IsBalanced second) : IsBalanced (first ++ second) := by
  obtain ⟨word, spelled⟩ := one
  obtain ⟨otherWord, otherSpelled⟩ := other
  refine ⟨word + otherWord, ?_⟩
  rw [rounds_append, ← spelled, ← otherSpelled]
  rfl

theorem IsBalanced.nest {inner : List Char} (balanced : IsBalanced inner) :
    IsBalanced ('(' :: inner ++ [')']) := by
  obtain ⟨word, spelled⟩ := balanced
  refine ⟨word.nest, ?_⟩
  rw [rounds_append, ← List.singleton_append, rounds_append, ← spelled]
  rfl

theorem IsBalanced.group {first last : Char} {inner : List Char} (balanced : IsBalanced inner)
    (pair : (first, last) ∈ pairs) : IsBalanced (first :: inner ++ [last]) := by
  have cases : (first = '(' ∧ last = ')') ∨ (round? first = none ∧ round? last = none) := by
    have each : ∀ pair ∈ pairs, (pair.1 = '(' ∧ pair.2 = ')') ∨
        (round? pair.1 = none ∧ round? pair.2 = none) := by decide
    exact each _ pair
  rcases cases with ⟨opens, closes⟩ | ⟨opens, closes⟩
  · rw [opens, closes]
    exact balanced.nest
  · apply isBalanced_of_rounds _ balanced
    rw [List.cons_append, rounds_cons_of_none opens, rounds_append, rounds_cons_of_none closes]
    exact List.append_nil _

/-- Arguments are balanced if what stands in their strings is. -/
theorem IsMatched.balanced {commas : Bool} {text : List Char}
    (matched : IsMatched IsBalanced commas text) : IsBalanced text := by
  induction matched with
  | nil => exact isBalanced_nil
  | plain plain _ ih => exact isBalanced_of_rounds (rounds_cons_of_none (round?_of_plain plain) _) ih
  | string _ balanced _ ih =>
    apply isBalanced_of_rounds _ (balanced.append ih)
    rw [List.cons_append, rounds_cons_of_none rfl, rounds_append, rounds_cons_of_none rfl,
      rounds_append]
  | @group _ first last inner rest pair _ _ balanced ih =>
    have split : first :: inner ++ last :: rest = (first :: inner ++ [last]) ++ rest := by simp
    rw [split]
    exact (balanced.group pair).append ih
  | comma _ ih => exact isBalanced_of_rounds (rounds_cons_of_none rfl _) ih

theorem isBalanced_intercalate {arguments : List (List Char)}
    (each : ∀ argument ∈ arguments, IsBalanced argument) :
    IsBalanced ([','].intercalate arguments) := by
  induction arguments with
  | nil => exact isBalanced_nil
  | cons argument more ih =>
    obtain ⟨first, others⟩ := List.forall_mem_cons.mp each
    cases more with
    | nil => simpa using first
    | cons next more =>
      have joined : [','].intercalate (argument :: next :: more) =
          argument ++ ([','] ++ [','].intercalate (next :: more)) := by simp [List.intercalate]
      rw [joined]
      exact first.append ((isBalanced_of_rounds rfl isBalanced_nil).append (ih others))

/-! ### The name before a parenthesis -/

/-- A text that does not end in an identifier character ends in no name. -/
theorem isApart_of_last {text : List Char}
    (last : ∀ c, text.getLast? = some c → isIdentifier c = false) : IsApart text := by
  intro tail within named
  obtain ⟨front, whole⟩ := within
  obtain ⟨inner, c, same⟩ := List.eq_nil_or_concat tail |>.resolve_left named.nonempty
  rw [List.concat_eq_append] at same
  have ends : text.getLast? = some c := by
    rw [← whole, same, ← List.append_assoc, List.getLast?_concat]
  have other := last c ends
  rw [named.chars c (by simp [same])] at other
  cases other

/-- Of the identifier characters that end a text without a name all are digits. -/
theorem IsApart.digits {text front run : List Char} (apart : IsApart text)
    (split : text = front ++ run) (chars : ∀ c ∈ run, isIdentifier c = true) :
    ∀ c ∈ run, c.isDigit = true := by
  intro c member
  by_contra other
  obtain ⟨left, right, same⟩ := List.append_of_mem member
  have within : c :: right <:+ text := ⟨front ++ left, by rw [split, same, List.append_assoc]⟩
  apply apart (c :: right) within
  refine ⟨List.cons_ne_nil c right, ?_, ?_⟩
  · intro d inside
    apply chars
    rw [same]
    exact List.mem_append_right left inside
  · intro d first
    obtain rfl := Option.some.inj first
    exact Bool.eq_false_iff.mpr other

theorem endsInName_append {before name : List Char} (apart : IsApart before) (named : IsName name) :
    EndsInName (before ++ name) name := by
  obtain ⟨front, same⟩ : ∃ front, front = (before.reverse.dropWhile isIdentifier).reverse := ⟨_, rfl⟩
  obtain ⟨run, longest⟩ : ∃ run, run = (before.reverse.takeWhile isIdentifier).reverse := ⟨_, rfl⟩
  have split : before = front ++ run := by
    rw [same, longest, ← List.reverse_append, List.takeWhile_append_dropWhile, List.reverse_reverse]
  have chars : ∀ c ∈ run, isIdentifier c = true := by
    intro c member
    rw [longest] at member
    exact List.mem_takeWhile_imp (List.mem_reverse.mp member)
  refine ⟨⟨front, run, [], ?_, ?_, ?_, ?_, ?_, apart.digits split chars⟩, named.first⟩
  · rw [List.append_nil, ← List.append_assoc, ← split]
  · simp
  · intro c last
    rw [← List.append_assoc, List.getLast?_append_of_ne_nil _ named.nonempty] at last
    exact not_isBlank_of_isIdentifier (named.chars c (List.mem_of_getLast? last))
  · intro c member
    rcases List.mem_append.mp member with inside | later
    · exact chars c inside
    · exact named.chars c later
  · intro c last
    rw [same, List.getLast?_reverse] at last
    exact first_dropWhile last

theorem drop_paren (before rest : List Char) :
    (before ++ '(' :: rest).drop (before.length + 1) = rest := by
  rw [← List.drop_drop, List.drop_left, List.drop_succ_cons, List.drop_zero]

theorem opens_append {before rest : List Char} :
    Opens (before ++ '(' :: rest) before.length ↔ IsBalanced rest := by
  constructor
  · intro opens
    rw [← drop_paren before rest]
    exact opens.balanced
  · intro balanced
    exact ⟨by simp, by rwa [drop_paren]⟩

section Call

variable {before name rest : List Char} (apart : IsApart before) (named : IsName name)

include apart named

/-- The call of a name at a parenthesis is found exactly if what follows the parenthesis is
balanced. -/
theorem context_append :
    context? (before ++ name ++ '(' :: rest) =
        some ⟨name, (before ++ name).length, countCommas rest⟩ ↔ IsBalanced rest := by
  rw [context_eq_some, opens_append, and_iff_left]
  refine ⟨named.nonempty, ?_, ?_⟩
  · rw [List.take_left]
    exact endsInName_append apart named
  · rw [drop_paren]

/-- Whatever call is found at the parenthesis after a name is that of the name. -/
theorem context_unique {call : Context}
    (found : context? (before ++ name ++ '(' :: rest) = some call)
    (place : call.paren = (before ++ name).length) :
    call = ⟨name, (before ++ name).length, countCommas rest⟩ := by
  obtain ⟨opens, -⟩ := context_eq_some.mp found
  rw [place, opens_append] at opens
  rw [(context_append apart named).mpr opens] at found
  exact (Option.some.inj found).symm

end Call

/-- A call with arguments is found, with its name and one separator less than there are arguments,
exactly if the round parentheses of the arguments are balanced, those in strings included. So it is
found if those of each string are, and no other call is ever found at its parenthesis. -/
theorem call_found_iff_balanced {before name : List Char} {arguments : List (List Char)}
    (apart : IsApart before) (named : IsName name) (nonempty : arguments ≠ [])
    (each : ∀ argument ∈ arguments, IsMatched (fun _ => True) false argument) :
    let rest := [','].intercalate arguments
    let text := before ++ name ++ '(' :: rest
    let call : Context := ⟨name, (before ++ name).length, arguments.length - 1⟩
    (context? text = some call ↔ IsBalanced rest) ∧
      ((∀ argument ∈ arguments, IsMatched IsBalanced false argument) → context? text = some call) ∧
      ∀ found, context? text = some found → found.paren = call.paren → found = call := by
  intro rest text call
  have counted : countCommas rest = arguments.length - 1 :=
    countCommas_intercalate nonempty fun argument member => (each argument member).items
  have exactly : context? text = some ⟨name, _, countCommas rest⟩ ↔ IsBalanced rest :=
    context_append apart named
  rw [counted] at exactly
  refine ⟨exactly, ?_, ?_⟩
  · intro tame
    apply exactly.mpr
    apply isBalanced_intercalate
    intro other member
    exact (tame other member).balanced
  · intro found is place
    rw [context_unique apart named is place, counted]

/-- The string has balanced parentheses, so the call around it is found. -/
theorem call_found_iff_balanced_quoted :
    let arguments := [['"', '(', ',', ')', '"'], ['g', '[', '2', ']']]
    (∀ argument ∈ arguments, IsMatched IsBalanced false argument) ∧
      context? (['1', '+', ' '] ++ ['f'] ++ '(' :: [','].intercalate arguments) =
        some ⟨['f'], 4, 1⟩ := by
  intro arguments
  have strings : ∀ content : List Char → Prop, content ['(', ',', ')'] →
      ∀ argument ∈ arguments, IsMatched content false argument := by
    intro content meets
    have string : IsMatched content false ['"', '(', ',', ')', '"'] := by
      apply @IsMatched.string content false ['(', ',', ')'] [] _ meets .nil
      exact .plain (by decide) (by decide)
        (.plain (by decide) (by decide) (.plain (by decide) (by decide) .nil))
    have plain : IsPlain 'g' ∧ IsPlain '2' := by
      constructor <;> constructor <;> decide
    have group : IsMatched content false ['g', '[', '2', ']'] :=
      .plain plain.1 (@IsMatched.group content false '[' ']' ['2'] [] (by decide)
        (.plain plain.2 .nil) .nil)
    exact List.forall_mem_cons.mpr ⟨string, List.forall_mem_cons.mpr ⟨group, by simp⟩⟩
  have balanced : IsBalanced ['(', ',', ')'] :=
    @IsBalanced.nest [','] (isBalanced_of_rounds rfl isBalanced_nil)
  have apart : IsApart ['1', '+', ' '] := by
    apply isApart_of_last
    intro c last
    obtain rfl := Option.some.inj last
    decide +kernel
  have named : IsName ['f'] := isName_singleton (by decide +kernel) (by decide)
  have found := call_found_iff_balanced apart named (List.cons_ne_nil _ _) (strings _ trivial)
  exact ⟨strings _ balanced, found.2.1 (strings _ balanced)⟩

/-- A parenthesis in a string is taken for that of a call, and no call is found. So it is not true
that a call with arguments is always found, whatever their strings hold. -/
theorem parenthesis_in_string_taken :
    context? ['f', '(', '"', '(', '"'] = none ∧
      ¬ ∀ before name arguments, '"' ∉ before → IsApart before → IsName name → arguments ≠ [] →
        (∀ argument ∈ arguments, IsMatched (fun _ => True) false argument) →
        context? (before ++ name ++ '(' :: [','].intercalate arguments) =
          some ⟨name, (before ++ name).length, arguments.length - 1⟩ := by
  have none : context? ['f', '(', '"', '(', '"'] = none := by decide +kernel
  refine ⟨none, ?_⟩
  intro always
  have apart : IsApart [] := isApart_of_last (by simp)
  have named : IsName ['f'] := isName_singleton (by decide +kernel) (by decide)
  have string : IsMatched (fun _ => True) false ['"', '(', '"'] :=
    @IsMatched.string _ false ['('] [] (.plain (by decide) (by decide) .nil) trivial .nil
  have found := always [] ['f'] [['"', '(', '"']] (by simp) apart named (by simp)
    (List.forall_mem_cons.mpr ⟨string, by simp⟩)
  cases none.symm.trans found

end LanguageServer.Call
