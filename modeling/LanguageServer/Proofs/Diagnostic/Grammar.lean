import Mathlib.Data.List.Count
import Mathlib.Data.List.TakeWhile
import Mathlib.Data.Nat.Digits.Defs
import Mathlib.Tactic.Ring
import LanguageServer.Diagnostic
import LanguageServer.Proofs.Text.Trim

/-! The grammar of diagnostic lines, and that exactly the lines of this grammar are read. -/

namespace LanguageServer.Diagnostic

open Text

/-! ### The grammar -/

/-- A run of at least one digit, of any scripts. -/
structure IsNumeral (digits : List Char) : Prop where
  nonempty : digits ≠ []
  digits : ∀ c ∈ digits, isDigit c = true

/-- A head whose numbers are written with digits. -/
structure Head.Proper (head : Head) : Prop where
  line : IsNumeral head.line
  column : IsNumeral head.column
  endColumn : ∀ digits, head.endColumn = some digits → IsNumeral digits

/-- How the end of a column range is written, if there is one. -/
def rangeText : Option (List Char) → List Char
  | some digits => '-' :: digits
  | none => []

def Head.text (head : Head) : List Char :=
  [':'] ++ head.line ++ [':'] ++ head.column ++ rangeText head.endColumn ++ [':', ' '] ++
    head.severity.tag.toList ++ [':', ' ']

/-- A head stands in a text, with other text before and after it. -/
structure Occurs (text before : List Char) (head : Head) (after : List Char) : Prop where
  proper : head.Proper
  split : text = before ++ head.text ++ after

/-- A head stands in a text, and no head begins further left. -/
structure Leftmost (text before : List Char) (head : Head) (after : List Char) : Prop
    extends Occurs text before head after where
  first : ∀ before' head' after', Occurs text before' head' after' →
    before.length ≤ before'.length

/-- The part of a text after its last line feed. -/
structure IsLastPart (text part : List Char) : Prop where
  unbroken : '\n' ∉ part
  whole : text = part ∨ ∃ front, text = front ++ '\n' :: part

/-- The decimal value of a run of ASCII digits. -/
def decimal (digits : List Char) : Nat :=
  Nat.ofDigits 10 (digits.map fun c => c.toNat - '0'.toNat).reverse

/-- The position that a numeral stands for. -/
def position (digits : List Char) : Nat :=
  if digits.all Char.isDigit = true ∧ decimal digits < 2 ^ 32 then decimal digits else 2 ^ 32 - 1

/-- The diagnostic that a head and the text after it describe. -/
structure Describes (head : Head) (after : List Char) (found : Diagnostic) : Prop where
  severity : found.severity = head.severity
  startLine : found.span.startLine = position head.line - 1
  endLine : found.span.endLine = found.span.startLine
  startColumn : found.span.startColumn = position head.column
  endColumn : found.span.endColumn =
    match head.endColumn with
    | some digits => position digits
    | none => min (position head.column + 1) (2 ^ 32 - 1)
  message : IsTrimmed after found.message.toList

/-! ### Parts of a head -/

theorem not_isDigit_colon : isDigit ':' = false := by decide

theorem not_isDigit_dash : isDigit '-' = false := by decide

/-- A numeral is read up to a character that is no digit. -/
theorem digits?_append {run rest : List Char} (numeral : IsNumeral run)
    (ends : ∀ c, rest.head? = some c → isDigit c = false) :
    digits? (run ++ rest) = some (run, rest) := by
  have taken : (run ++ rest).takeWhile isDigit = run := by
    rw [List.takeWhile_append_of_pos numeral.digits]
    cases rest with
    | nil => simp
    | cons c rest => simp [ends c rfl]
  have dropped : (run ++ rest).dropWhile isDigit = rest := by
    rw [List.dropWhile_append_of_pos numeral.digits]
    cases rest with
    | nil => simp
    | cons c rest => simp [ends c rfl]
  rw [digits?, taken, dropped]
  split
  · exact absurd rfl numeral.nonempty
  · rfl

theorem digits?_eq_some {text run rest : List Char} (found : digits? text = some (run, rest)) :
    IsNumeral run ∧ text = run ++ rest := by
  rw [digits?] at found
  split at found
  · cases found
  · rename_i nonempty
    obtain ⟨rfl, rfl⟩ := Prod.mk.inj (Option.some.inj found)
    refine ⟨⟨nonempty, ?_⟩, List.takeWhile_append_dropWhile.symm⟩
    intro c membership
    exact List.mem_takeWhile_imp membership

theorem severity?_eq_some_iff {text rest : List Char} {severity : Severity} :
    severity? text = some (severity, rest) ↔ text = severity.tag.toList ++ rest := by
  rw [severity?]
  constructor
  · intro found
    split at found
    · rename_i tagged
      obtain ⟨rfl, rfl⟩ := Prod.mk.inj (Option.some.inj found)
      exact (List.isPrefixOf?_eq_some_iff_append_eq.mp tagged).symm
    · split at found
      · rename_i tagged
        obtain ⟨rfl, rfl⟩ := Prod.mk.inj (Option.some.inj found)
        exact (List.isPrefixOf?_eq_some_iff_append_eq.mp tagged).symm
      · cases found
  · rintro rfl
    cases severity <;> rfl

theorem endColumn?_range {digits rest : List Char} (numeral : IsNumeral digits)
    (ends : ∀ c, rest.head? = some c → isDigit c = false) :
    endColumn? ('-' :: digits ++ rest) = (some digits, rest) := by
  have dash : ['-'].isPrefixOf? ('-' :: digits ++ rest) = some (digits ++ rest) := by simp
  rw [endColumn?, dash, Option.bind_some, digits?_append numeral ends]

theorem endColumn?_none {rest : List Char} : endColumn? (':' :: rest) = (none, ':' :: rest) := rfl

/-- Whether or not there is a range, it is read off the front of a text, and nothing is lost. -/
theorem endColumn?_split (text : List Char) :
    text = rangeText (endColumn? text).1 ++ (endColumn? text).2 ∧
      ∀ digits, (endColumn? text).1 = some digits → IsNumeral digits := by
  rw [endColumn?]
  split
  · rename_i run rest found
    obtain ⟨tail, dash, digits⟩ := Option.bind_eq_some_iff.mp found
    obtain ⟨numeral, rfl⟩ := digits?_eq_some digits
    refine ⟨(List.isPrefixOf?_eq_some_iff_append_eq.mp dash).symm, ?_⟩
    rintro _ ⟨⟩
    exact numeral
  · refine ⟨rfl, ?_⟩
    rintro _ ⟨⟩

/-! ### Heads -/

/-- A proper head at the front of a text is read, whatever follows it. -/
theorem head?_text (head : Head) (proper : head.Proper) (rest : List Char) :
    head? (head.text ++ rest) = some (head, rest) := by
  obtain ⟨line, column, endColumn, severity⟩ := head
  obtain ⟨lineNumeral, columnNumeral, rangeNumeral⟩ := proper
  have tagged : severity? (severity.tag.toList ++ (':' :: ' ' :: rest)) =
      some (severity, ':' :: ' ' :: rest) := severity?_eq_some_iff.mpr rfl
  have colon : ∀ {tail : List Char} c, (':' :: tail).head? = some c → isDigit c = false := by
    rintro _ _ ⟨⟩
    exact not_isDigit_colon
  have lineRead : ∀ tail, digits? (line ++ ':' :: tail) = some (line, ':' :: tail) :=
    fun _ => digits?_append lineNumeral colon
  cases endColumn with
  | none =>
    have columnRead : ∀ tail, digits? (column ++ ':' :: tail) = some (column, ':' :: tail) :=
      fun _ => digits?_append columnNumeral colon
    simp [head?, Head.text, rangeText, List.isPrefixOf?, lineRead, columnRead, endColumn?_none,
      tagged]
  | some digits =>
    have columnRead : ∀ tail, digits? (column ++ '-' :: tail) = some (column, '-' :: tail) := by
      intro tail
      refine digits?_append columnNumeral ?_
      rintro _ ⟨⟩
      exact not_isDigit_dash
    have rangeRead : ∀ tail, endColumn? ('-' :: (digits ++ ':' :: tail)) =
        (some digits, ':' :: tail) :=
      fun _ => endColumn?_range (rangeNumeral digits rfl) colon
    simp [head?, Head.text, rangeText, List.isPrefixOf?, lineRead, columnRead, rangeRead, tagged]

theorem head?_eq_some {text rest : List Char} {head : Head} (found : head? text = some (head, rest)) :
    head.Proper ∧ text = head.text ++ rest := by
  simp only [head?, Option.pure_def, Option.bind_eq_bind, Option.bind_eq_some_iff,
    List.isPrefixOf?_eq_some_iff_append_eq, Prod.exists, Option.some.injEq, Prod.mk.injEq] at found
  obtain ⟨text₁, rfl, line, text₂, lineRead, text₃, rfl, column, text₄, columnRead, text₅, ranged,
    severity, text₆, tagged, rest, rfl, rfl, rfl⟩ := found
  obtain ⟨lineNumeral, rfl⟩ := digits?_eq_some lineRead
  obtain ⟨columnNumeral, rfl⟩ := digits?_eq_some columnRead
  obtain ⟨split, rangeNumeral⟩ := endColumn?_split text₄
  rw [← ranged, severity?_eq_some_iff.mp tagged] at split
  refine ⟨⟨lineNumeral, columnNumeral, rangeNumeral⟩, ?_⟩
  rw [Head.text]
  conv_lhs => rw [split]
  simp

theorem head?_eq_some_iff {text rest : List Char} {head : Head} :
    head? text = some (head, rest) ↔ head.Proper ∧ text = head.text ++ rest := by
  constructor
  · exact head?_eq_some
  · rintro ⟨proper, rfl⟩
    exact head?_text head proper rest

/-- At one place of a text there is at most one head. -/
theorem Occurs.unique {text before before' after after' : List Char} {head head' : Head}
    (here : Occurs text before head after) (there : Occurs text before' head' after')
    (same : before.length = before'.length) : head = head' ∧ after = after' := by
  have split := here.split.symm.trans there.split
  rw [List.append_assoc, List.append_assoc] at split
  obtain ⟨-, tails⟩ := List.append_inj split same
  have read := head?_text head here.proper after
  rw [tails, head?_text head' there.proper after'] at read
  obtain ⟨rfl, rfl⟩ := Prod.mk.inj (Option.some.inj read)
  exact ⟨rfl, rfl⟩

/-! ### The leftmost head -/

theorem Occurs.cons {text before after : List Char} {head : Head} (c : Char)
    (here : Occurs text before head after) : Occurs (c :: text) (c :: before) head after :=
  ⟨here.proper, by rw [here.split]; rfl⟩

theorem Occurs.front_or_rest {c : Char} {rest before after : List Char} {head : Head}
    (here : Occurs (c :: rest) before head after) :
    (before = [] ∧ head? (c :: rest) = some (head, after)) ∨
      ∃ before', before = c :: before' ∧ Occurs rest before' head after := by
  obtain ⟨proper, split⟩ := here
  cases before with
  | nil => exact .inl ⟨rfl, head?_eq_some_iff.mpr ⟨proper, split⟩⟩
  | cons first before =>
    obtain ⟨rfl, tail⟩ := List.cons.inj split
    exact .inr ⟨before, rfl, proper, tail⟩

theorem not_occurs_nil {before after : List Char} {head : Head} : ¬ Occurs [] before head after := by
  intro here
  have split := here.split
  simp [Head.text] at split

/-- The search finds a head if there is one. -/
theorem findHead?_eq_none_iff {text : List Char} :
    findHead? text = none ↔ ∀ before head after, ¬ Occurs text before head after := by
  induction text with
  | nil =>
    simp only [findHead?, true_iff]
    intro before head after
    exact not_occurs_nil
  | cons c rest ih =>
    rw [findHead?]
    cases front : head? (c :: rest) with
    | some found =>
      simp only [reduceCtorEq, false_iff]
      intro none
      obtain ⟨proper, split⟩ := head?_eq_some front
      exact none [] found.1 found.2 ⟨proper, split⟩
    | none =>
      rw [ih]
      constructor
      · intro none before head after here
        rcases here.front_or_rest with ⟨-, found⟩ | ⟨before', -, further⟩
        · rw [front] at found
          cases found
        · exact none before' head after further
      · intro none before head after here
        exact none (c :: before) head after (here.cons c)

/-- The search finds the leftmost head. -/
theorem leftmost_of_findHead? {text after : List Char} {head : Head}
    (found : findHead? text = some (head, after)) : ∃ before, Leftmost text before head after := by
  induction text with
  | nil => cases found
  | cons c rest ih =>
    rw [findHead?] at found
    cases front : head? (c :: rest) with
    | some first =>
      rw [front] at found
      obtain rfl := Option.some.inj found
      obtain ⟨proper, split⟩ := head?_eq_some front
      exact ⟨[], ⟨proper, split⟩, fun _ _ _ _ => Nat.zero_le _⟩
    | none =>
      rw [front] at found
      obtain ⟨before, here⟩ := ih found
      refine ⟨c :: before, here.toOccurs.cons c, ?_⟩
      intro before' head' after' there
      rcases there.front_or_rest with ⟨-, other⟩ | ⟨before', rfl, further⟩
      · rw [front] at other
        cases other
      · exact Nat.succ_le_succ (here.first _ _ _ further)

theorem findHead?_eq_some_iff {text after : List Char} {head : Head} :
    findHead? text = some (head, after) ↔ ∃ before, Leftmost text before head after := by
  constructor
  · exact leftmost_of_findHead?
  · rintro ⟨before, here⟩
    cases found : findHead? text with
    | none => exact absurd here.toOccurs (findHead?_eq_none_iff.mp found before head after)
    | some first =>
      obtain ⟨before', there⟩ := leftmost_of_findHead? found
      have same := Nat.le_antisymm (here.first _ _ _ there.toOccurs)
        (there.first _ _ _ here.toOccurs)
      obtain ⟨rfl, rfl⟩ := here.toOccurs.unique there.toOccurs same
      rfl

/-! ### Numbers and lines -/

theorem foldl_digits (digits : List Char) (value : Nat) :
    digits.foldl (fun value c => 10 * value + (c.toNat - '0'.toNat)) value =
      10 ^ digits.length * value + decimal digits := by
  induction digits generalizing value with
  | nil => simp [decimal]
  | cons c rest ih =>
    have later : decimal (c :: rest) =
        decimal rest + 10 ^ rest.length * (c.toNat - '0'.toNat) := by
      simp [decimal, Nat.ofDigits_append]
    rw [List.foldl_cons, ih, later, List.length_cons, pow_succ]
    ring

theorem maxPosition_eq : maxPosition = 2 ^ 32 - 1 := by
  norm_num [maxPosition]

theorem number_eq_position (digits : List Char) : number digits = position digits := by
  rw [number, position, foldl_digits, Nat.mul_zero, Nat.zero_add, maxPosition_eq]
  by_cases ascii : digits.all Char.isDigit = true
  · by_cases small : decimal digits < 2 ^ 32
    · rw [if_pos ascii, if_pos ⟨ascii, small⟩]
      exact Nat.min_eq_left (Nat.le_of_lt_succ small)
    · rw [if_pos ascii, if_neg fun both => small both.2]
      exact Nat.min_eq_right (Nat.le_trans (Nat.sub_le (2 ^ 32) 1) (Nat.le_of_not_lt small))
  · rw [if_neg ascii, if_neg fun both => ascii both.1]

theorem isLastPart_lastPart (text : List Char) : IsLastPart text (lastPart text) := by
  have back := List.takeWhile_append_dropWhile (p := (· != '\n')) (l := text.reverse)
  have split : text = (text.reverse.dropWhile (· != '\n')).reverse ++ lastPart text := by
    have reversed := congrArg List.reverse back
    rw [List.reverse_append, List.reverse_reverse] at reversed
    exact reversed.symm
  refine ⟨?_, ?_⟩
  · intro membership
    have unlike := List.mem_takeWhile_imp (List.mem_reverse.mp membership)
    simp at unlike
  · cases rest : text.reverse.dropWhile (· != '\n') with
    | nil =>
      rw [rest] at split
      exact .inl split
    | cons c front =>
      have feed : c = '\n' := by
        have none := List.head?_dropWhile_not (· != '\n') text.reverse
        rw [rest] at none
        simpa using none
      rw [rest, List.reverse_cons, feed, List.append_assoc] at split
      exact .inr ⟨front.reverse, split⟩

/-! ### Whole lines -/

theorem Head.span_eq (head : Head) :
    head.span =
      { startLine := position head.line - 1
        startColumn := position head.column
        endLine := position head.line - 1
        endColumn :=
          match head.endColumn with
          | some digits => position digits
          | none => min (position head.column + 1) (2 ^ 32 - 1) } := by
  cases last : head.endColumn <;>
    simp only [Head.span, last, number_eq_position, maxPosition_eq]

theorem describes_iff (head : Head) (after : List Char) (found : Diagnostic) :
    Describes head after found ↔
      found = ⟨head.severity, head.span, String.ofList (trim after)⟩ := by
  constructor
  · rintro ⟨severity, startLine, endLine, startColumn, endColumn, message⟩
    obtain ⟨foundSeverity, ⟨startLine', startColumn', endLine', endColumn'⟩, text⟩ := found
    have same : text = String.ofList (trim after) := by
      rw [← message.eq_trim, String.ofList_toList]
    dsimp only at severity startLine endLine startColumn endColumn
    rw [severity, endLine, startLine, startColumn, endColumn, same, Head.span_eq]
  · rintro rfl
    refine ⟨rfl, ?_, rfl, ?_, ?_, ?_⟩
    · rw [Head.span_eq]
    · rw [Head.span_eq]
    · rw [Head.span_eq]
    · rw [String.toList_ofList]
      exact isTrimmed_trim after

/-- A line holds a diagnostic exactly if a head stands in the part after its last line feed, and the
leftmost head of that part and the text after it say which. -/
theorem line_recognised_exactly (line : List Char) :
    ∃ part, IsLastPart line part ∧
      ((ofLine? line).isSome = true ↔ ∃ before head after, Occurs part before head after) ∧
      ∀ found, ofLine? line = some found ↔
        ∃ before head after, Leftmost part before head after ∧ Describes head after found := by
  refine ⟨lastPart line, isLastPart_lastPart line, ?_, ?_⟩
  · rw [ofLine?, Option.isSome_map, ← not_iff_not, Bool.not_eq_true, Option.isSome_eq_false_iff,
      Option.isNone_iff_eq_none, findHead?_eq_none_iff]
    push Not
    rfl
  · intro found
    rw [ofLine?, Option.map_eq_some_iff]
    constructor
    · rintro ⟨⟨head, after⟩, search, rfl⟩
      obtain ⟨before, leftmost⟩ := leftmost_of_findHead? search
      exact ⟨before, head, after, leftmost, (describes_iff ..).mpr rfl⟩
    · rintro ⟨before, head, after, leftmost, describes⟩
      exact ⟨(head, after), findHead?_eq_some_iff.mpr ⟨before, leftmost⟩,
        ((describes_iff ..).mp describes).symm⟩

/-- Of two numbers too many before a head, only the nearest two belong to it. -/
example : ofLine? "a:7\nb.vt:1:02:3:4-5: warning:  x ".toList =
    some ⟨.warning, ⟨2, 4, 2, 5⟩, "x"⟩ := by decide +kernel

end LanguageServer.Diagnostic
