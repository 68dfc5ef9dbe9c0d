import Mathlib.Data.List.TakeWhile
import LanguageServer.Proofs.Json.Grammar
import LanguageServer.Proofs.Json.Reading

/-! What readers take from a text is written in the grammar: words, strings and numbers, and values
that are skipped. -/

namespace LanguageServer.Json

open Reader

/-! ### Steps of a reader, backwards -/

theorem bind_eq_ok {reader : Reader α} {next : α → Reader β} {text rest : List Char} {value : β}
    (read : (reader >>= next) text = .ok (value, rest)) :
    ∃ first between, reader text = .ok (first, between) ∧ next first between = .ok (value, rest) := by
  cases done : reader text with
  | error fault =>
    change (StateT.bind reader next) text = _ at read
    simp only [StateT.bind, done] at read
    cases read
  | ok result =>
    obtain ⟨first, between⟩ := result
    rw [bind_ok done] at read
    exact ⟨first, between, rfl, read⟩

theorem map_eq_ok {reader : Reader α} {change : α → β} {text rest : List Char} {value : β}
    (read : (change <$> reader) text = .ok (value, rest)) :
    ∃ first, reader text = .ok (first, rest) ∧ change first = value := by
  cases done : reader text with
  | error fault =>
    change (StateT.map change reader) text = _ at read
    simp only [StateT.map, done] at read
    cases read
  | ok result =>
    obtain ⟨first, between⟩ := result
    rw [map_ok done] at read
    cases read
    exact ⟨first, rfl, rfl⟩

theorem pure_eq_ok {text rest : List Char} {value result : α}
    (read : (pure value : Reader α) text = .ok (result, rest)) : value = result ∧ text = rest := by
  cases read
  exact ⟨rfl, rfl⟩

theorem fail_ne_ok {fault : Fault} {text : List Char} {result : α × List Char} :
    (fail fault : Reader α) text ≠ .ok result := by
  intro read
  cases read

theorem isSpacing_takeWhile (text : List Char) : IsSpacing (text.takeWhile isSpace) := by
  intro c member
  have spaces := List.mem_takeWhile_imp member
  simpa [isSpace, or_assoc] using spaces

/-- What a reader does at the first character of a token, or at the end of the text. What it goes on
with is a reader of its own, so that a match on the character can be split. -/
theorem token_cases {next : Option Char → Reader α} {text rest : List Char} {value : α}
    (read : (peekToken >>= next) text = .ok (value, rest)) :
    (Spaced text [] ∧ next none [] = .ok (value, rest)) ∨
      ∃ c tail reader, Spaced text (c :: tail) ∧ next (some c) = reader ∧
        reader (c :: tail) = .ok (value, rest) := by
  have spaced : Spaced text (text.dropWhile isSpace) :=
    ⟨text.takeWhile isSpace, isSpacing_takeWhile text, List.takeWhile_append_dropWhile.symm⟩
  have further : next (text.dropWhile isSpace).head? (text.dropWhile isSpace) = .ok (value, rest) :=
    read
  cases start : text.dropWhile isSpace with
  | nil =>
    rw [start] at spaced further
    exact .inl ⟨spaced, further⟩
  | cons c tail =>
    rw [start] at spaced further
    exact .inr ⟨c, tail, next (some c), spaced, rfl, further⟩

/-- A reader that fails at the end of the text finds a token. -/
theorem token_some {next : Option Char → Reader α} {fault : Fault} (ends : next none = fail fault)
    {text rest : List Char} {value : α} (read : (peekToken >>= next) text = .ok (value, rest)) :
    ∃ c tail reader, Spaced text (c :: tail) ∧ next (some c) = reader ∧
      reader (c :: tail) = .ok (value, rest) := by
  obtain ⟨-, ended⟩ | found := token_cases read
  · rw [ends] at ended
    exact absurd ended fail_ne_ok
  · exact found

/-- What a reader does at the next character, or at the end of the text. -/
theorem peek_cases {next : Option Char → Reader α} {text rest : List Char} {value : α}
    (read : (peek >>= next) text = .ok (value, rest)) :
    (text = [] ∧ next none [] = .ok (value, rest)) ∨
      ∃ c tail reader, text = c :: tail ∧ next (some c) = reader ∧
        reader (c :: tail) = .ok (value, rest) := by
  cases text with
  | nil => exact .inl ⟨rfl, read⟩
  | cons c tail => exact .inr ⟨c, tail, next (some c), rfl, rfl, read⟩

theorem advance_bind {next : Unit → Reader α} (c : Char) (tail : List Char) :
    (advance >>= next) (c :: tail) = next () tail := rfl

theorem restOfWord_eq_ok {letters text rest : List Char} {value : Unit}
    (read : restOfWord letters text = .ok (value, rest)) : text = letters ++ rest := by
  induction letters generalizing text with
  | nil => exact (pure_eq_ok read).2
  | cons letter letters ih =>
    obtain ⟨first, between, taken, further⟩ := bind_eq_ok read
    cases taken
    cases text with
    | nil => exact absurd further fail_ne_ok
    | cons c tail =>
      dsimp only [List.head?_cons, List.tail_cons] at further
      split at further
      · rename_i same
        rw [same, ih further, List.cons_append]
      · exact absurd further fail_ne_ok

theorem word_eq_ok {c : Char} {letters tail rest : List Char} {made value : α}
    (read : (advance >>= fun _ => restOfWord letters >>= fun _ => pure made : Reader α) (c :: tail) =
      .ok (value, rest)) : tail = letters ++ rest ∧ made = value := by
  obtain ⟨_, between, lettersRead, finished⟩ := bind_eq_ok (advance_bind c tail ▸ read)
  obtain ⟨same, rfl⟩ := pure_eq_ok finished
  exact ⟨restOfWord_eq_ok lettersRead, same⟩

/-! ### Strings -/

theorem hexDigit?_bounds {c : Char} {value : Nat} (digit : hexDigit? c = some value) :
    c.toNat < 128 ∧ value < 16 := by
  simp only [hexDigit?, Char.isDigit, Char.le_def, ge_iff_le, Bool.and_eq_true, decide_eq_true_eq,
    UInt32.le_iff_toNat_le, Char.toNat_val] at digit
  split at digit
  · obtain rfl := Option.some.inj digit
    simp only [Char.reduceToNat] at *
    omega
  · split at digit
    · obtain rfl := Option.some.inj digit
      simp only [Char.reduceToNat] at *
      omega
    · split at digit
      · obtain rfl := Option.some.inj digit
        simp only [Char.reduceToNat] at *
        omega
      · cases digit

theorem isHexDigit_of_hexDigit? {c : Char} {value : Nat} (digit : hexDigit? c = some value) :
    IsHexDigit c value := by
  have all : ∀ code < 128, ∀ value < 16, hexDigit? (Char.ofNat code) = some value →
      Char.ofNat code = Nat.digitChar value ∨ Char.ofNat code = (Nat.digitChar value).toUpper := by
    decide +kernel
  obtain ⟨ascii, small⟩ := hexDigit?_bounds digit
  have spelled := all c.toNat ascii value small
  rw [Char.ofNat_toNat] at spelled
  exact ⟨small, spelled digit⟩

theorem isUnit_of_unit? {a b c d : Char} {value : Nat} (unit : unit? a b c d = some value) :
    IsUnit [a, b, c, d] value := by
  simp only [unit?, Option.bind_eq_bind, Option.bind_eq_some_iff, Option.pure_def,
    Option.some.injEq] at unit
  obtain ⟨first, one, second, two, third, three, fourth, four, sum⟩ := unit
  exact .digits (isHexDigit_of_hexDigit? one) (isHexDigit_of_hexDigit? two)
    (isHexDigit_of_hexDigit? three) (isHexDigit_of_hexDigit? four) (by omega)

theorem IsUnit.lt {digits : List Char} {value : Nat} (unit : IsUnit digits value) :
    value < 0x10000 := by
  cases unit with
  | digits one two three four sum =>
    have := one.1
    have := two.1
    have := three.1
    have := four.1
    omega

theorem known_of_escape? {letter c : Char} (known : escape? letter = some c) :
    (letter, c) ∈ letterEscapes := by
  unfold escape? at known
  split at known
  all_goals
    first
      | obtain rfl := Option.some.inj known
        decide
      | cases known

theorem toNat_ofNat {code : Nat} (valid : code < 0xD800 ∨ 0xDFFF < code ∧ code < 0x110000) :
    (Char.ofNat code).toNat = code := by
  rw [Char.ofNat, dif_pos (show code.isValidChar from valid)]
  rfl

/-- A text goes on with the characters of a string and its closing quote; some have been read. -/
def StringEnds (done text rest : List Char) (value : String) : Prop :=
  ∃ chars word, text = word ++ '"' :: rest ∧ SpellsChars chars word ∧
    value = String.ofList (done.reverse ++ chars)

theorem StringEnds.cons {done text rest letters : List Char} {value : String} {c : Char}
    (spelled : SpellsChar c letters) (further : StringEnds (c :: done) text rest value) :
    StringEnds done (letters ++ text) rest value := by
  obtain ⟨chars, word, rfl, spelledRest, rfl⟩ := further
  refine ⟨c :: chars, letters ++ word, (List.append_assoc ..).symm, .cons spelled spelledRest, ?_⟩
  simp

/-- What is read as a string spells its characters, up to the closing quote. -/
theorem restOfString_eq_ok {done text rest : List Char} {value : String}
    (read : restOfString done text = .ok (value, rest)) : StringEnds done text rest value := by
  fun_induction restOfString done text with
  | case2 done more =>
    cases read
    exact ⟨[], [], rfl, .nil, by simp⟩
  | case8 done a b c d leading one _ leads e f g h more trailing two trails ih =>
    have first := isUnit_of_unit? one
    have second := isUnit_of_unit? two
    simp only [isLeading, isTrailing, Bool.and_eq_true, decide_eq_true_eq] at leads trails
    have value : (pairChar leading trailing).toNat =
        0x10000 + (leading - 0xD800) * 0x400 + (trailing - 0xDC00) := toNat_ofNat (by omega)
    exact .cons (.pair first second leads trails value) (ih read)
  | case12 done a b c d more unit one notTrailing notLeading ih =>
    have first := isUnit_of_unit? one
    have small := first.lt
    simp only [isLeading, isTrailing, Bool.and_eq_true, decide_eq_true_eq] at notTrailing notLeading
    have value : (Char.ofNat unit).toNat = unit := toNat_ofNat (by omega)
    rw [← value] at first
    exact .cons (.unit first) (ih read)
  | case16 done letter more _ _ c known ih =>
    exact .cons (.letter (known_of_escape? known)) (ih read)
  | case18 done c more quote _ _ last other printable ih =>
    have backslash : c ≠ '\\' := by
      intro same
      cases more with
      | nil => exact last same rfl
      | cons letter more => exact other letter more same rfl
    exact .cons (.plain (Nat.le_of_not_lt printable) quote backslash) (ih read)
  | _ => cases read

theorem stringTail_eq_ok {text rest : List Char} {value : String}
    (read : stringTail text = .ok (value, rest)) :
    ∃ word, text = word ++ '"' :: rest ∧ SpellsChars value.toList word := by
  obtain ⟨chars, word, split, spelled, rfl⟩ := restOfString_eq_ok read
  refine ⟨word, split, ?_⟩
  simpa using spelled

theorem SpellsChar.isCharacters {c : Char} {letters rest : List Char} (spelled : SpellsChar c letters)
    (further : IsCharacters rest) : IsCharacters (letters ++ rest) := by
  cases spelled with
  | plain printable quote backslash => exact .plain printable quote backslash further
  | letter known => exact .letter known further
  | unit value => exact .unit value further
  | pair first second _ _ _ =>
    rw [List.append_assoc]
    exact .unit first (.unit second further)

/-- Characters are spelled with what can stand between quotes. -/
theorem SpellsChars.isCharacters {chars word : List Char} (spelled : SpellsChars chars word) :
    IsCharacters word := by
  induction spelled with
  | nil => exact .nil
  | cons first further ih => exact first.isCharacters ih

/-- A word spells one string at most. -/
theorem SpellsChars.unique {chars others word : List Char} (spelled : SpellsChars chars word)
    (again : SpellsChars others word) : chars = others := by
  have first := restOfString_chars spelled [] []
  rw [restOfString_chars again [] []] at first
  have same := congrArg String.toList (Prod.mk.inj (Except.ok.inj first)).1
  simpa using same.symm

theorem skipString_eq_ok {text rest : List Char} {value : Unit}
    (read : skipString text = .ok (value, rest)) :
    ∃ word, text = word ++ '"' :: rest ∧ IsCharacters word := by
  unfold skipString at read
  fun_induction skipRestOfString text with
  | case2 more =>
    cases read
    exact ⟨[], rfl, .nil⟩
  | case4 a b c d more unit one ih =>
    obtain ⟨word, rfl, chars⟩ := ih read
    exact ⟨'\\' :: 'u' :: [a, b, c, d] ++ word, rfl, .unit (isUnit_of_unit? one) chars⟩
  | case8 letter more _ _ c known ih =>
    obtain ⟨word, rfl, chars⟩ := ih read
    exact ⟨'\\' :: letter :: word, rfl, .letter (known_of_escape? known) chars⟩
  | case10 c more quote _ _ last other printable ih =>
    obtain ⟨word, rfl, chars⟩ := ih read
    have backslash : c ≠ '\\' := by
      intro same
      cases word with
      | nil => exact other '"' rest same rfl
      | cons letter word => exact other letter (word ++ '"' :: rest) same rfl
    exact ⟨c :: word, rfl, .plain (Nat.le_of_not_lt printable) quote backslash chars⟩
  | _ => cases read

/-! ### Numbers -/

theorem span_eq_ok {kind : Char → Bool} {text taken rest : List Char}
    (read : span kind text = .ok (taken, rest)) :
    text = taken ++ rest ∧ ∀ c ∈ taken, kind c = true := by
  cases read
  exact ⟨List.takeWhile_append_dropWhile.symm, fun c member => List.mem_takeWhile_imp member⟩

/-- The digits before the point, of which the first has been read. -/
theorem wholeDigits_eq_ok {next : List Char → Reader α} {first : Char} {text rest : List Char}
    {value : α} (digit : first.isDigit = true)
    (read : (if first = '0' then pure [] >>= next else span Char.isDigit >>= next : Reader α) text =
      .ok (value, rest)) :
    ∃ more left, text = more ++ left ∧ IsWhole (first :: more) ∧ next more left = .ok (value, rest) := by
  by_cases zero : first = '0'
  · rw [if_pos zero] at read
    exact ⟨[], text, rfl, zero ▸ .zero, read⟩
  · rw [if_neg zero] at read
    obtain ⟨more, left, spanned, further⟩ := bind_eq_ok read
    obtain ⟨rfl, areDigits⟩ := span_eq_ok spanned
    exact ⟨more, left, rfl, .more digit zero areDigits, further⟩

/-- A reader that gives no value of a shape. -/
def Avoids (shape : β → α) (reader : Reader α) : Prop :=
  ∀ text item rest, reader text ≠ .ok (shape item, rest)

theorem avoids_fail (shape : β → α) (fault : Fault) : Avoids shape (fail fault) :=
  fun _ _ _ => fail_ne_ok

theorem avoids_bind {shape : β → α} {reader : Reader γ} {next : γ → Reader α}
    (each : ∀ value, Avoids shape (next value)) : Avoids shape (reader >>= next) := by
  intro text item rest read
  obtain ⟨first, between, -, further⟩ := bind_eq_ok read
  exact each first between item rest further

theorem avoids_double (negative : Bool) (significand : Nat) (scale : Int) :
    Avoids Number.integer (double negative significand scale) := by
  generalize made : double negative significand scale = reader
  unfold double at made
  split at made
  · subst made
    exact avoids_fail _ _
  · subst made
    intro text value rest read
    cases read

theorem avoids_exponentTail (negative : Bool) (significand : Nat) (scale : Int) :
    Avoids Number.integer (exponentTail negative significand scale) := by
  refine avoids_bind fun downwards => avoids_bind fun next => ?_
  cases next with
  | none => exact avoids_fail _ _
  | some first =>
    dsimp only
    split
    · refine avoids_bind fun digits => ?_
      split
      · exact avoids_double _ _ _
      · split
        · exact avoids_fail _ _
        · exact avoids_double _ _ _
    · exact avoids_fail _ _

theorem avoids_exponent (negative : Bool) (significand : Nat) (scale : Int) :
    Avoids Number.integer (Reader.exponent negative significand scale) := by
  refine avoids_bind fun next => ?_
  split
  · exact avoids_bind fun _ => avoids_exponentTail _ _ _
  · exact avoids_bind fun _ => avoids_exponentTail _ _ _
  · exact avoids_double _ _ _

theorem avoids_fractionTail (negative : Bool) (significand : Nat) (scale : Int) :
    Avoids Number.integer (fractionTail negative significand scale) := by
  refine avoids_bind fun digits => ?_
  split
  · refine avoids_bind fun next => ?_
    split
    · exact avoids_fail _ _
    · exact avoids_fail _ _
  · exact avoids_exponent _ _ _

/-- What is read as an integer has digits only, and none is left over. -/
theorem number_integer {negative : Bool} {text rest : List Char} {value : Int}
    (read : Reader.number negative text = .ok (.integer value, rest)) :
    ∃ digits magnitude, text = digits ++ rest ∧ IsWhole digits ∧ absorb 0 digits = (magnitude, []) ∧
      whole negative magnitude = .integer value := by
  obtain ⟨first, tail, taken, further⟩ := bind_eq_ok read
  cases taken
  cases text with
  | nil => exact absurd further fail_ne_ok
  | cons c tail =>
    dsimp only [List.head?_cons, List.tail_cons] at further
    split at further
    · exact absurd further fail_ne_ok
    · rename_i digit
      obtain ⟨more, left, rfl, isWhole, further⟩ :=
        wholeDigits_eq_ok (Classical.not_not.mp digit) further
      generalize absorbed : absorb 0 (c :: more) = parts at further
      obtain ⟨magnitude, surplus⟩ := parts
      have ended : (if surplus.isEmpty = true then pure (whole negative magnitude)
          else double negative magnitude surplus.length : Reader Number) left =
            .ok (.integer value, rest) →
          ∃ digits magnitude, c :: (more ++ left) = digits ++ rest ∧ IsWhole digits ∧
            absorb 0 digits = (magnitude, []) ∧ whole negative magnitude = .integer value := by
        intro last
        split at last
        · rename_i empty
          obtain ⟨same, rfl⟩ := pure_eq_ok last
          rw [List.isEmpty_iff] at empty
          subst empty
          exact ⟨c :: more, magnitude, rfl, isWhole, absorbed, same⟩
        · exact absurd last (avoids_double _ _ _ _ _ _)
      obtain ⟨rfl, last⟩ | ⟨mark, tail, reader, rfl, found, last⟩ := peek_cases further
      · exact ended last
      · split at found
        · subst found
          exact absurd last (avoids_bind (fun _ => avoids_fractionTail _ _ _) _ _ _)
        · subst found
          exact absurd last (avoids_exponent _ _ _ _ _ _)
        · subst found
          exact absurd last (avoids_exponent _ _ _ _ _ _)
        · split at found
          · subst found
            exact absurd last fail_ne_ok
          · exact ended (found ▸ last)
        · rename_i absurdity
          cases absurdity

theorem eq_of_absorb {digits : List Char} {value result : Nat}
    (absorbed : absorb value digits = (result, [])) : Nat.ofDigitChars 10 digits value = result := by
  induction digits generalizing value with
  | nil => exact congrArg Prod.fst absorbed
  | cons digit digits ih =>
    rw [absorb] at absorbed
    split at absorbed
    · rw [Nat.ofDigitChars_cons, Nat.mul_comm]
      exact ih absorbed
    · cases absorbed

theorem lt_of_absorb {digits : List Char} {value result : Nat} (small : value < Nat.pow 2 64)
    (absorbed : absorb value digits = (result, [])) : result < Nat.pow 2 64 := by
  induction digits generalizing value with
  | nil =>
    cases absorbed
    exact small
  | cons digit digits ih =>
    rw [absorb] at absorbed
    split at absorbed
    · rename_i fits
      exact ih fits absorbed
    · cases absorbed

/-- A natural number has no sign; a zero with one is a double. -/
theorem number_natural {negative : Bool} {text rest : List Char} {value : Nat}
    (read : Reader.number negative text = .ok (.integer value, rest)) :
    negative = false ∧ ∃ digits, text = digits ++ rest ∧ IsWhole digits ∧
      Nat.ofDigitChars 10 digits 0 = value ∧ value < Nat.pow 2 64 := by
  obtain ⟨digits, magnitude, rfl, isWhole, absorbed, same⟩ := number_integer read
  unfold whole at same
  cases negative with
  | true =>
    rw [if_pos rfl] at same
    split at same
    · have negated := Number.integer.inj same
      omega
    · cases same
  | false =>
    obtain rfl : magnitude = value := Int.ofNat.inj (Number.integer.inj same)
    exact ⟨rfl, digits, rfl, isWhole, eq_of_absorb absorbed, lt_of_absorb (by decide) absorbed⟩

/-! ### Numbers that are skipped -/

theorem skipDigits_eq_ok {text rest : List Char} {value : Unit}
    (read : skipDigits text = .ok (value, rest)) :
    ∃ c digits, text = c :: (digits ++ rest) ∧ c.isDigit = true ∧ AreDigits digits := by
  obtain ⟨first, tail, taken, further⟩ := bind_eq_ok read
  cases taken
  cases text with
  | nil => exact absurd further fail_ne_ok
  | cons c tail =>
    dsimp only [List.head?_cons, List.tail_cons] at further
    split at further
    · rename_i digit
      obtain ⟨digits, spanned, -⟩ := map_eq_ok further
      obtain ⟨rfl, areDigits⟩ := span_eq_ok spanned
      exact ⟨c, digits, rfl, digit, areDigits⟩
    · exact absurd further fail_ne_ok

theorem exponentSign_eq_ok {text rest : List Char} {value : Bool}
    (read : exponentSign text = .ok (value, rest)) :
    ∃ sign, text = sign ++ rest ∧ (sign = [] ∨ sign = ['+'] ∨ sign = ['-']) := by
  obtain ⟨rfl, further⟩ | ⟨c, tail, reader, rfl, found, further⟩ := peek_cases read
  · exact ⟨[], (pure_eq_ok further).2, .inl rfl⟩
  · split at found
    · rename_i same
      obtain rfl := Option.some.inj same
      subst found
      exact ⟨['+'], congrArg ('+' :: ·) (pure_eq_ok further).2, .inr (.inl rfl)⟩
    · rename_i same
      obtain rfl := Option.some.inj same
      subst found
      exact ⟨['-'], congrArg ('-' :: ·) (pure_eq_ok further).2, .inr (.inr rfl)⟩
    · subst found
      exact ⟨[], (pure_eq_ok further).2, .inl rfl⟩

theorem skipExponent_eq_ok {text rest : List Char} {value : Unit}
    (read : skipExponent text = .ok (value, rest)) :
    ∃ word, text = word ++ rest ∧ IsExponent word := by
  obtain ⟨rfl, further⟩ | ⟨c, tail, reader, rfl, found, further⟩ := peek_cases read
  · exact ⟨[], (pure_eq_ok further).2, .none⟩
  · have marked : (c = 'e' ∨ c = 'E') →
        (discard exponentSign >>= fun _ => skipDigits : Reader Unit) tail = .ok (value, rest) →
        ∃ word, c :: tail = word ++ rest ∧ IsExponent word := by
      intro marks tailRead
      obtain ⟨_, unsigned, signRead, digitsRead⟩ := bind_eq_ok tailRead
      obtain ⟨_, signRead, -⟩ := map_eq_ok signRead
      obtain ⟨sign, rfl, signs⟩ := exponentSign_eq_ok signRead
      obtain ⟨digit, digits, rfl, isDigit, areDigits⟩ := skipDigits_eq_ok digitsRead
      exact ⟨c :: sign ++ digit :: digits, by simp, .mark marks signs isDigit areDigits⟩
    split at found
    · rename_i same
      subst found
      exact marked (.inl (Option.some.inj same)) further
    · rename_i same
      subst found
      exact marked (.inr (Option.some.inj same)) further
    · subst found
      exact ⟨[], (pure_eq_ok further).2, .none⟩

theorem skipFraction_eq_ok {text rest : List Char} {value : Unit}
    (read : skipFraction text = .ok (value, rest)) :
    ∃ fraction exponent, text = fraction ++ (exponent ++ rest) ∧ IsFraction fraction ∧
      IsExponent exponent := by
  have without : skipExponent text = .ok (value, rest) →
      ∃ fraction exponent, text = fraction ++ (exponent ++ rest) ∧ IsFraction fraction ∧
        IsExponent exponent := by
    intro exponentRead
    obtain ⟨exponent, rfl, isExponent⟩ := skipExponent_eq_ok exponentRead
    exact ⟨[], exponent, rfl, .none, isExponent⟩
  obtain ⟨rfl, further⟩ | ⟨c, tail, reader, rfl, found, further⟩ := peek_cases read
  · exact without further
  · split at found
    · rename_i same
      obtain rfl := Option.some.inj same
      subst found
      obtain ⟨_, more, digitsRead, exponentRead⟩ := bind_eq_ok (advance_bind '.' tail ▸ further)
      obtain ⟨digit, digits, rfl, isDigit, areDigits⟩ := skipDigits_eq_ok digitsRead
      obtain ⟨exponent, rfl, isExponent⟩ := skipExponent_eq_ok exponentRead
      exact ⟨'.' :: digit :: digits, exponent, by simp, .point isDigit areDigits, isExponent⟩
    · subst found
      exact without further

theorem skipWhole_eq_ok {text rest : List Char} {value : Unit}
    (read : skipWhole text = .ok (value, rest)) : ∃ word, text = word ++ rest ∧ IsWhole word := by
  obtain ⟨rfl, further⟩ | ⟨c, tail, reader, rfl, found, further⟩ := peek_cases read
  · obtain ⟨c, digits, absurdity, -⟩ := skipDigits_eq_ok further
    cases absurdity
  · split at found
    · rename_i same
      obtain rfl := Option.some.inj same
      subst found
      have zero : tail = rest := by
        obtain ⟨rfl, further⟩ | ⟨d, more, reader, rfl, found, further⟩ :=
          peek_cases (advance_bind '0' tail ▸ further)
        · exact (pure_eq_ok further).2
        · dsimp only at found
          split at found
          · subst found
            exact absurd further fail_ne_ok
          · subst found
            exact (pure_eq_ok further).2
      exact ⟨['0'], congrArg ('0' :: ·) zero, .zero⟩
    · rename_i different
      subst found
      obtain ⟨digit, digits, same, isDigit, areDigits⟩ := skipDigits_eq_ok further
      obtain ⟨rfl, rfl⟩ := List.cons.inj same
      refine ⟨c :: digits, rfl, .more isDigit ?_ areDigits⟩
      rintro rfl
      exact different rfl

theorem skipNumber_eq_ok {text rest : List Char} {value : Unit}
    (read : skipNumber text = .ok (value, rest)) : ∃ word, text = word ++ rest ∧ IsUnsigned word := by
  obtain ⟨_, more, wholeRead, fractionRead⟩ := bind_eq_ok read
  obtain ⟨whole, rfl, isWhole⟩ := skipWhole_eq_ok wholeRead
  obtain ⟨fraction, exponent, rfl, isFraction, isExponent⟩ := skipFraction_eq_ok fractionRead
  exact ⟨whole ++ (fraction ++ exponent), by simp, .parts isWhole isFraction isExponent⟩

end LanguageServer.Json
