import LanguageServer.Proofs.Json.Skipping

/-! Every value of the grammar can be skipped, up to where it ends. So a text has one tree at most:
where a value ends does not depend on how it is taken apart. -/

namespace LanguageServer.Json

open Reader

/-! ### Where values begin and end -/

theorem Spaced.ends {text rest : List Char} (spaced : Spaced text rest) (ends : Ends rest) :
    Ends text := by
  obtain ⟨gap, spacing, rfl⟩ := spaced
  exact ends_of_spacing spacing ends

theorem ends_nil : Ends [] := by
  rintro c ⟨⟩

theorem Separated.ends {text rest : List Char} (separated : Separated false text rest) :
    Ends text := by
  obtain ⟨after, spaced, -⟩ := separated
  exact spaced.ends (ends_comma after)

theorem WrittenItems.ends {items : List Tree} {text after rest : List Char}
    (listed : WrittenItems false items text after) (gap : Spaced after (']' :: rest)) :
    Ends text := by
  cases listed with
  | nil => exact gap.ends (ends_bracket rest)
  | cons separated _ _ => exact separated.ends

theorem WrittenMembers.ends {members : List (List Char × Tree)} {text after rest : List Char}
    (listed : WrittenMembers false members text after) (gap : Spaced after ('\x7d' :: rest)) :
    Ends text := by
  cases listed with
  | nil => exact gap.ends (ends_brace rest)
  | cons separated _ _ _ _ => exact separated.ends

theorem IsWhole.first {word : List Char} (isWhole : IsWhole word) :
    ∃ c more, word = c :: more ∧ (∀ d ∈ c :: more, d.isDigit = true) ∧ (c = '0' → more = []) := by
  cases isWhole with
  | zero => exact ⟨'0', [], rfl, List.forall_mem_singleton.mpr rfl, fun _ => rfl⟩
  | @more c digits digit leading further =>
    exact ⟨c, digits, rfl, List.forall_mem_cons.mpr ⟨digit, further⟩, fun zero => absurd zero leading⟩

theorem IsUnsigned.first {word : List Char} (unsigned : IsUnsigned word) :
    ∃ c more, word = c :: more ∧ c.isDigit = true := by
  cases unsigned with
  | parts first second third =>
    obtain ⟨c, more, rfl, areDigits, -⟩ := first.first
    exact ⟨c, _, rfl, areDigits c List.mem_cons_self⟩

/-- The first character of a value shows that it is one, and whether it is `null`. -/
theorem Written.first {tree : Tree} {start rest : List Char} (written : Written tree start rest) :
    ∃ c tail, start = c :: tail ∧ isSpace c = false ∧ c ≠ ']' ∧ c ≠ ',' ∧
      (c = 'n' → tree = .null) := by
  cases written with
  | null => exact ⟨_, _, rfl, rfl, by decide, by decide, fun _ => rfl⟩
  | yes => exact ⟨_, _, rfl, rfl, by decide, by decide, fun same => absurd same (by decide)⟩
  | no => exact ⟨_, _, rfl, rfl, by decide, by decide, fun same => absurd same (by decide)⟩
  | number numeral =>
    cases numeral with
    | negative unsigned =>
      exact ⟨_, _, rfl, rfl, by decide, by decide, fun same => absurd same (by decide)⟩
    | positive unsigned =>
      obtain ⟨c, more, rfl, digit⟩ := unsigned.first
      have other : ∀ {d : Char}, d.isDigit = false → c ≠ d := by
        rintro d notDigit rfl
        rw [digit] at notDigit
        cases notDigit
      exact ⟨c, _, rfl, isSpace_of_isDigit digit, other rfl, other rfl,
        fun same => absurd same (other rfl)⟩
  | string chars => exact ⟨_, _, rfl, rfl, by decide, by decide, fun same => absurd same (by decide)⟩
  | array listed gap =>
    exact ⟨_, _, rfl, rfl, by decide, by decide, fun same => absurd same (by decide)⟩
  | object listed gap =>
    exact ⟨_, _, rfl, rfl, by decide, by decide, fun same => absurd same (by decide)⟩

/-! ### Steps of a reader, forwards -/

/-- What a reader does at the next character is a reader of its own, so that a match on the character
can be split. -/
theorem peek_head {next : Option Char → Reader α} {text : List Char} (reader : Reader α)
    (found : next text.head? = reader) : (peek >>= next) text = reader text := by
  subst found
  rfl

theorem token_head {next : Option Char → Reader α} {reader : Reader α} {text tail : List Char}
    {c : Char} (spaced : Spaced text (c :: tail)) (token : isSpace c = false)
    (found : next (some c) = reader) : (peekToken >>= next) text = reader (c :: tail) := by
  obtain ⟨gap, spacing, rfl⟩ := spaced
  subst found
  exact bind_ok (peekToken_token spacing token)

theorem colon_written {text rest : List Char} (spaced : Spaced text (':' :: rest)) :
    colon text = .ok ((), rest) :=
  token_head spaced rfl rfl

/-! ### Strings and numbers that are skipped -/

theorem skipString_characters {word : List Char} (chars : IsCharacters word) (rest : List Char) :
    skipString (word ++ '"' :: rest) = .ok ((), rest) := by
  unfold skipString
  induction chars with
  | nil => rw [List.nil_append, skipRestOfString]
  | plain printable quote backslash further ih =>
    rw [List.cons_append, skipRestOfString]
    · rw [if_neg (Nat.not_lt_of_le printable), ih]
    all_goals simp_all
  | @letter letter c word known further ih =>
    have all : ∀ entry ∈ letterEscapes, escape? entry.1 = some entry.2 ∧ entry.1 ≠ 'u' := by decide
    obtain ⟨escaped, notUnit⟩ := all _ known
    rw [List.cons_append, List.cons_append, skipRestOfString]
    · rw [escaped, ih]
    all_goals simp_all
  | unit unit further ih =>
    cases unit with
    | digits one two three four sum =>
      rw [List.append_assoc]
      change skipRestOfString ('\\' :: 'u' :: _ :: _ :: _ :: _ :: _) = _
      rw [skipRestOfString, unit?_of_isUnit (.digits one two three four sum)]
      exact ih

/-- What follows does not go on with digits. -/
def Stops (rest : List Char) : Prop :=
  ∀ c, rest.head? = some c → c.isDigit = false

theorem Ends.stops {rest : List Char} (ends : Ends rest) : Stops rest :=
  fun _ first => (ends.first first).1

theorem IsExponent.stops {word rest : List Char} (exponent : IsExponent word) (ends : Ends rest) :
    Stops (word ++ rest) := by
  cases exponent with
  | none => exact ends.stops
  | mark marks signs digit further =>
    rintro c ⟨⟩
    rcases marks with rfl | rfl <;> rfl

theorem IsFraction.stops {word rest : List Char} (fraction : IsFraction word) (stops : Stops rest) :
    Stops (word ++ rest) := by
  cases fraction with
  | none => exact stops
  | point digit further =>
    rintro c ⟨⟩
    rfl

theorem skipDigits_append {c : Char} {digits rest : List Char} (digit : c.isDigit = true)
    (further : AreDigits digits) (stops : Stops rest) :
    skipDigits (c :: digits ++ rest) = .ok ((), rest) := by
  rw [skipDigits, List.cons_append, bind_ok (show next (c :: (digits ++ rest)) =
    .ok (some c, digits ++ rest) from rfl)]
  simp only [digit, if_true]
  exact map_ok (span_digits further stops)

theorem exponentSign_append {sign rest : List Char} {c : Char}
    (signs : sign = [] ∨ sign = ['+'] ∨ sign = ['-']) (digit : c.isDigit = true) :
    ∃ downwards, exponentSign (sign ++ c :: rest) = .ok (downwards, c :: rest) := by
  rcases signs with rfl | rfl | rfl
  · refine ⟨false, peek_head (pure false) ?_⟩
    rw [List.nil_append, List.head?_cons]
    split
    · rename_i same
      obtain rfl := Option.some.inj same
      cases digit
    · rename_i same
      obtain rfl := Option.some.inj same
      cases digit
    · rfl
  · exact ⟨false, rfl⟩
  · exact ⟨true, rfl⟩

theorem skipExponent_append {word rest : List Char} (exponent : IsExponent word) (ends : Ends rest) :
    skipExponent (word ++ rest) = .ok ((), rest) := by
  cases exponent with
  | none =>
    refine peek_head (pure ()) ?_
    rw [List.nil_append]
    split
    · rename_i mark
      exact absurd rfl (ends.first mark).2.2.1
    · rename_i mark
      exact absurd rfl (ends.first mark).2.2.2
    · rfl
  | @mark mark sign c digits marks signs digit further =>
    have tail : (discard exponentSign >>= fun _ => skipDigits) (sign ++ (c :: digits ++ rest)) =
        .ok ((), rest) := by
      obtain ⟨downwards, signRead⟩ := exponentSign_append signs digit
      have discarded : (discard exponentSign : Reader Unit) (sign ++ (c :: digits ++ rest)) =
          .ok ((), c :: digits ++ rest) := map_ok signRead
      rw [bind_ok discarded]
      exact skipDigits_append digit further ends.stops
    rw [List.append_assoc]
    rcases marks with rfl | rfl
    · exact tail
    · exact tail

theorem skipFraction_append {fraction exponent rest : List Char} (isFraction : IsFraction fraction)
    (isExponent : IsExponent exponent) (ends : Ends rest) :
    skipFraction (fraction ++ (exponent ++ rest)) = .ok ((), rest) := by
  have exponentRead := skipExponent_append isExponent ends
  cases isFraction with
  | none =>
    refine (peek_head skipExponent ?_).trans exponentRead
    split
    · rename_i point
      exfalso
      cases isExponent with
      | none => exact (ends.first point).2.1 rfl
      | mark marks _ _ _ =>
        obtain ⟨⟩ := point
        rcases marks with absurdity | absurdity <;> cases absurdity
    · rfl
  | @point c digits digit further =>
    change (skipDigits >>= fun _ => skipExponent) (c :: digits ++ (exponent ++ rest)) = _
    rw [bind_ok (skipDigits_append digit further (isExponent.stops ends))]
    exact exponentRead

theorem skipWhole_append {word rest : List Char} (isWhole : IsWhole word) (stops : Stops rest) :
    skipWhole (word ++ rest) = .ok ((), rest) := by
  cases isWhole with
  | zero =>
    cases rest with
    | nil => rfl
    | cons c tail =>
      have notDigit : ¬c.isDigit = true := Bool.eq_false_iff.mp (stops c rfl)
      change (if c.isDigit = true then fail .invalidNumber else pure () : Reader Unit) (c :: tail) = _
      rw [if_neg notDigit]
      rfl
  | @more c digits digit leading further =>
    refine (peek_head skipDigits ?_).trans (skipDigits_append digit further stops)
    rw [List.cons_append, List.head?_cons]
    split
    · rename_i same
      exact absurd (Option.some.inj same) leading
    · rfl

theorem skipNumber_unsigned {word rest : List Char} (unsigned : IsUnsigned word) (ends : Ends rest) :
    skipNumber (word ++ rest) = .ok ((), rest) := by
  cases unsigned with
  | parts isWhole isFraction isExponent =>
    rw [List.append_assoc, List.append_assoc, skipNumber,
      bind_ok (skipWhole_append isWhole (isFraction.stops (isExponent.stops ends)))]
    exact skipFraction_append isFraction isExponent ends

/-! ### Values that are skipped -/

/-- The turns of a loop. Each of them but the last takes some of the text. -/
inductive Loops (step : σ → Reader (Option σ)) : σ → List Char → σ → List Char → Prop
  | stop {state : σ} {text rest : List Char} (stops : step state text = .ok (none, rest)) :
      Loops step state text state rest
  | next {state later result : σ} {text between rest : List Char}
      (goes : step state text = .ok (some later, between)) (shorter : between.length < text.length)
      (further : Loops step later between result rest) : Loops step state text result rest

theorem Loops.iterateFor {step : σ → Reader (Option σ)} {state result : σ} {text rest : List Char}
    (loops : Loops step state text result rest) {count : Nat} (enough : text.length < count) :
    Reader.iterateFor step count state text = .ok (result, rest) := by
  induction loops generalizing count with
  | stop stops =>
    obtain ⟨count, rfl⟩ : ∃ more, count = more + 1 := Nat.exists_eq_succ_of_ne_zero (by omega)
    exact iterateFor_done stops count
  | next goes shorter further ih =>
    obtain ⟨count, rfl⟩ : ∃ more, count = more + 1 := Nat.exists_eq_succ_of_ne_zero (by omega)
    rw [iterateFor_more goes]
    exact ih (by omega)

theorem Loops.iterate {step : σ → Reader (Option σ)} {state result : σ} {text rest : List Char}
    (loops : Loops step state text result rest) :
    Reader.iterate step state text = .ok (result, rest) :=
  loops.iterateFor (Nat.lt_succ_self _)

theorem skipStart_spaced {text tail : List Char} {c : Char} (spaced : Spaced text (c :: tail))
    (token : isSpace c = false) (around : List Enclosing) :
    skipStart around text = skipStart around (c :: tail) := by
  unfold skipStart
  rw [token_head spaced token rfl, token_head (.refl _) token rfl]

theorem skipKey_spaced {text tail : List Char} {c : Char} (spaced : Spaced text (c :: tail))
    (token : isSpace c = false) : skipKey text = skipKey (c :: tail) := by
  unfold skipKey
  rw [token_head spaced token rfl, token_head (.refl _) token rfl]

theorem skipKey_written {key afterKey rest : List Char} (chars : IsCharacters key)
    (toColon : Spaced afterKey (':' :: rest)) :
    skipKey ('"' :: key ++ '"' :: afterKey) = .ok ((), rest) := by
  change (skipString >>= fun _ => colon) (key ++ '"' :: afterKey) = _
  rw [bind_ok (skipString_characters chars afterKey)]
  exact colon_written toColon

theorem bind_same {reader : Reader α} {next : α → Reader β} {text other : List Char}
    (same : reader text = reader other) : (reader >>= next) text = (reader >>= next) other := by
  change (StateT.bind reader next) text = (StateT.bind reader next) other
  simp only [StateT.bind, same]

theorem map_same {reader : Reader α} {change : α → β} {text other : List Char}
    (same : reader text = reader other) : (change <$> reader) text = (change <$> reader) other := by
  change (StateT.map change reader) text = (StateT.map change reader) other
  simp only [StateT.map, same]

theorem skipEntry_spaced {text tail : List Char} {c : Char} (spaced : Spaced text (c :: tail))
    (token : isSpace c = false) (inner : Enclosing) (around : List Enclosing) :
    skipEntry inner around text = skipEntry inner around (c :: tail) := by
  cases inner with
  | list => exact skipStart_spaced spaced token _
  | object => exact bind_same (skipKey_spaced spaced token)

/-- Where the skipping stands before an entry of a list or object, which may be the first. -/
def Skip.entry (inner : Enclosing) (around : List Enclosing) : Bool → Skip
  | true => .opened inner around
  | false => .ended (inner :: around)

theorem Skip.step_entry {inner : Enclosing} {around : List Enclosing} {first : Bool}
    {text tail : List Char} {c : Char} (gap : Separated first text (c :: tail))
    (token : isSpace c = false) (other : c ≠ inner.closing) :
    (Skip.entry inner around first).step text = (some <$> skipEntry inner around) (c :: tail) := by
  cases first with
  | true => exact token_head gap token (if_neg other)
  | false =>
    obtain ⟨after, before, behind⟩ := gap
    have comma : (Skip.ended (inner :: around)).step text =
        (do advance; some <$> skipEntry inner around : Reader (Option Skip)) (',' :: after) :=
      token_head before rfl (if_pos rfl)
    exact comma.trans (map_same (skipEntry_spaced behind token inner around))

theorem Skip.step_closing {inner : Enclosing} {around : List Enclosing} {text rest : List Char}
    (gap : Spaced text (inner.closing :: rest)) (first : Bool) :
    (Skip.entry inner around first).step text = .ok (some (.ended around), rest) := by
  have token : isSpace inner.closing = false := by cases inner <;> rfl
  have notComma : inner.closing ≠ ',' := by cases inner <;> decide
  have closes : (Skip.entry inner around first).step text =
      (do advance; return some (.ended around) : Reader (Option Skip)) (inner.closing :: rest) := by
    cases first with
    | true => exact token_head gap token (if_pos rfl)
    | false => exact token_head gap token ((if_neg notComma).trans (if_pos rfl))
  exact closes

theorem skipStart_digit {c : Char} (digit : c.isDigit = true) (around : List Enclosing)
    (tail : List Char) : skipStart around (c :: tail) =
      (do skipNumber; return .ended around : Reader Skip) (c :: tail) := by
  refine token_head (.refl _) (isSpace_of_isDigit digit) ?_
  split
  case h_8 d _ _ _ _ _ _ same =>
    obtain rfl := Option.some.inj same
    have notDash : c ≠ '-' := by
      rintro rfl
      cases digit
    rw [if_neg notDash, if_pos digit]
  all_goals
    rename_i same
    cases same <;> cases digit

mutual

/-- A value is skipped from where it starts, and the skipping goes on where it ends. -/
theorem Written.skips {tree : Tree} {start after : List Char} (written : Written tree start after)
    (ends : Ends after) {around : List Enclosing} {result : Skip} {final : List Char}
    (further : Loops Skip.step (.ended around) after result final) {state : Skip}
    {before : List Char} (starts : state.step before = (some <$> skipStart around) start)
    (shorter : start.length ≤ before.length) : Loops Skip.step state before result final := by
  have less := Written.length_lt written
  -- A value can come after its key, after a bracket or after a comma: whatever the state before it
  -- is, its first step is the start of the value.
  have whole : skipStart around start = .ok (.ended around, after) →
      Loops Skip.step state before result final := fun read =>
    .next (starts.trans (map_ok read)) (by omega) further
  cases written with
  | null => exact whole rfl
  | yes => exact whole rfl
  | no => exact whole rfl
  | number numeral =>
    apply whole
    cases numeral with
    | @negative word unsigned =>
      change (skipNumber >>= fun _ => pure (Skip.ended around)) (word ++ after) = _
      rw [bind_ok (skipNumber_unsigned unsigned ends)]
      rfl
    | positive unsigned =>
      obtain ⟨c, more, rfl, digit⟩ := unsigned.first
      rw [List.cons_append, skipStart_digit digit, ← List.cons_append,
        bind_ok (skipNumber_unsigned unsigned ends)]
      rfl
  | @string word _ chars =>
    apply whole
    change (skipString >>= fun _ => pure (Skip.ended around)) (word ++ '"' :: after) = _
    rw [bind_ok (skipString_characters chars after)]
    rfl
  | @array items text _ _ listed gap =>
    have opened : skipStart around ('[' :: text) = .ok (.entry .list around true, text) := rfl
    exact .next (starts.trans (map_ok opened)) shorter (WrittenItems.skips listed gap further)
  | @object members text _ _ listed gap =>
    have opened : skipStart around ('{' :: text) = .ok (.entry .object around true, text) := rfl
    exact .next (starts.trans (map_ok opened)) shorter (WrittenMembers.skips listed gap further)

theorem WrittenItems.skips {first : Bool} {items : List Tree} {text after rest : List Char}
    (listed : WrittenItems first items text after) (gap : Spaced after (']' :: rest))
    {around : List Enclosing} {result : Skip} {final : List Char}
    (further : Loops Skip.step (.ended around) rest result final) :
    Loops Skip.step (.entry .list around first) text result final := by
  cases listed with
  | nil =>
    have shorter := gap.length_le
    exact .next (Skip.step_closing gap first) shorter further
  | cons separated written listed =>
    have later : Loops Skip.step (.entry .list around false) _ result final :=
      WrittenItems.skips listed gap further
    have shorter := separated.length_le
    obtain ⟨c, tail, rfl, token, other, -⟩ := written.first
    exact Written.skips written (listed.ends gap) later
      (Skip.step_entry separated token other) shorter

theorem WrittenMembers.skips {first : Bool} {members : List (List Char × Tree)}
    {text after rest : List Char} (listed : WrittenMembers first members text after)
    (gap : Spaced after ('\x7d' :: rest)) {around : List Enclosing} {result : Skip}
    {final : List Char} (further : Loops Skip.step (.ended around) rest result final) :
    Loops Skip.step (.entry .object around first) text result final := by
  cases listed with
  | nil =>
    have shorter := gap.length_le
    exact .next (Skip.step_closing gap first) shorter further
  | @cons _ key _ _ _ colon start _ _ separated chars beforeValue written listed =>
    obtain ⟨more, toColon, toValue⟩ := beforeValue
    have later : Loops Skip.step (.entry .object around false) _ result final :=
      WrittenMembers.skips listed gap further
    obtain ⟨c, tail, rfl, token, -⟩ := written.first
    have value : Loops Skip.step (.value (.object :: around)) more result final :=
      Written.skips written (listed.ends gap) later (map_same (skipStart_spaced toValue token _))
        toValue.length_le
    have keyRead : skipEntry .object around ('"' :: key ++ '"' :: colon) =
        .ok (.value (.object :: around), more) :=
      bind_ok (skipKey_written chars toColon)
    have goes := (Skip.step_entry separated rfl (by decide)).trans (map_ok keyRead)
    have before := separated.length_le
    have colonLeft := toColon.length_le
    simp only [List.length_cons, List.length_append] at before colonLeft
    exact .next goes (by omega) value

end

theorem skip_written {tree : Tree} {text start rest : List Char} (spaced : Spaced text start)
    (written : Written tree start rest) (ends : Ends rest) :
    Reader.skip text = .ok ((), rest) := by
  have shorter := spaced.length_le
  obtain ⟨c, tail, rfl, token, -⟩ := written.first
  have loops : Loops Skip.step (.value []) text (.ended []) rest :=
    written.skips ends (.stop rfl) (map_same (skipStart_spaced spaced token [])) shorter
  exact map_ok loops.iterate

/-! ### One tree for a text -/

/-- A text that does not begin with space. -/
def BeginsToken (text : List Char) : Prop :=
  ∃ c tail, text = c :: tail ∧ isSpace c = false

theorem Written.beginsToken {tree : Tree} {start rest : List Char}
    (written : Written tree start rest) : BeginsToken start := by
  obtain ⟨c, tail, same, token, -⟩ := written.first
  exact ⟨c, tail, same, token⟩

theorem Spaced.unique {text start other : List Char} (spaced : Spaced text start)
    (again : Spaced text other) (token : BeginsToken start) (otherToken : BeginsToken other) :
    start = other := by
  obtain ⟨c, tail, rfl, notSpace⟩ := token
  obtain ⟨d, more, rfl, otherNotSpace⟩ := otherToken
  obtain ⟨gap, spacing, rfl⟩ := spaced
  obtain ⟨between, otherSpacing, same⟩ := again
  have first : peekToken (gap ++ c :: tail) = .ok (some c, c :: tail) :=
    peekToken_token spacing notSpace
  rw [same, peekToken_token otherSpacing otherNotSpace] at first
  cases first
  rfl

theorem Separated.unique {first : Bool} {text start other : List Char}
    (separated : Separated first text start) (again : Separated first text other)
    (token : BeginsToken start) (otherToken : BeginsToken other) : start = other := by
  cases first with
  | true => exact Spaced.unique separated again token otherToken
  | false =>
    obtain ⟨after, before, behind⟩ := separated
    obtain ⟨otherAfter, otherBefore, otherBehind⟩ := again
    have comma := before.unique otherBefore ⟨_, _, rfl, rfl⟩ ⟨_, _, rfl, rfl⟩
    cases comma
    exact behind.unique otherBehind token otherToken

theorem Separated.not_closing {first : Bool} {text rest tail : List Char} {c closing : Char}
    (separated : Separated first text (c :: tail)) (gap : Spaced text (closing :: rest))
    (token : isSpace c = false) (closes : closing = ']' ∨ closing = '\x7d') : c = closing := by
  have closingToken : isSpace closing = false := by rcases closes with rfl | rfl <;> rfl
  cases first with
  | true =>
    have same := Spaced.unique separated gap ⟨_, _, rfl, token⟩ ⟨_, _, rfl, closingToken⟩
    exact (List.cons.inj same).1
  | false =>
    obtain ⟨after, before, -⟩ := separated
    have same := before.unique gap ⟨_, _, rfl, rfl⟩ ⟨_, _, rfl, closingToken⟩
    have comma := (List.cons.inj same).1
    subst comma
    rcases closes with absurdity | absurdity <;> exact absurd absurdity (by decide)

theorem IsCharacters.unique {word other rest more : List Char} (chars : IsCharacters word)
    (again : IsCharacters other) (same : word ++ '"' :: rest = other ++ '"' :: more) :
    word = other ∧ rest = more := by
  have skipped := skipString_characters chars rest
  rw [same, skipString_characters again more] at skipped
  cases skipped
  exact ⟨List.append_cancel_right same, rfl⟩

/-- What a value is, apart from its contents. -/
inductive Mark
  | null
  | bool (value : Bool)
  | number
  | string
  | array
  | object

def Tree.mark : Tree → Mark
  | .null => .null
  | .bool value => .bool value
  | .number _ => .number
  | .string _ => .string
  | .array _ => .array
  | .object _ => .object

/-- What a value with a first character is. -/
def Mark.ofFirst (c : Char) : Mark :=
  if c = '-' ∨ c.isDigit = true then .number
  else if c = 'n' then .null
  else if c = 't' then .bool true
  else if c = 'f' then .bool false
  else if c = '"' then .string
  else if c = '[' then .array
  else .object

theorem Written.mark_eq {tree : Tree} {c : Char} {tail rest : List Char}
    (written : Written tree (c :: tail) rest) : tree.mark = .ofFirst c := by
  generalize same : c :: tail = start at written
  cases written with
  | number numeral =>
    cases numeral with
    | negative unsigned =>
      cases same
      rfl
    | positive unsigned =>
      obtain ⟨d, more, rfl, digit⟩ := unsigned.first
      cases same
      exact (if_pos (.inr digit)).symm
  | _ =>
    cases same
    rfl

theorem Written.number_eq {word text rest : List Char} (written : Written (.number word) text rest) :
    text = word ++ rest := by
  cases written
  rfl

theorem Written.string_eq {word text rest : List Char} (written : Written (.string word) text rest) :
    text = '"' :: word ++ '"' :: rest := by
  cases written
  rfl

theorem Written.items {items : List Tree} {text rest : List Char}
    (written : Written (.array items) ('[' :: text) rest) :
    ∃ after, WrittenItems true items text after ∧ Spaced after (']' :: rest) := by
  cases written with
  | array listed gap => exact ⟨_, listed, gap⟩

theorem Written.members {members : List (List Char × Tree)} {text rest : List Char}
    (written : Written (.object members) ('{' :: text) rest) :
    ∃ after, WrittenMembers true members text after ∧ Spaced after ('\x7d' :: rest) := by
  cases written with
  | object listed gap => exact ⟨_, listed, gap⟩

mutual

/-- A text has one value in front at most. -/
theorem Written.unique {tree other : Tree} {start rest more : List Char}
    (written : Written tree start rest) (again : Written other start more) (ends : Ends rest)
    (otherEnds : Ends more) : tree = other ∧ rest = more := by
  -- Where the value ends is known from the skipping; it remains what it is.
  have skipped := skip_written (.refl start) written ends
  rw [skip_written (.refl start) again otherEnds] at skipped
  cases skipped
  refine ⟨?_, rfl⟩
  obtain ⟨c, tail, same, -⟩ := written.first
  have alike : tree.mark = other.mark := by
    rw [same] at written again
    rw [written.mark_eq, again.mark_eq]
  cases written with
  | null =>
    cases other with
    | null => rfl
    | _ => cases alike
  | yes =>
    cases other with
    | bool value =>
      cases alike
      rfl
    | _ => cases alike
  | no =>
    cases other with
    | bool value =>
      cases alike
      rfl
    | _ => cases alike
  | number numeral =>
    cases other with
    | number word => rw [List.append_cancel_right again.number_eq]
    | _ => cases alike
  | string chars =>
    cases other with
    | string word =>
      have words := (List.cons.inj again.string_eq).2
      rw [List.append_cancel_right words]
    | _ => cases alike
  | array listed gap =>
    cases other with
    | array others =>
      obtain ⟨otherAfter, otherListed, otherGap⟩ := again.items
      rw [WrittenItems.unique listed gap otherListed otherGap]
    | _ => cases alike
  | object listed gap =>
    cases other with
    | object others =>
      obtain ⟨otherAfter, otherListed, otherGap⟩ := again.members
      rw [WrittenMembers.unique listed gap otherListed otherGap]
    | _ => cases alike

theorem WrittenItems.unique {first : Bool} {items others : List Tree}
    {text after otherAfter rest more : List Char} (listed : WrittenItems first items text after)
    (gap : Spaced after (']' :: rest)) (again : WrittenItems first others text otherAfter)
    (otherGap : Spaced otherAfter (']' :: more)) : items = others := by
  cases listed with
  | nil =>
    cases again with
    | nil => rfl
    | cons separated written _ =>
      obtain ⟨c, tail, rfl, token, other, -⟩ := written.first
      exact absurd (separated.not_closing gap token (.inl rfl)) other
  | cons separated written further =>
    cases again with
    | nil =>
      obtain ⟨c, tail, rfl, token, other, -⟩ := written.first
      exact absurd (separated.not_closing otherGap token (.inl rfl)) other
    | cons otherSeparated otherWritten otherFurther =>
      have starts := separated.unique otherSeparated written.beginsToken otherWritten.beginsToken
      subst starts
      obtain ⟨rfl, rfl⟩ := Written.unique written otherWritten (further.ends gap)
        (otherFurther.ends otherGap)
      rw [WrittenItems.unique further gap otherFurther otherGap]

theorem WrittenMembers.unique {first : Bool} {members others : List (List Char × Tree)}
    {text after otherAfter rest more : List Char} (listed : WrittenMembers first members text after)
    (gap : Spaced after ('\x7d' :: rest)) (again : WrittenMembers first others text otherAfter)
    (otherGap : Spaced otherAfter ('\x7d' :: more)) : members = others := by
  cases listed with
  | nil =>
    cases again with
    | nil => rfl
    | cons separated _ _ _ _ =>
      exact absurd (separated.not_closing gap rfl (.inr rfl)) (by decide)
  | cons separated chars beforeValue written further =>
    cases again with
    | nil => exact absurd (separated.not_closing otherGap rfl (.inr rfl)) (by decide)
    | cons otherSeparated otherChars otherBeforeValue otherWritten otherFurther =>
      have keys := separated.unique otherSeparated ⟨_, _, rfl, rfl⟩ ⟨_, _, rfl, rfl⟩
      obtain ⟨rfl, rfl⟩ := chars.unique otherChars (List.cons.inj keys).2
      obtain ⟨value, toColon, toValue⟩ := beforeValue
      obtain ⟨otherValue, otherToColon, otherToValue⟩ := otherBeforeValue
      have colons := toColon.unique otherToColon ⟨_, _, rfl, rfl⟩ ⟨_, _, rfl, rfl⟩
      obtain ⟨-, rfl⟩ := List.cons.inj colons
      have starts := toValue.unique otherToValue written.beginsToken otherWritten.beginsToken
      subst starts
      obtain ⟨rfl, rfl⟩ := Written.unique written otherWritten (further.ends gap)
        (otherFurther.ends otherGap)
      rw [WrittenMembers.unique further gap otherFurther otherGap]

end

theorem IsText.unique {tree other : Tree} {text : List Char} (isText : IsText tree text)
    (again : IsText other text) : tree = other := by
  obtain ⟨start, rest, spaced, written, gap⟩ := isText
  obtain ⟨otherStart, otherRest, otherSpaced, otherWritten, otherGap⟩ := again
  have starts := spaced.unique otherSpaced written.beginsToken otherWritten.beginsToken
  subst starts
  exact (written.unique otherWritten (gap.ends ends_nil) (otherGap.ends ends_nil)).1

end LanguageServer.Json
