import Mathlib.Data.List.Forall2
import LanguageServer.Json.Record
import LanguageServer.Proofs.Json.Spelling

/-! What readers make of the texts of values. A value is read in whichever way it is written, with
space before it, up to where it ends. -/

namespace LanguageServer.Json

open Reader

/-- What can come after a value: nothing, space, a comma or a closing bracket. -/
def Ends (rest : List Char) : Prop :=
  ∀ c, rest.head? = some c → c ∈ [' ', '\t', '\n', '\r', ',', ']', '\x7d']

/-- A reader takes a value from a text, with any space before it and whatever follows. -/
def Reads (reader : Reader α) (text : List Char) (value : α) : Prop :=
  ∀ space rest, IsSpacing space → Ends rest → reader (space ++ (text ++ rest)) = .ok (value, rest)

/-! ### Steps of a reader -/

theorem bind_ok {reader : Reader α} {next : α → Reader β} {text rest : List Char} {value : α}
    (read : reader text = .ok (value, rest)) : (reader >>= next) text = next value rest := by
  change (StateT.bind reader next) text = _
  simp only [StateT.bind, read]
  rfl

theorem map_ok {reader : Reader α} {change : α → β} {text rest : List Char} {value : α}
    (read : reader text = .ok (value, rest)) :
    (change <$> reader) text = .ok (change value, rest) := by
  change (StateT.map change reader) text = _
  simp only [StateT.map, read]
  rfl

theorem isSpace_of_spacing {gap : List Char} (spacing : IsSpacing gap) :
    ∀ c ∈ gap, isSpace c = true := by
  intro c membership
  rcases spacing c membership with rfl | rfl | rfl | rfl <;> rfl

theorem peekToken_token {gap rest : List Char} {c : Char} (spacing : IsSpacing gap)
    (token : isSpace c = false) : peekToken (gap ++ c :: rest) = .ok (some c, c :: rest) := by
  have skipped : (gap ++ c :: rest).dropWhile isSpace = c :: rest := by
    rw [List.dropWhile_append_of_pos (isSpace_of_spacing spacing)]
    simp [token]
  have spaced : space (gap ++ c :: rest) = .ok ((), c :: rest) := by
    rw [Reader.space, skipped]
  rw [peekToken, bind_ok spaced]
  rfl

theorem advance_cons (c : Char) (rest : List Char) : advance (c :: rest) = .ok ((), rest) := rfl

theorem Reads.map {reader : Reader α} {text : List Char} {value : α} (reads : Reads reader text value)
    (change : α → β) : Reads (do let value ← reader; return change value) text (change value) := by
  intro gap rest spacing ends
  rw [bind_ok (reads gap rest spacing ends)]
  rfl

/-! ### Words -/

theorem restOfWord_append (letters rest : List Char) :
    restOfWord letters (letters ++ rest) = .ok ((), rest) := by
  induction letters with
  | nil => rfl
  | cons letter letters ih =>
    rw [restOfWord, List.cons_append, bind_ok (show next (letter :: (letters ++ rest)) =
      .ok (some letter, letters ++ rest) from rfl)]
    simp only [if_true]
    exact ih

theorem reads_boolean {value : Bool} {text : List Char} (spelled : Spells (.bool value) text) :
    Reads boolean text value := by
  intro gap rest spacing ends
  cases spelled with
  | yes =>
    rw [boolean, List.cons_append, bind_ok (peekToken_token spacing rfl)]
    change (advance >>= fun _ => restOfWord ['r', 'u', 'e'] >>= fun _ => pure true) _ = _
    rw [bind_ok (advance_cons _ _), bind_ok (restOfWord_append _ rest)]
    rfl
  | no =>
    rw [boolean, List.cons_append, bind_ok (peekToken_token spacing rfl)]
    change (advance >>= fun _ => restOfWord ['a', 'l', 's', 'e'] >>= fun _ => pure false) _ = _
    rw [bind_ok (advance_cons _ _), bind_ok (restOfWord_append _ rest)]
    rfl

theorem reads_optional_null {reader : Reader α} {text : List Char} (spelled : Spells .null text) :
    Reads (Reader.optional reader) text none := by
  intro gap rest spacing ends
  cases spelled
  rw [Reader.optional, List.cons_append, bind_ok (peekToken_token spacing rfl)]
  change (advance >>= fun _ => restOfWord ['u', 'l', 'l'] >>= fun _ => pure none) _ = _
  rw [bind_ok (advance_cons _ _), bind_ok (restOfWord_append _ rest)]
  rfl

/-! ### Strings -/

theorem hexDigit?_of_isHexDigit {c : Char} {value : Nat} (digit : IsHexDigit c value) :
    hexDigit? c = some value := by
  obtain ⟨small, spelled⟩ := digit
  have lower : ∀ value < 16, hexDigit? (Nat.digitChar value) = some value := by decide
  have upper : ∀ value < 16, hexDigit? (Nat.digitChar value).toUpper = some value := by decide
  rcases spelled with rfl | rfl
  · exact lower value small
  · exact upper value small

theorem unit?_of_isUnit {a b c d : Char} {value : Nat} (digits : IsUnit [a, b, c, d] value) :
    unit? a b c d = some value := by
  cases digits with
  | digits one two three four sum =>
    rw [unit?, hexDigit?_of_isHexDigit one, hexDigit?_of_isHexDigit two,
      hexDigit?_of_isHexDigit three, hexDigit?_of_isHexDigit four, sum]
    simp only [Option.bind_eq_bind, Option.bind_some, Option.pure_def, Option.some.injEq]
    omega

/-- No character is half of a pair. -/
theorem not_surrogate (c : Char) : isTrailing c.toNat = false ∧ isLeading c.toNat = false := by
  have valid : c.toNat < 0xD800 ∨ 0xDFFF < c.toNat ∧ c.toNat < 0x110000 := c.valid
  simp only [isTrailing, isLeading, Bool.and_eq_false_iff, decide_eq_false_iff_not]
  omega

theorem restOfString_letter {letter c : Char} (known : escape? letter = some c)
    (done rest : List Char) :
    restOfString done ('\\' :: letter :: rest) = restOfString (c :: done) rest := by
  have notUnit : letter ≠ 'u' := by
    rintro rfl
    simp [escape?] at known
  rw [restOfString]
  · rw [known]
  all_goals simp_all

theorem restOfString_unit {a b d e c : Char} (value : unit? a b d e = some c.toNat)
    (done rest : List Char) :
    restOfString done ('\\' :: 'u' :: a :: b :: d :: e :: rest) = restOfString (c :: done) rest := by
  obtain ⟨trailing, leading⟩ := not_surrogate c
  rw [restOfString, value]
  simp only [trailing, leading, Bool.false_eq_true, if_false, Char.ofNat_toNat]

theorem restOfString_pair {a b d e f g h i c : Char} {leading trailing : Nat}
    (first : unit? a b d e = some leading) (second : unit? f g h i = some trailing)
    (isLeading : 0xD800 ≤ leading ∧ leading ≤ 0xDBFF)
    (isTrailing : 0xDC00 ≤ trailing ∧ trailing ≤ 0xDFFF)
    (value : c.toNat = 0x10000 + (leading - 0xD800) * 0x400 + (trailing - 0xDC00))
    (done rest : List Char) :
    restOfString done
      ('\\' :: 'u' :: a :: b :: d :: e :: '\\' :: 'u' :: f :: g :: h :: i :: rest) =
        restOfString (c :: done) rest := by
  have notTrailing : Reader.isTrailing leading = false := by
    simp only [Reader.isTrailing, Bool.and_eq_false_iff, decide_eq_false_iff_not]
    omega
  have leads : Reader.isLeading leading = true := by
    simpa only [Reader.isLeading, Bool.and_eq_true, decide_eq_true_eq] using isLeading
  have trails : Reader.isTrailing trailing = true := by
    simpa only [Reader.isTrailing, Bool.and_eq_true, decide_eq_true_eq] using isTrailing
  have char : pairChar leading trailing = c := by
    rw [pairChar, ← value, Char.ofNat_toNat]
  rw [restOfString, first]
  simp only [notTrailing, leads, Bool.false_eq_true, if_false, if_true, second, trails, char]

/-- One character of a string is read, in whichever way it is written. -/
theorem restOfString_char {c : Char} {text : List Char} (spelled : SpellsChar c text)
    (done rest : List Char) : restOfString done (text ++ rest) = restOfString (c :: done) rest := by
  cases spelled with
  | plain printable quote backslash =>
    rw [List.singleton_append, restOfString]
    · rw [if_neg (Nat.not_lt_of_le printable)]
    all_goals simp_all
  | letter known =>
    refine restOfString_letter ?_ done rest
    have all : ∀ entry ∈ letterEscapes, escape? entry.1 = some entry.2 := by decide
    exact all _ known
  | unit value =>
    cases value with
    | digits one two three four sum =>
      exact restOfString_unit (unit?_of_isUnit (.digits one two three four sum)) done rest
  | pair first second isLeading isTrailing value =>
    cases first with
    | digits a b d e high =>
      cases second with
      | digits f g h i low =>
        exact restOfString_pair (unit?_of_isUnit (.digits a b d e high))
          (unit?_of_isUnit (.digits f g h i low)) isLeading isTrailing value done rest

theorem restOfString_chars {chars text : List Char} (spelled : SpellsChars chars text)
    (done rest : List Char) :
    restOfString done (text ++ '"' :: rest) = .ok (String.ofList (done.reverse ++ chars), rest) := by
  induction spelled generalizing done with
  | nil => rw [List.nil_append, restOfString, List.append_nil]
  | cons first further ih =>
    rw [List.append_assoc, restOfString_char first, ih, List.reverse_cons, List.append_assoc]
    rfl

theorem stringTail_spelled {value : String} {text : List Char} (spelled : SpellsString value text) :
    ∃ tail, text = '"' :: tail ∧ ∀ rest, stringTail (tail ++ rest) = .ok (value, rest) := by
  cases spelled with
  | @quoted body chars =>
    refine ⟨body ++ ['"'], rfl, fun rest => ?_⟩
    rw [List.append_assoc, stringTail, List.singleton_append, restOfString_chars chars,
      List.reverse_nil, List.nil_append, String.ofList_toList]

theorem reads_string {value : String} {text : List Char} (spelled : SpellsString value text) :
    Reads Reader.string text value := by
  intro gap rest spacing ends
  obtain ⟨tail, rfl, read⟩ := stringTail_spelled spelled
  rw [Reader.string, List.cons_append, bind_ok (peekToken_token spacing rfl)]
  change (advance >>= fun _ => stringTail) _ = _
  rw [bind_ok (advance_cons _ _)]
  exact read rest

/-! ### Numbers -/

theorem le_ofDigitChars (digits : List Char) (value : Nat) :
    value ≤ Nat.ofDigitChars 10 digits value := by
  induction digits generalizing value with
  | nil => exact Nat.le_refl value
  | cons digit digits ih =>
    rw [Nat.ofDigitChars_cons]
    exact Nat.le_trans (by omega) (ih _)

/-- The digits of a number that fits in 64 bits are all read into it. -/
theorem absorb_digits (digits : List Char) (value : Nat)
    (small : Nat.ofDigitChars 10 digits value < Nat.pow 2 64) :
    absorb value digits = (Nat.ofDigitChars 10 digits value, []) := by
  induction digits generalizing value with
  | nil => rfl
  | cons digit digits ih =>
    rw [Nat.ofDigitChars_cons, Nat.mul_comm] at small ⊢
    rw [absorb]
    simp only [Nat.lt_of_le_of_lt (le_ofDigitChars digits _) small, if_true]
    exact ih _ small

/-- Only zero is written with a zero in front. -/
theorem toDigits_leading (value : Nat) :
    ∃ first more, Nat.toDigits 10 value = first :: more ∧ (first = '0' → more = []) := by
  induction value using Nat.strongRecOn with
  | ind value ih =>
    rw [Nat.toDigits_eq_if (by decide)]
    split
    · exact ⟨_, [], rfl, fun _ => rfl⟩
    · rename_i large
      obtain ⟨first, more, digits, zero⟩ := ih (value / 10) (by omega)
      refine ⟨first, more ++ [(value % 10).digitChar], by rw [digits]; rfl, ?_⟩
      intro same
      have none : value / 10 = 0 := by
        rw [zero same, same] at digits
        have read := Nat.ofDigitChars_ten_toDigits (n := value / 10)
        rw [digits] at read
        exact read.symm
      omega

/-- The digits of a number, the first of them apart. -/
theorem toDigits_first (value : Nat) :
    ∃ first more, Nat.toDigits 10 value = first :: more ∧
      (∀ c ∈ first :: more, c.isDigit = true) ∧ (first = '0' → more = []) := by
  obtain ⟨first, more, digits, zero⟩ := toDigits_leading value
  refine ⟨first, more, digits, ?_, zero⟩
  intro c membership
  rw [← digits] at membership
  exact Nat.isDigit_of_mem_toDigits (by decide) (by decide) membership

/-- What follows a value does not go on with a number. -/
theorem Ends.first {rest : List Char} (ends : Ends rest) {c : Char} (first : rest.head? = some c) :
    c.isDigit = false ∧ c ≠ '.' ∧ c ≠ 'e' ∧ c ≠ 'E' := by
  have listed := ends c first
  simp only [List.mem_cons, List.not_mem_nil, or_false] at listed
  rcases listed with rfl | rfl | rfl | rfl | rfl | rfl | rfl <;> decide

theorem span_digits {digits rest : List Char} (areDigits : ∀ c ∈ digits, c.isDigit = true)
    (stops : ∀ c, rest.head? = some c → c.isDigit = false) :
    span Char.isDigit (digits ++ rest) = .ok (digits, rest) := by
  have taken : rest.takeWhile Char.isDigit = [] ∧ rest.dropWhile Char.isDigit = rest := by
    cases rest with
    | nil => exact ⟨rfl, rfl⟩
    | cons c rest => simp [stops c rfl]
  rw [span, List.takeWhile_append_of_pos areDigits, List.dropWhile_append_of_pos areDigits,
    taken.1, taken.2, List.append_nil]

theorem number_absorbed {first : Char} {more rest : List Char} {value : Nat}
    (areDigits : ∀ c ∈ first :: more, c.isDigit = true) (zero : first = '0' → more = [])
    (absorbed : absorb 0 (first :: more) = (value, [])) (ends : Ends rest) :
    Reader.number false (first :: more ++ rest) = .ok (.integer value, rest) := by
  obtain ⟨isDigit, moreDigits⟩ := List.forall_mem_cons.mp areDigits
  have spanned : ∀ tail : List Char → Reader Number,
      (if first = '0' then (pure [] >>= tail) else (span Char.isDigit >>= tail) : Reader Number)
        (more ++ rest) = tail more rest := by
    intro tail
    by_cases same : first = '0'
    · rw [if_pos same, zero same]
      rfl
    · rw [if_neg same, bind_ok (span_digits moreDigits fun c next => (ends.first next).1)]
  rw [List.cons_append, Reader.number, bind_ok (show next (first :: (more ++ rest)) =
    .ok (some first, more ++ rest) from rfl)]
  simp only [isDigit, not_true, if_false]
  rw [spanned, absorbed]
  dsimp only
  rw [bind_ok (show peek rest = .ok (rest.head?, rest) from rfl)]
  cases next : rest.head? with
  | none => rfl
  | some c =>
    obtain ⟨notDigit, point, small, capital⟩ := ends.first next
    simp only [notDigit, Bool.false_eq_true, and_false, if_false]
    rfl

theorem isSpace_of_isDigit {c : Char} (digit : c.isDigit = true) : isSpace c = false := by
  simp only [isSpace, Bool.or_eq_false_iff, beq_eq_false_iff_ne]
  refine ⟨⟨⟨?_, ?_⟩, ?_⟩, ?_⟩
  all_goals
    rintro rfl
    exact absurd digit (by decide)

/-- Digits whose number fits in 32 bits are read as it. -/
theorem word_digits {first : Char} {more gap rest : List Char}
    (areDigits : ∀ c ∈ first :: more, c.isDigit = true) (zero : first = '0' → more = [])
    (small : Nat.ofDigitChars 10 (first :: more) 0 < Nat.pow 2 32) (spacing : IsSpacing gap)
    (ends : Ends rest) :
    word (gap ++ (first :: more ++ rest)) = .ok (Nat.ofDigitChars 10 (first :: more) 0, rest) := by
  have absorbed := absorb_digits (first :: more) 0 (Nat.lt_trans small (by decide))
  have read := number_absorbed areDigits zero absorbed ends
  have isDigit := areDigits first (List.mem_cons_self ..)
  have notDash : first ≠ '-' := by
    rintro rfl
    exact absurd isDigit (by decide)
  generalize Nat.ofDigitChars 10 (first :: more) 0 = value at read small ⊢
  have fits : (0 : Int) ≤ value ∧ (value : Int) < Int.pow 2 32 :=
    ⟨Int.natCast_nonneg value, Int.ofNat_lt.mpr small⟩
  rw [word, List.cons_append, bind_ok (peekToken_token spacing (isSpace_of_isDigit isDigit))]
  simp only [isDigit, or_true, if_true, notDash, if_false, beq_eq_false_iff_ne.mpr notDash]
  rw [← List.cons_append, bind_ok read]
  simp only [fits, and_self, if_true]
  rfl

theorem reads_word {value : Nat} {text : List Char} (small : value < Nat.pow 2 32)
    (spelled : Spells (Json.nat value) text) : Reads word text value := by
  intro gap rest spacing ends
  have numbered : text = Nat.toDigits 10 value := by
    cases spelled
    rfl
  obtain ⟨first, more, digits, areDigits, zero⟩ := toDigits_first value
  have same : Nat.ofDigitChars 10 (first :: more) 0 = value := by
    rw [← digits]
    exact Nat.ofDigitChars_ten_toDigits
  have read := word_digits areDigits zero (same ▸ small) spacing ends
  rw [same] at read
  rw [numbered, digits]
  exact read

/-! ### Lists -/

theorem iterateFor_more {step : σ → Reader (Option σ)} {state next : σ} {text rest : List Char}
    (goesOn : step state text = .ok (some next, rest)) (fuel : Nat) :
    iterateFor step (fuel + 1) state text = iterateFor step fuel next rest := by
  simp only [iterateFor, goesOn]

theorem iterateFor_done {step : σ → Reader (Option σ)} {state : σ} {text rest : List Char}
    (ends : step state text = .ok (none, rest)) (fuel : Nat) :
    iterateFor step (fuel + 1) state text = .ok (state, rest) := by
  simp only [iterateFor, ends]

theorem Spells.first {value : Json} {text : List Char} (spelled : Spells value text) :
    ∃ c tail, text = c :: tail ∧ isSpace c = false ∧ c ≠ ']' ∧ (c = 'n' → value = .null) := by
  cases spelled with
  | null => exact ⟨_, _, rfl, rfl, by decide, fun _ => rfl⟩
  | yes => exact ⟨_, _, rfl, rfl, by decide, fun same => absurd same (by decide)⟩
  | no => exact ⟨_, _, rfl, rfl, by decide, fun same => absurd same (by decide)⟩
  | number value =>
    obtain ⟨first, more, digits, areDigits, -⟩ := toDigits_first value
    have isDigit := areDigits first (List.mem_cons_self ..)
    refine ⟨first, more, digits, isSpace_of_isDigit isDigit, ?_, ?_⟩
    · rintro rfl
      exact absurd isDigit (by decide)
    · rintro rfl
      exact absurd isDigit (by decide)
  | string spelled =>
    obtain ⟨tail, rfl, -⟩ := stringTail_spelled spelled
    exact ⟨_, _, rfl, rfl, by decide, fun same => absurd same (by decide)⟩
  | emptyArray spacing => exact ⟨_, _, rfl, rfl, by decide, fun same => absurd same (by decide)⟩
  | array spelled => exact ⟨_, _, rfl, rfl, by decide, fun same => absurd same (by decide)⟩
  | emptyObject spacing => exact ⟨_, _, rfl, rfl, by decide, fun same => absurd same (by decide)⟩
  | object spelled => exact ⟨_, _, rfl, rfl, by decide, fun same => absurd same (by decide)⟩

/-- A value other than `null` is read for itself where `null` could stand. -/
theorem reads_optional {reader : Reader α} {json : Json} {value : α} {text : List Char}
    (spelled : Spells json text) (other : json ≠ .null) (reads : Reads reader text value) :
    Reads (Reader.optional reader) text (some value) := by
  intro gap rest spacing ends
  obtain ⟨c, tail, rfl, token, -, null⟩ := spelled.first
  have different : c ≠ 'n' := fun same => other (null same)
  have read : (some <$> reader) (c :: (tail ++ rest)) = .ok (some value, rest) :=
    map_ok (reads [] rest isSpacing_nil ends)
  rw [Reader.optional, List.cons_append, bind_ok (peekToken_token spacing token)]
  simpa [different] using read

theorem nextItem_first {gap : List Char} {c : Char} (spacing : IsSpacing gap)
    (token : isSpace c = false) (other : c ≠ ']') (rest : List Char) :
    nextItem true (gap ++ c :: rest) = .ok (true, c :: rest) := by
  rw [nextItem, bind_ok (peekToken_token spacing token)]
  by_cases comma : c = ','
  · subst comma
    rfl
  · simp
    rfl

theorem nextItem_comma {before gap : List Char} {c : Char} (earlier : IsSpacing before)
    (spacing : IsSpacing gap) (token : isSpace c = false) (other : c ≠ ']') (rest : List Char) :
    nextItem false (before ++ ',' :: (gap ++ c :: rest)) = .ok (true, c :: rest) := by
  rw [nextItem, bind_ok (peekToken_token earlier rfl)]
  change (advance >>= fun _ => peekToken >>= _) _ = _
  rw [bind_ok (advance_cons _ _), bind_ok (peekToken_token spacing token)]
  simp
  rfl

theorem nextItem_end {gap rest : List Char} (first : Bool) (spacing : IsSpacing gap) :
    nextItem first (gap ++ ']' :: rest) = .ok (false, ']' :: rest) := by
  rw [nextItem, bind_ok (peekToken_token spacing rfl)]
  rfl

theorem ends_of_spacing {gap rest : List Char} (spacing : IsSpacing gap) (ends : Ends rest) :
    Ends (gap ++ rest) := by
  intro c first
  cases gap with
  | nil => exact ends c first
  | cons blank gap =>
    obtain rfl : blank = c := by simpa using first
    rcases spacing blank (List.mem_cons_self ..) with rfl | rfl | rfl | rfl <;> decide

theorem ends_comma (rest : List Char) : Ends (',' :: rest) := by
  rintro c ⟨⟩
  decide

theorem ends_bracket (rest : List Char) : Ends (']' :: rest) := by
  rintro c ⟨⟩
  decide

theorem ends_brace (rest : List Char) : Ends ('\x7d' :: rest) := by
  rintro c ⟨⟩
  decide

/-- Reads one more item of a list, if there is one. -/
def itemStep (item : Reader α) (found : List α) : Reader (Option (List α)) := do
  if ← nextItem found.isEmpty then
    let value ← item
    return some (value :: found)
  else
    return none

theorem items_eq (item : Reader α) :
    items item = (do let found ← iterate (itemStep item) []; endOfList; return found.reverse) :=
  rfl

/-- Items are made into values when each text of an item is read as the value. -/
def Makes (item : Reader α) : List Json → List α → Prop :=
  List.Forall₂ fun json value => ∀ text, Spells json text → Reads item text value

theorem itemStep_more {item : Reader α} {found : List α} {start text rest : List Char} {value : α}
    (follows : nextItem found.isEmpty start = .ok (true, text ++ rest))
    (reads : Reads item text value) (ends : Ends rest) :
    itemStep item found start = .ok (some (value :: found), rest) := by
  rw [itemStep, bind_ok follows]
  change (item >>= fun value => pure (some (value :: found))) _ = _
  have read := reads [] rest isSpacing_nil ends
  rw [List.nil_append] at read
  rw [bind_ok read]
  rfl

theorem itemStep_end (item : Reader α) (found : List α) {gap : List Char} (spacing : IsSpacing gap)
    (rest : List Char) : itemStep item found (gap ++ ']' :: rest) = .ok (none, ']' :: rest) := by
  rw [itemStep, bind_ok (nextItem_end found.isEmpty spacing)]
  rfl

/-- What stands before an item: nothing before the first one, else a comma. -/
def LeadsItem (lead : List Char) (first : Bool) : Prop :=
  ∀ gap c rest, IsSpacing gap → isSpace c = false → c ≠ ']' →
    nextItem first (lead ++ (gap ++ c :: rest)) = .ok (true, c :: rest)

theorem leadsItem_first : LeadsItem [] true :=
  fun _ _ rest spacing token other => nextItem_first spacing token other rest

theorem leadsItem_comma {before : List Char} (earlier : IsSpacing before) :
    LeadsItem (before ++ [',']) false := by
  intro gap c rest spacing token other
  rw [List.append_assoc]
  exact nextItem_comma earlier spacing token other rest

/-- Items are read one after the other, up to the closing bracket. -/
theorem iterateFor_items {item : Reader α} {items : List Json} {values : List α}
    (makes : Makes item items values) {text : List Char} (spelled : SpellsItems items text)
    (found : List α) {lead : List Char} (leads : LeadsItem lead found.isEmpty) (rest : List Char)
    (fuel : Nat) (enough : items.length < fuel) :
    iterateFor (itemStep item) fuel found (lead ++ (text ++ ']' :: rest)) =
      .ok (values.reverse ++ found, ']' :: rest) := by
  induction makes generalizing text found lead fuel with
  | nil => cases spelled
  | @cons json value items values one makes ih =>
    obtain ⟨fuel, rfl⟩ : ∃ more, fuel = more + 1 := Nat.exists_eq_succ_of_ne_zero (by omega)
    rw [List.length_cons, Nat.add_lt_add_iff_right] at enough
    cases spelled with
    | @last _ left _ right before spelled after =>
      obtain ⟨c, tail, rfl, token, other, -⟩ := spelled.first
      have follows := leads left c (tail ++ (right ++ ']' :: rest)) before token other
      have step := itemStep_more follows (one _ spelled) (ends_of_spacing after (ends_bracket rest))
      obtain ⟨fuel, rfl⟩ : ∃ more, fuel = more + 1 := Nat.exists_eq_succ_of_ne_zero (by omega)
      cases makes
      have done := (iterateFor_more step _).trans
        (iterateFor_done (itemStep_end item _ after rest) fuel)
      simpa using done
    | @more _ _ left _ right further before spelled after moreSpelled =>
      obtain ⟨c, tail, rfl, token, other, -⟩ := spelled.first
      have follows := leads left c (tail ++ (right ++ ',' :: (further ++ ']' :: rest))) before token
        other
      have step := itemStep_more follows (one _ spelled) (ends_of_spacing after (ends_comma _))
      have later := ih moreSpelled (value :: found) (leadsItem_comma after) fuel enough
      rw [List.append_assoc, List.singleton_append] at later
      have done := (iterateFor_more step _).trans later
      simpa using done

theorem length_le_of_spellsItems {items : List Json} {text : List Char}
    (spelled : SpellsItems items text) : items.length ≤ text.length := by
  induction items generalizing text with
  | nil => exact Nat.zero_le _
  | cons item items ih =>
    cases spelled with
    | last before spelled after =>
      obtain ⟨c, tail, rfl, -⟩ := spelled.first
      simp only [List.length_cons, List.length_append, List.length_nil]
      omega
    | more before spelled after further =>
      have shorter := ih further
      simp only [List.length_cons, List.length_append]
      omega

theorem endOfList_bracket (rest : List Char) : endOfList (']' :: rest) = .ok ((), rest) := rfl

theorem reads_list {item : Reader α} {items : List Json} {values : List α}
    (makes : Makes item items values) {text : List Char} (spelled : Spells (.array items) text) :
    Reads (Reader.list item) text values := by
  intro gap rest spacing ends
  have read : ∀ {inner : List Char},
      iterate (itemStep item) [] (inner ++ ']' :: rest) = .ok (values.reverse, ']' :: rest) →
      Reader.list item (gap ++ ('[' :: inner ++ [']'] ++ rest)) = .ok (values, rest) := by
    intro inner iterated
    rw [Reader.list, List.append_assoc, List.cons_append, bind_ok (peekToken_token spacing rfl)]
    change (advance >>= fun _ => Reader.items item) _ = _
    rw [bind_ok (advance_cons _ _), items_eq, List.singleton_append, bind_ok iterated,
      bind_ok (endOfList_bracket rest), List.reverse_reverse]
    rfl
  cases spelled with
  | emptyArray inside =>
    cases makes
    exact read (iterateFor_done (itemStep_end item [] inside rest) _)
  | array spelled =>
    apply read
    have short := length_le_of_spellsItems spelled
    have all := iterateFor_items makes spelled [] leadsItem_first rest
    rw [List.append_nil] at all
    apply all
    rw [List.length_append]
    omega

/-! ### Records -/

/-- What stands before a key: nothing before the first one, else a comma. -/
def LeadsKey (lead : List Char) (first : Bool) : Prop :=
  ∀ gap rest, IsSpacing gap → nextKey first (lead ++ (gap ++ '"' :: rest)) = .ok (true, rest)

theorem leadsKey_first : LeadsKey [] true := by
  intro gap rest spacing
  rw [List.nil_append, nextKey, bind_ok (peekToken_token spacing rfl)]
  rfl

theorem leadsKey_comma {before : List Char} (earlier : IsSpacing before) :
    LeadsKey (before ++ [',']) false := by
  intro gap rest spacing
  rw [List.append_assoc, List.singleton_append, nextKey, bind_ok (peekToken_token earlier rfl)]
  change (advance >>= fun _ => peekToken >>= _) _ = _
  rw [bind_ok (advance_cons _ _), bind_ok (peekToken_token spacing rfl)]
  rfl

theorem nextKey_end {gap : List Char} (first : Bool) (spacing : IsSpacing gap) (rest : List Char) :
    nextKey first (gap ++ '\x7d' :: rest) = .ok (false, '\x7d' :: rest) := by
  rw [nextKey, bind_ok (peekToken_token spacing rfl)]
  rfl

theorem colon_spaced {gap : List Char} (spacing : IsSpacing gap) (rest : List Char) :
    colon (gap ++ ':' :: rest) = .ok ((), rest) := by
  rw [colon, bind_ok (peekToken_token spacing rfl)]
  rfl

theorem endOfObject_brace (rest : List Char) : endOfObject ('\x7d' :: rest) = .ok ((), rest) := rfl

namespace Record

variable {σ α : Type} {record : Record σ α}

/-- Members are taken into a record one after the other: each is that of a field which has no value
yet, and is read as what fills the field. -/
inductive Takes (record : Record σ α) : σ → List (String × Json) → σ → Prop
  | nil {state : σ} : Takes record state [] state
  | cons {state after : σ} {key : String} {value : Json} {members : List (String × Json)}
      {field : Field σ} {update : σ → σ}
      (known : record.fields.find? (·.key == key) = some field)
      (fresh : field.filled state = false)
      (reads : ∀ text, Spells value text → Reads field.read text update)
      (further : Takes record (update state) members after) :
      Takes record state ((key, value) :: members) after

/-- Reads one more member of an object, if there is one. -/
def memberStep (record : Record σ α) (progress : σ × Bool) : Reader (Option (σ × Bool)) := do
  if ← nextKey progress.2 then
    let key ← stringTail
    return some (← record.readMember key progress.1, false)
  else
    return none

theorem readMembers_eq (record : Record σ α) :
    record.readMembers = (do let (state, _) ← iterate record.memberStep (record.empty, true)
                             return state) :=
  rfl

theorem memberStep_more {state : σ} {first : Bool} {key : String} {value : Json} {field : Field σ}
    {update : σ → σ} (known : record.fields.find? (·.key == key) = some field)
    (fresh : field.filled state = false)
    (reads : ∀ text, Spells value text → Reads field.read text update) {text : List Char}
    (spelled : SpellsMember (key, value) text) {lead : List Char} (leads : LeadsKey lead first) :
    ∃ gap, IsSpacing gap ∧ ∀ rest, Ends rest →
      record.memberStep (state, first) (lead ++ (text ++ rest)) =
        .ok (some (update state, false), gap ++ rest) := by
  cases spelled with
  | @member _ _ left name between gap written right before named afterKey beforeValue spelled after =>
    obtain ⟨tail, rfl, keyRead⟩ := stringTail_spelled named
    refine ⟨right, after, fun rest ends => ?_⟩
    have follows := leads left (tail ++ (between ++ ':' :: (gap ++ (written ++ (right ++ rest)))))
      before
    have valueRead := reads _ spelled gap (right ++ rest) beforeValue (ends_of_spacing after ends)
    have memberRead : record.readMember key state
        (between ++ ':' :: (gap ++ (written ++ (right ++ rest)))) =
          .ok (update state, right ++ rest) := by
      rw [readMember, known]
      simp only [fresh, Bool.false_eq_true, if_false]
      rw [bind_ok (colon_spaced afterKey _), bind_ok valueRead]
      rfl
    have step : record.memberStep (state, first) (lead ++ (left ++ '"' :: (tail ++
        (between ++ ':' :: (gap ++ (written ++ (right ++ rest))))))) =
          .ok (some (update state, false), right ++ rest) := by
      rw [memberStep, bind_ok follows]
      change (stringTail >>= fun key => record.readMember key state >>= fun state =>
        pure (some (state, false))) _ = _
      rw [bind_ok (keyRead _), bind_ok memberRead]
      rfl
    simpa using step

theorem memberStep_end (record : Record σ α) (progress : σ × Bool) {gap : List Char}
    (spacing : IsSpacing gap) (rest : List Char) :
    record.memberStep progress (gap ++ '\x7d' :: rest) = .ok (none, '\x7d' :: rest) := by
  rw [memberStep, bind_ok (nextKey_end progress.2 spacing rest)]
  rfl

/-- Members are read one after the other, up to the closing brace. -/
theorem iterateFor_members {state after : σ} {members : List (String × Json)}
    (takes : record.Takes state members after) {text : List Char}
    (spelled : SpellsMembers members text) (first : Bool) {lead : List Char}
    (leads : LeadsKey lead first) (rest : List Char) (fuel : Nat) (enough : members.length < fuel) :
    iterateFor record.memberStep fuel (state, first) (lead ++ (text ++ '\x7d' :: rest)) =
      .ok ((after, false), '\x7d' :: rest) := by
  induction takes generalizing text first lead fuel with
  | nil => cases spelled
  | @cons state after key value members field update known fresh reads takes ih =>
    obtain ⟨fuel, rfl⟩ : ∃ more, fuel = more + 1 := Nat.exists_eq_succ_of_ne_zero (by omega)
    rw [List.length_cons, Nat.add_lt_add_iff_right] at enough
    cases spelled with
    | last spelled =>
      obtain ⟨gap, spacing, step⟩ := memberStep_more known fresh reads spelled leads
      obtain ⟨fuel, rfl⟩ : ∃ more, fuel = more + 1 := Nat.exists_eq_succ_of_ne_zero (by omega)
      cases takes
      rw [iterateFor_more (step _ (ends_brace rest))]
      exact iterateFor_done (memberStep_end record _ spacing rest) fuel
    | @more _ _ _ further spelled moreSpelled =>
      obtain ⟨gap, spacing, step⟩ := memberStep_more known fresh reads spelled leads
      have later := ih moreSpelled false (leadsKey_comma spacing) fuel enough
      rw [List.append_assoc, List.singleton_append] at later
      rw [List.append_assoc, List.cons_append, iterateFor_more (step _ (ends_comma _))]
      exact later

theorem length_le_of_spellsMembers {members : List (String × Json)} {text : List Char}
    (spelled : SpellsMembers members text) : members.length ≤ text.length := by
  induction members generalizing text with
  | nil => exact Nat.zero_le _
  | cons member members ih =>
    cases spelled with
    | last spelled =>
      cases spelled
      simp only [List.length_cons, List.length_append, List.length_nil]
      omega
    | more spelled further =>
      have shorter := ih further
      simp only [List.length_cons, List.length_append]
      omega

/-- A record is read from any text of an object whose members it takes. -/
theorem reads_object {state : σ} {members : List (String × Json)} {made : α}
    (takes : record.Takes record.empty members state) (built : record.build state = .ok made)
    {text : List Char} (spelled : Spells (.object members) text) : Reads record.read text made := by
  intro gap rest spacing ends
  have read : ∀ {inner : List Char} {last : Bool},
      iterate record.memberStep (record.empty, true) (inner ++ '\x7d' :: rest) =
        .ok ((state, last), '\x7d' :: rest) →
      record.read (gap ++ ('{' :: inner ++ ['\x7d'] ++ rest)) = .ok (made, rest) := by
    intro inner last iterated
    have members : record.readMembers (inner ++ '\x7d' :: rest) = .ok (state, '\x7d' :: rest) := by
      rw [readMembers_eq, bind_ok iterated]
      rfl
    have finished : record.finish state ('\x7d' :: rest) = .ok (made, '\x7d' :: rest) := by
      rw [finish, built]
      rfl
    rw [Record.read, List.append_assoc, List.cons_append, bind_ok (peekToken_token spacing rfl)]
    change (advance >>= fun _ => record.readMembers >>= fun state => record.finish state >>=
      fun made => endOfObject >>= fun _ => pure made) _ = _
    rw [bind_ok (advance_cons _ _), List.singleton_append, bind_ok members, bind_ok finished,
      bind_ok (endOfObject_brace rest)]
    rfl
  cases spelled with
  | emptyObject inside =>
    cases takes
    exact read (iterateFor_done (memberStep_end record _ inside rest) _)
  | object spelled =>
    apply read
    have short := length_le_of_spellsMembers spelled
    apply iterateFor_members takes spelled true leadsKey_first rest
    rw [List.length_append]
    omega

end Record

end LanguageServer.Json
