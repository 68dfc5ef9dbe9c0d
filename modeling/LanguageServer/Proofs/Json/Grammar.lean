import LanguageServer.Proofs.Json.Spelling

/-! The grammar of JSON texts. A text is described by a tree that keeps strings and numbers as they
are written, so that every text of the grammar has a tree: nesting has no limit, numbers no range, and
units in strings need not form characters.

Where a value stands in a longer text, the grammar relates the text from there on to what is left
after the value. -/

namespace LanguageServer.Json

/-- What is written in a text. -/
inductive Tree
  | null
  | bool (value : Bool)
  | number (word : List Char)
  /-- A string, without its quotes. -/
  | string (word : List Char)
  | array (items : List Tree)
  | object (members : List (List Char × Tree))

/-! ### Words -/

def AreDigits (text : List Char) : Prop :=
  ∀ c ∈ text, c.isDigit = true

/-- The digits before the point: no other follows a zero in front. -/
inductive IsWhole : List Char → Prop
  | zero : IsWhole ['0']
  | more {c : Char} {digits : List Char} (digit : c.isDigit = true) (leading : c ≠ '0')
      (further : AreDigits digits) : IsWhole (c :: digits)

/-- A point and at least one digit, if there is a point. -/
inductive IsFraction : List Char → Prop
  | none : IsFraction []
  | point {c : Char} {digits : List Char} (digit : c.isDigit = true) (further : AreDigits digits) :
      IsFraction ('.' :: c :: digits)

/-- A mark, perhaps a sign, and at least one digit, if there is a mark. -/
inductive IsExponent : List Char → Prop
  | none : IsExponent []
  | mark {mark : Char} {sign : List Char} {c : Char} {digits : List Char}
      (marks : mark = 'e' ∨ mark = 'E') (signs : sign = [] ∨ sign = ['+'] ∨ sign = ['-'])
      (digit : c.isDigit = true) (further : AreDigits digits) :
      IsExponent (mark :: sign ++ c :: digits)

/-- A number without its sign. -/
inductive IsUnsigned : List Char → Prop
  | parts {whole fraction exponent : List Char} (first : IsWhole whole)
      (second : IsFraction fraction) (third : IsExponent exponent) :
      IsUnsigned (whole ++ (fraction ++ exponent))

inductive IsNumeral : List Char → Prop
  | positive {word : List Char} (unsigned : IsUnsigned word) : IsNumeral word
  | negative {word : List Char} (unsigned : IsUnsigned word) : IsNumeral ('-' :: word)

/-- What can stand between quotes: characters that are printed as they are, letters after a backslash
and units of sixteen bits. -/
inductive IsCharacters : List Char → Prop
  | nil : IsCharacters []
  | plain {c : Char} {rest : List Char} (printable : 0x20 ≤ c.toNat) (quote : c ≠ '"')
      (backslash : c ≠ '\\') (further : IsCharacters rest) : IsCharacters (c :: rest)
  | letter {letter c : Char} {rest : List Char} (known : (letter, c) ∈ letterEscapes)
      (further : IsCharacters rest) : IsCharacters ('\\' :: letter :: rest)
  | unit {digits rest : List Char} {value : Nat} (unit : IsUnit digits value)
      (further : IsCharacters rest) : IsCharacters ('\\' :: 'u' :: digits ++ rest)

/-! ### Values -/

/-- Space stands before the rest of a text. -/
def Spaced (text rest : List Char) : Prop :=
  ∃ gap, IsSpacing gap ∧ text = gap ++ rest

/-- What separates an item or member from what is before it: space, and a comma unless it is the
first. -/
def Separated : Bool → List Char → List Char → Prop
  | true, text, rest => Spaced text rest
  | false, text, rest => ∃ after, Spaced text (',' :: after) ∧ Spaced after rest

mutual

/-- A text begins with a value, and a rest is left. -/
inductive Written : Tree → List Char → List Char → Prop
  | null {rest : List Char} : Written .null ('n' :: 'u' :: 'l' :: 'l' :: rest) rest
  | yes {rest : List Char} : Written (.bool true) ('t' :: 'r' :: 'u' :: 'e' :: rest) rest
  | no {rest : List Char} : Written (.bool false) ('f' :: 'a' :: 'l' :: 's' :: 'e' :: rest) rest
  | number {word rest : List Char} (numeral : IsNumeral word) :
      Written (.number word) (word ++ rest) rest
  | string {word rest : List Char} (chars : IsCharacters word) :
      Written (.string word) ('"' :: word ++ '"' :: rest) rest
  | array {items : List Tree} {text after rest : List Char}
      (listed : WrittenItems true items text after) (gap : Spaced after (']' :: rest)) :
      Written (.array items) ('[' :: text) rest
  | object {members : List (List Char × Tree)} {text after rest : List Char}
      (listed : WrittenMembers true members text after) (gap : Spaced after ('\x7d' :: rest)) :
      Written (.object members) ('{' :: text) rest

/-- A text begins with items, of which the first may be the first of its list. -/
inductive WrittenItems : Bool → List Tree → List Char → List Char → Prop
  | nil {first : Bool} {text : List Char} : WrittenItems first [] text text
  | cons {first : Bool} {item : Tree} {items : List Tree} {text start after rest : List Char}
      (gap : Separated first text start) (written : Written item start after)
      (further : WrittenItems false items after rest) :
      WrittenItems first (item :: items) text rest

/-- A text begins with members, of which the first may be the first of its object. -/
inductive WrittenMembers : Bool → List (List Char × Tree) → List Char → List Char → Prop
  | nil {first : Bool} {text : List Char} : WrittenMembers first [] text text
  | cons {first : Bool} {key : List Char} {value : Tree} {members : List (List Char × Tree)}
      {text colon start after rest : List Char} (gap : Separated first text ('"' :: key ++ '"' :: colon))
      (chars : IsCharacters key) (beforeValue : ∃ more, Spaced colon (':' :: more) ∧ Spaced more start)
      (written : Written value start after) (further : WrittenMembers false members after rest) :
      WrittenMembers first ((key, value) :: members) text rest

end

/-- A whole text: one value, and space around it. -/
def IsText (tree : Tree) (text : List Char) : Prop :=
  ∃ start rest, Spaced text start ∧ Written tree start rest ∧ Spaced rest []

/-- Digits before a point are a number, also where no point follows. -/
theorem IsWhole.written {digits : List Char} (isWhole : IsWhole digits) (rest : List Char) :
    Written (.number digits) (digits ++ rest) rest := by
  have unsigned := IsUnsigned.parts isWhole .none .none
  rw [List.append_nil, List.append_nil] at unsigned
  exact .number (.positive unsigned)

/-! ### Space -/

theorem Spaced.refl (text : List Char) : Spaced text text :=
  ⟨[], isSpacing_nil, rfl⟩

theorem Spaced.trans {text between rest : List Char} (first : Spaced text between)
    (second : Spaced between rest) : Spaced text rest := by
  obtain ⟨gap, spacing, rfl⟩ := first
  obtain ⟨more, further, rfl⟩ := second
  refine ⟨gap ++ more, ?_, (List.append_assoc ..).symm⟩
  intro c member
  rcases List.mem_append.mp member with early | late
  · exact spacing c early
  · exact further c late

theorem Spaced.length_le {text rest : List Char} (spaced : Spaced text rest) :
    rest.length ≤ text.length := by
  obtain ⟨gap, -, rfl⟩ := spaced
  simp

theorem Separated.trans {first : Bool} {text between rest : List Char}
    (separated : Separated first text between) (spaced : Spaced between rest) :
    Separated first text rest := by
  cases first with
  | true => exact Spaced.trans separated spaced
  | false =>
    obtain ⟨after, before, behind⟩ := separated
    exact ⟨after, before, behind.trans spaced⟩

theorem Separated.length_le {first : Bool} {text rest : List Char}
    (separated : Separated first text rest) : rest.length ≤ text.length := by
  cases first with
  | true => exact Spaced.length_le separated
  | false =>
    obtain ⟨after, before, behind⟩ := separated
    have here := before.length_le
    have there := behind.length_le
    rw [List.length_cons] at here
    omega

/-! ### Values are not empty -/

theorem IsNumeral.ne_nil {word : List Char} (numeral : IsNumeral word) : word ≠ [] := by
  cases numeral with
  | negative unsigned => simp
  | positive unsigned =>
    cases unsigned with
    | parts first second third => cases first <;> simp

mutual

theorem Written.length_lt {tree : Tree} {text rest : List Char} (written : Written tree text rest) :
    rest.length < text.length := by
  cases written with
  | null => simp; omega
  | yes => simp; omega
  | no => simp; omega
  | number numeral =>
    have some := List.length_pos_iff.mpr numeral.ne_nil
    rw [List.length_append]
    omega
  | string chars => simp; omega
  | array listed gap =>
    have inner := WrittenItems.length_le listed
    have after := gap.length_le
    simp only [List.length_cons] at after ⊢
    omega
  | object listed gap =>
    have inner := WrittenMembers.length_add_le listed
    have after := gap.length_le
    simp only [List.length_cons] at after ⊢
    omega

theorem WrittenItems.length_le {first : Bool} {items : List Tree} {text rest : List Char}
    (listed : WrittenItems first items text rest) : rest.length ≤ text.length := by
  cases listed with
  | nil => exact Nat.le_refl _
  | cons gap written further =>
    have before := gap.length_le
    have item := Written.length_lt written
    have after := WrittenItems.length_le further
    omega

theorem WrittenMembers.length_add_le {first : Bool} {members : List (List Char × Tree)}
    {text rest : List Char} (listed : WrittenMembers first members text rest) :
    rest.length + members.length ≤ text.length := by
  cases listed with
  | nil => exact Nat.le_refl _
  | cons gap chars beforeValue written further =>
    obtain ⟨more, toColon, toValue⟩ := beforeValue
    have before := gap.length_le
    have colon := toColon.length_le
    have start := toValue.length_le
    have value := Written.length_lt written
    have after := WrittenMembers.length_add_le further
    simp only [List.length_cons, List.length_append] at before colon ⊢
    omega

end

end LanguageServer.Json
