import LanguageServer.Json.Printer
import LanguageServer.Json.Reader

/-! The texts of a JSON value: space between tokens, and how the characters of strings are escaped,
are free. What the printer writes is one of these texts. -/

namespace LanguageServer.Json

/-- Space that may stand between tokens. -/
def IsSpacing (text : List Char) : Prop :=
  ∀ c ∈ text, c = ' ' ∨ c = '\t' ∨ c = '\n' ∨ c = '\r'

/-! ### Characters and strings -/

/-- The letters that stand for a character after a backslash. -/
def letterEscapes : List (Char × Char) :=
  [('"', '"'), ('\\', '\\'), ('/', '/'), ('b', '\x08'), ('f', '\x0c'), ('n', '\n'), ('r', '\r'),
   ('t', '\t')]

/-- A hexadecimal digit, in either case, and its value. -/
def IsHexDigit (c : Char) (value : Nat) : Prop :=
  value < 16 ∧ (c = Nat.digitChar value ∨ c = (Nat.digitChar value).toUpper)

/-- Four hexadecimal digits and their value. -/
inductive IsUnit : List Char → Nat → Prop
  | digits {a b c d : Char} {first second third fourth value : Nat} (one : IsHexDigit a first)
      (two : IsHexDigit b second) (three : IsHexDigit c third) (four : IsHexDigit d fourth)
      (sum : value = 4096 * first + 256 * second + 16 * third + fourth) : IsUnit [a, b, c, d] value

/-- The ways to write a character in a string: as it is, as a letter after a backslash, or as one or
two units of sixteen bits. -/
inductive SpellsChar : Char → List Char → Prop
  | plain {c : Char} (printable : 0x20 ≤ c.toNat) (quote : c ≠ '"') (backslash : c ≠ '\\') :
      SpellsChar c [c]
  | letter {c letter : Char} (known : (letter, c) ∈ letterEscapes) : SpellsChar c ['\\', letter]
  | unit {c : Char} {digits : List Char} (value : IsUnit digits c.toNat) :
      SpellsChar c ('\\' :: 'u' :: digits)
  | pair {c : Char} {high low : List Char} {leading trailing : Nat} (first : IsUnit high leading)
      (second : IsUnit low trailing) (isLeading : 0xD800 ≤ leading ∧ leading ≤ 0xDBFF)
      (isTrailing : 0xDC00 ≤ trailing ∧ trailing ≤ 0xDFFF)
      (value : c.toNat = 0x10000 + (leading - 0xD800) * 0x400 + (trailing - 0xDC00)) :
      SpellsChar c ('\\' :: 'u' :: high ++ '\\' :: 'u' :: low)

/-- The ways to write characters one after the other. -/
inductive SpellsChars : List Char → List Char → Prop
  | nil : SpellsChars [] []
  | cons {c : Char} {chars text rest : List Char} (first : SpellsChar c text)
      (further : SpellsChars chars rest) : SpellsChars (c :: chars) (text ++ rest)

inductive SpellsString (value : String) : List Char → Prop
  | quoted {text : List Char} (chars : SpellsChars value.toList text) :
      SpellsString value ('"' :: text ++ ['"'])

/-! ### Values -/

mutual

/-- The ways to write a value. The only numbers are natural ones; they are written in one way. -/
inductive Spells : Json → List Char → Prop
  | null : Spells .null ['n', 'u', 'l', 'l']
  | yes : Spells (.bool true) ['t', 'r', 'u', 'e']
  | no : Spells (.bool false) ['f', 'a', 'l', 's', 'e']
  | number (value : Nat) : Spells (Json.nat value) (Nat.toDigits 10 value)
  | string {value : String} {text : List Char} (spelled : SpellsString value text) :
      Spells (.string value) text
  | emptyArray {space : List Char} (spacing : IsSpacing space) :
      Spells (.array []) ('[' :: space ++ [']'])
  | array {items : List Json} {text : List Char} (spelled : SpellsItems items text) :
      Spells (.array items) ('[' :: text ++ [']'])
  | emptyObject {space : List Char} (spacing : IsSpacing space) :
      Spells (.object []) ('{' :: space ++ ['\x7d'])
  | object {members : List (String × Json)} {text : List Char}
      (spelled : SpellsMembers members text) : Spells (.object members) ('{' :: text ++ ['\x7d'])

/-- The ways to write items with commas between them, at least one. -/
inductive SpellsItems : List Json → List Char → Prop
  | last {item : Json} {left text right : List Char} (before : IsSpacing left)
      (spelled : Spells item text) (after : IsSpacing right) :
      SpellsItems [item] (left ++ text ++ right)
  | more {item : Json} {items : List Json} {left text right rest : List Char}
      (before : IsSpacing left) (spelled : Spells item text) (after : IsSpacing right)
      (further : SpellsItems items rest) :
      SpellsItems (item :: items) (left ++ text ++ right ++ ',' :: rest)

inductive SpellsMember : String × Json → List Char → Prop
  | member {key : String} {value : Json} {left name between gap text right : List Char}
      (before : IsSpacing left) (named : SpellsString key name) (afterKey : IsSpacing between)
      (beforeValue : IsSpacing gap) (spelled : Spells value text) (after : IsSpacing right) :
      SpellsMember (key, value) (left ++ name ++ between ++ ':' :: gap ++ text ++ right)

/-- The ways to write members with commas between them, at least one. -/
inductive SpellsMembers : List (String × Json) → List Char → Prop
  | last {member : String × Json} {text : List Char} (spelled : SpellsMember member text) :
      SpellsMembers [member] text
  | more {member : String × Json} {members : List (String × Json)} {text rest : List Char}
      (spelled : SpellsMember member text) (further : SpellsMembers members rest) :
      SpellsMembers (member :: members) (text ++ ',' :: rest)

end

/-! ### What the printer writes -/

theorem isSpacing_nil : IsSpacing [] := by
  intro c membership
  cases membership

theorem isHexDigit_hexChar (digit : Nat) (small : digit < 16) : IsHexDigit (hexChar digit) digit := by
  refine ⟨small, .inl ?_⟩
  have all : ∀ digit < 16, hexChar digit = Nat.digitChar digit := by decide
  exact all digit small

theorem spellsChar_writeChar (c : Char) : SpellsChar c (writeChar c) := by
  unfold writeChar
  split
  · exact .letter (by decide)
  · exact .letter (by decide)
  · exact .letter (by decide)
  · exact .letter (by decide)
  · exact .letter (by decide)
  · exact .letter (by decide)
  · exact .letter (by decide)
  · rename_i quote backslash _ _ _ _ _
    split
    · rename_i control
      have zero : IsHexDigit '0' 0 := isHexDigit_hexChar 0 (by decide)
      have high := isHexDigit_hexChar (c.toNat / 16) (by omega)
      have low := isHexDigit_hexChar (c.toNat % 16) (by omega)
      exact .unit (.digits zero zero high low (by omega))
    · rename_i printable
      exact .plain (Nat.le_of_not_lt printable) quote backslash

theorem spellsChars_write (chars : List Char) : SpellsChars chars (chars.flatMap writeChar) := by
  induction chars with
  | nil => exact .nil
  | cons c rest ih => exact .cons (spellsChar_writeChar c) ih

theorem spellsString_write (value : String) : SpellsString value (writeString value) :=
  .quoted (spellsChars_write value.toList)

theorem spells_number (value : Nat) : Spells (Json.nat value) (write (Json.nat value)) := by
  have digits : write (Json.nat value) = Nat.toDigits 10 value := by
    rw [Json.nat, write, writeNumber]
    exact String.toList_ofList
  rw [digits]
  exact .number value

theorem spells_string (value : String) : Spells (.string value) (write (.string value)) := by
  rw [write]
  exact .string (spellsString_write value)

theorem spellsItems_write (item : Json) (items : List Json)
    (each : ∀ other ∈ item :: items, Spells other (write other)) :
    SpellsItems (item :: items) (writeItems (item :: items)) := by
  induction items generalizing item with
  | nil =>
    have one := SpellsItems.last isSpacing_nil (each item (List.mem_cons_self ..)) isSpacing_nil
    rw [writeItems]
    simpa using one
  | cons next items ih =>
    have further := ih next fun other membership => each other (List.mem_cons_of_mem _ membership)
    have more := SpellsItems.more isSpacing_nil (each item (List.mem_cons_self ..)) isSpacing_nil
      further
    rw [writeItems]
    · simpa using more
    · simp

theorem spells_array (items : List Json) (each : ∀ item ∈ items, Spells item (write item)) :
    Spells (.array items) (write (.array items)) := by
  rw [write]
  cases items with
  | nil => exact .emptyArray isSpacing_nil
  | cons item items => exact .array (spellsItems_write item items each)

theorem spellsMember_write (member : String × Json) (spelled : Spells member.2 (write member.2)) :
    SpellsMember member (writeString member.1 ++ ':' :: write member.2) := by
  have one := SpellsMember.member isSpacing_nil (spellsString_write member.1) isSpacing_nil
    isSpacing_nil spelled isSpacing_nil
  simpa using one

theorem spellsMembers_write (member : String × Json) (members : List (String × Json))
    (each : ∀ other ∈ member :: members, Spells other.2 (write other.2)) :
    SpellsMembers (member :: members) (writeMembers (member :: members)) := by
  induction members generalizing member with
  | nil =>
    rw [writeMembers]
    exact .last (spellsMember_write member (each member (List.mem_cons_self ..)))
  | cons next members ih =>
    have further := ih next fun other membership => each other (List.mem_cons_of_mem _ membership)
    have more := SpellsMembers.more
      (spellsMember_write member (each member (List.mem_cons_self ..))) further
    rw [writeMembers]
    · simpa using more
    · simp

theorem spells_object (members : List (String × Json))
    (each : ∀ member ∈ members, Spells member.2 (write member.2)) :
    Spells (.object members) (write (.object members)) := by
  rw [write]
  cases members with
  | nil => exact .emptyObject isSpacing_nil
  | cons member members => exact .object (spellsMembers_write member members each)

end LanguageServer.Json
