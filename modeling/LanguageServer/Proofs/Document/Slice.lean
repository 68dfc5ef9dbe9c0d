import LanguageServer.Document
import LanguageServer.Proofs.Text.Lines

/-! What stands before a position, as a part of the raw text. The line of a position begins after as
many line feeds as its number says, and what stands before the position is taken from there on: up to
the position, or up to where the line ends if that comes first. -/

namespace LanguageServer

namespace Text

/-! ### The beginnings of lines -/

/-- A line begins in a text: as many line feeds are before it as its number says, the last of them
right before it, and something is left for it. -/
structure LineBegins (text : List Char) (line : Nat) (front rest : List Char) : Prop where
  split : text = front ++ rest
  count : front.count '\n' = line
  start : front = [] ∨ front.getLast? = some '\n'
  nonempty : rest ≠ []

def HasLine (text : List Char) (line : Nat) : Prop :=
  ∃ front rest, LineBegins text line front rest

theorem lineBegins_zero {text front rest : List Char} :
    LineBegins text 0 front rest ↔ front = [] ∧ rest = text ∧ text ≠ [] := by
  constructor
  · rintro ⟨rfl, count, start, nonempty⟩
    have none : '\n' ∉ front := List.count_eq_zero.mp count
    rcases start with rfl | last
    · exact ⟨rfl, rfl, nonempty⟩
    · exact absurd (List.mem_of_getLast? last) none
  · rintro ⟨rfl, rfl, nonempty⟩
    exact ⟨rfl, rfl, .inl rfl, nonempty⟩

theorem not_lineBegins_succ {text front rest : List Char} {line : Nat} (unbroken : '\n' ∉ text) :
    ¬ LineBegins text (line + 1) front rest := by
  rintro ⟨rfl, count, -, -⟩
  have none : front.count '\n' = 0 :=
    List.count_eq_zero.mpr fun member => unbroken (List.mem_append_left _ member)
  omega

theorem getLast?_feed {part front : List Char} :
    (part ++ '\n' :: front).getLast? = some '\n' ↔ front = [] ∨ front.getLast? = some '\n' := by
  cases front with
  | nil => simp
  | cons c front => simp [List.getLast?_append, List.getLast?_cons]

/-- A line feed that is passed by is one less to count. -/
theorem lineBegins_feed {part after rest : List Char} {line : Nat} (unbroken : '\n' ∉ part) :
    (∃ front, LineBegins (part ++ '\n' :: after) (line + 1) front rest) ↔
      ∃ front, LineBegins after line front rest := by
  have none : part.count '\n' = 0 := List.count_eq_zero.mpr unbroken
  constructor
  · rintro ⟨front, split, count, start, nonempty⟩
    rcases List.append_eq_append_iff.mp split with ⟨more, rfl, same⟩ | ⟨more, rfl, same⟩
    · rw [List.count_append, none, Nat.zero_add] at count
      cases more with
      | nil => simp at count
      | cons c more =>
        obtain ⟨rfl, rfl⟩ := List.cons.inj same
        refine ⟨more, rfl, ?_, ?_, nonempty⟩
        · rw [List.count_cons_self] at count
          omega
        · rcases start with absurdity | last
          · simp at absurdity
          · exact getLast?_feed.mp last
    · rw [List.count_append] at none
      omega
  · rintro ⟨front, rfl, count, start, nonempty⟩
    refine ⟨part ++ '\n' :: front, by simp, ?_, .inr (getLast?_feed.mpr start), nonempty⟩
    rw [List.count_append, none, List.count_cons_self, count, Nat.zero_add]

theorem not_lineBegins_nil {front rest : List Char} {line : Nat} : ¬ LineBegins [] line front rest :=
  fun begins => begins.nonempty (List.append_eq_nil_iff.mp begins.split.symm).2

/-- The lines after the first are the lines of what comes after it. -/
theorem FirstLine.lineBegins_succ {line back after rest : List Char} {number : Nat}
    (first : FirstLine line back after) :
    (∃ front, LineBegins (line ++ back) (number + 1) front rest) ↔
      ∃ front, LineBegins after number front rest := by
  obtain ⟨unbroken, -, ends⟩ := first
  cases ends with
  | last =>
    rw [List.append_nil]
    constructor
    · rintro ⟨front, begins⟩
      exact absurd begins (not_lineBegins_succ unbroken)
    · rintro ⟨front, begins⟩
      exact absurd begins not_lineBegins_nil
  | feed => exact lineBegins_feed unbroken
  | returned =>
    have returned : '\n' ∉ line ++ ['\r'] := by simpa using unbroken
    rw [List.append_cons]
    exact lineBegins_feed returned

/-- The lines of a text are the first lines of what is left of it where lines begin. -/
theorem lines_getElem? {text line : List Char} {number : Nat} :
    (lines text)[number]? = some line ↔
      ∃ rest, (∃ front, LineBegins text number front rest) ∧ (lines rest).head? = some line := by
  -- Each line that is passed by takes one line feed with it.
  induction number generalizing text with
  | zero =>
    rw [← List.head?_eq_getElem?]
    constructor
    · intro found
      have nonempty : text ≠ [] := by
        rintro rfl
        cases found
      exact ⟨text, ⟨[], lineBegins_zero.mpr ⟨rfl, rfl, nonempty⟩⟩, found⟩
    · rintro ⟨rest, ⟨front, begins⟩, found⟩
      obtain ⟨-, rfl, -⟩ := lineBegins_zero.mp begins
      exact found
  | succ number ih =>
    cases text with
    | nil =>
      constructor
      · intro found
        cases found
      · rintro ⟨rest, ⟨front, begins⟩, -⟩
        exact absurd begins not_lineBegins_nil
    | cons c text =>
      obtain ⟨first, back, after, split, isFirst, same⟩ := lines_first (List.cons_ne_nil c text)
      rw [same, List.getElem?_cons_succ, ih, split]
      simp only [isFirst.lineBegins_succ]

/-! ### Where the first line is cut -/

/-- Of two ways to cut a text, neither of them within a line end, the one where a line ends comes no
earlier than one before which no line ends. -/
theorem LineEnd.exists_append {line back slice rest after : List Char} (ends : LineEnd back after)
    (same : line ++ back = slice ++ rest) (unbroken : '\n' ∉ slice) (whole : ¬ Divides slice rest) :
    ∃ more, line = slice ++ more ∧ rest = more ++ back := by
  rcases List.append_eq_append_iff.mp same with ⟨more, rfl, split⟩ | shorter
  · have none : more = [] := by
      cases more with
      | nil => rfl
      | cons c more =>
        exfalso
        cases ends with
        | last => cases split
        | feed =>
          obtain ⟨rfl, -⟩ := List.cons.inj split
          simp at unbroken
        | returned =>
          obtain ⟨rfl, further⟩ := List.cons.inj split
          cases more with
          | nil =>
            obtain rfl : '\n' :: _ = rest := further
            exact whole ⟨List.getLast?_concat, rfl⟩
          | cons d more =>
            obtain ⟨rfl, -⟩ := List.cons.inj further
            simp at unbroken
    subst none
    exact ⟨[], by simp, split.symm⟩
  · exact shorter

/-- What stands before a character of the first line: so many characters, or all up to the end of the
line. -/
theorem FirstLine.take_eq_iff {line back after slice : List Char} {character : Nat}
    (first : FirstLine line back after) :
    line.take character = slice ↔
      ∃ rest, line ++ back = slice ++ rest ∧ '\n' ∉ slice ∧ ¬ Divides slice rest ∧
        (slice.length = character ∨ slice.length ≤ character ∧ ∃ after, LineEnd rest after) := by
  constructor
  · rintro rfl
    have whole := List.take_append_drop character line
    refine ⟨line.drop character ++ back, by rw [← List.append_assoc, whole],
      fun member => first.unbroken (List.mem_of_mem_take member), ?_, ?_⟩
    · rintro ⟨last, follows⟩
      cases left : line.drop character with
      | nil =>
        rw [left, List.append_nil] at whole
        rw [whole] at last
        rw [left, List.nil_append] at follows
        exact first.whole ⟨last, follows⟩
      | cons c more =>
        rw [left, List.cons_append, List.head?_cons, Option.some.injEq] at follows
        have member : c ∈ line := List.mem_of_mem_drop (left ▸ List.mem_cons_self)
        exact first.unbroken (follows ▸ member)
    · rcases Nat.le_total character line.length with within | beyond
      · exact .inl (List.length_take_of_le within)
      · rw [List.take_of_length_le beyond, List.drop_of_length_le beyond, List.nil_append]
        exact .inr ⟨beyond, after, first.ends⟩
  · rintro ⟨rest, same, unbroken, whole, reach⟩
    obtain ⟨more, rfl, rfl⟩ := first.ends.exists_append same unbroken whole
    rcases reach with rfl | ⟨short, after, ends⟩
    · exact List.take_left
    · obtain ⟨again, longer, -⟩ := ends.exists_append same.symm first.unbroken first.whole
      have none : more = [] := by
        have lengths := congrArg List.length longer
        simp only [List.length_append] at lengths
        exact List.eq_nil_of_length_eq_zero (by omega)
      rw [none, List.append_nil, List.take_of_length_le short]

end Text

namespace Document

open Text

/-! ### Documents -/

/-- A part of a text that stands before a position: it begins where the line of the position begins,
has no line end or half of one, and goes up to the position, or else up to the end of the line. -/
structure IsSlice (text : List Char) (position : Position) (front slice back : List Char) : Prop where
  begins : LineBegins text position.line front (slice ++ back)
  unbroken : '\n' ∉ slice
  whole : ¬ Divides slice back
  reach : slice.length = position.character ∨
    slice.length ≤ position.character ∧ ∃ after, LineEnd back after

theorem before?_eq_some {document : Document} {position : Position} {slice : List Char} :
    document.before? position = some slice ↔
      ∃ front back, IsSlice document.text.toList position front slice back := by
  rw [before?, document.lines_eq, Option.map_eq_some_iff]
  simp only [lines_getElem?]
  constructor
  · rintro ⟨line, ⟨rest, ⟨front, begins⟩, found⟩, taken⟩
    obtain ⟨first, back, after, rfl, isFirst, same⟩ := lines_first begins.nonempty
    rw [same, List.head?_cons, Option.some.injEq] at found
    obtain ⟨left, split, unbroken, whole, reach⟩ := isFirst.take_eq_iff.mp (found ▸ taken)
    exact ⟨front, left, split ▸ begins, unbroken, whole, reach⟩
  · rintro ⟨front, back, begins, unbroken, whole, reach⟩
    obtain ⟨first, ending, after, split, isFirst, same⟩ := lines_first begins.nonempty
    refine ⟨first, ⟨slice ++ back, ⟨front, begins⟩, by rw [same, List.head?_cons]⟩, ?_⟩
    exact isFirst.take_eq_iff.mpr ⟨back, split.symm, unbroken, whole, reach⟩

theorem before?_eq_none {document : Document} {position : Position} :
    document.before? position = none ↔ ¬ HasLine document.text.toList position.line := by
  rw [before?, document.lines_eq, Option.map_eq_none_iff]
  constructor
  · rintro none ⟨front, rest, begins⟩
    obtain ⟨first, back, after, -, -, same⟩ := lines_first begins.nonempty
    have found := lines_getElem?.mpr ⟨rest, ⟨front, begins⟩, by rw [same, List.head?_cons]⟩
    rw [none] at found
    cases found
  · intro missing
    apply Option.eq_none_iff_forall_ne_some.mpr
    intro line found
    obtain ⟨rest, ⟨front, begins⟩, -⟩ := lines_getElem?.mp found
    exact missing ⟨front, rest, begins⟩

def edited (document : Document) (edits : List (String × Int)) : Document :=
  edits.foldl (fun document edit => document.update edit.1 edit.2) document

/-- The text of the last of some edits, or the text before them if there are none. -/
def latest (text : String) (edits : List (String × Int)) : String :=
  (edits.map (·.1)).getLastD text

theorem edited_text (document : Document) (edits : List (String × Int)) :
    (document.edited edits).text = latest document.text edits := by
  induction edits generalizing document with
  | nil => rfl
  | cons edit edits ih =>
    rw [edited, List.foldl_cons, ← edited, ih, update, Lined.ofText_text, latest, latest,
      List.map_cons, List.getLastD_cons]

/-- Whatever its history, a document gives for a position what a new one with its latest text gives:
the part of this text that stands before the position, and nothing exactly if the text has no such
line. -/
theorem slice_of_latest_text (text : String) (version : Int) (edits : List (String × Int))
    (position : Position) :
    (∀ other, (edited ⟨text, version⟩ edits).before? position =
        before? ⟨latest text edits, other⟩ position) ∧
      (∀ slice, (edited ⟨text, version⟩ edits).before? position = some slice ↔
        ∃ front back, IsSlice (latest text edits).toList position front slice back) ∧
      ((edited ⟨text, version⟩ edits).before? position = none ↔
        ¬ HasLine (latest text edits).toList position.line) := by
  have present : (edited ⟨text, version⟩ edits).text = latest text edits := edited_text _ edits
  rw [← present]
  refine ⟨?_, fun slice => before?_eq_some, before?_eq_none⟩
  intro other
  rw [before?, before?, Lined.ofText_eq]

/-- Only one of two carriage returns belongs to the end of the line. -/
example : before? ⟨"a\r\r\nb\r", 1⟩ ⟨0, 9⟩ = some ['a', '\r'] := by decide +kernel

end Document

end LanguageServer
