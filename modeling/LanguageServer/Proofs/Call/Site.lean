import Mathlib.Data.List.TakeWhile
import LanguageServer.Diagnostic
import LanguageServer.Document
import LanguageServer.Proofs.Call.Definition
import LanguageServer.Proofs.Text.Lines
import LanguageServer.Proofs.Text.Word

/-! The search for a definition finds the first one that a text has, and only that. What a definition
looks like is said here without the search. -/

namespace LanguageServer.Call

open Text

/-! ### Definitions in a text -/

/-- A text starts with a name and a parameter list, with nothing but blanks between them. -/
def HasParameters (name text : List Char) : Prop :=
  ∃ gap rest, text = name ++ (gap ++ '(' :: rest) ∧ ∀ c ∈ gap, isBlank c = true

/-- A text starts with a definition, whose name is `offset` characters away. -/
def IsDefinition (name text : List Char) (offset : Nat) : Prop :=
  ∃ blanks after, text = 'f' :: 'n' :: (blanks ++ after) ∧ blanks ≠ [] ∧
    (∀ c ∈ blanks, isBlank c = true) ∧ HasParameters name after ∧ offset = blanks.length + 2

/-- A line has a definition whose name stands at a column, and whose keyword does not follow a word
character. Whether one stands right before the line is `inWord`. -/
def DefinesAt (name line : List Char) (inWord : Bool) (column : Nat) : Prop :=
  ∃ front text offset, line = front ++ text ∧ front.getLast?.elim inWord isWord = false ∧
    IsDefinition name text offset ∧ column = front.length + offset

/-- A text has a definition whose name stands at a site. -/
def DefinedAt (text name : List Char) (site : Site) : Prop :=
  ∃ line, (lines text)[site.line]? = some line ∧ DefinesAt name line false site.column

/-- A site comes before another one of a text, or is that one. -/
def Site.upTo (site other : Site) : Prop :=
  site.line < other.line ∨ site.line = other.line ∧ site.column ≤ other.column

theorem Site.upTo_antisymm {site other : Site} (before : site.upTo other) (after : other.upTo site) :
    site = other := by
  unfold Site.upTo at before after
  obtain ⟨line, column⟩ := site
  obtain ⟨otherLine, otherColumn⟩ := other
  simp only [Site.mk.injEq] at *
  omega

/-! ### The definition that starts a text -/

theorem namedHere_iff {name text : List Char} :
    namedHere name text = true ↔ HasParameters name text := by
  constructor
  · intro named
    unfold namedHere at named
    split at named
    · cases named
    next rest found =>
      obtain ⟨more, opened⟩ := List.head?_eq_some_iff.mp (eq_of_beq named)
      refine ⟨rest.takeWhile isBlank, more, ?_, fun c member => List.mem_takeWhile_imp member⟩
      rw [← opened, List.takeWhile_append_dropWhile]
      exact (List.append_eq_of_isPrefixOf?_eq_some found).symm
  · rintro ⟨gap, rest, rfl, blank⟩
    have dropped : (gap ++ '(' :: rest).dropWhile isBlank = '(' :: rest := by
      rw [List.dropWhile_append_of_pos blank]
      exact List.dropWhile_cons_of_neg (by decide)
    rw [namedHere, List.isPrefixOf?_eq_some_iff_append_eq.mpr rfl]
    simp only [dropped, List.head?_cons, beq_self_eq_true]

section

variable {name : List Char} (nonempty : name ≠ []) (identifier : ∀ c ∈ name, isIdentifier c = true)
include nonempty identifier

theorem HasParameters.head {text : List Char} (has : HasParameters name text) :
    ∃ c rest, text = c :: rest ∧ isBlank c = false := by
  obtain ⟨gap, rest, rfl, blank⟩ := has
  obtain ⟨c, more, rfl⟩ := List.exists_cons_of_ne_nil nonempty
  exact ⟨c, _, rfl, not_isBlank_of_isIdentifier (identifier c List.mem_cons_self)⟩

/-- The name is not found among the blanks before it. -/
theorem blanksBefore?_of_lt {text : List Char} {most : Nat}
    (fewer : most < (text.takeWhile isBlank).length) : blanksBefore? name text most = none := by
  induction most with
  | zero => rfl
  | succ most ih =>
    have unnamed : ¬ namedHere name (text.drop (most + 1)) = true := by
      intro named
      obtain ⟨c, rest, same, solid⟩ := (namedHere_iff.mp named).head nonempty identifier
      have next : text[most + 1]? = some c := by
        rw [← List.head?_drop, same]
        rfl
      have blank := List.prefix_iff_getElem?.mp (List.takeWhile_prefix isBlank) (most + 1) fewer
      rw [next, Option.some.injEq] at blank
      have among : c ∈ text.takeWhile isBlank := blank ▸ List.getElem_mem fewer
      rw [List.mem_takeWhile_imp among] at solid
      cases solid
    rw [blanksBefore?, if_neg unnamed]
    exact ih (by omega)

/-- So all blanks that can be are before the name. -/
theorem blanksBefore?_eq_some {text : List Char} {blanks : Nat} :
    blanksBefore? name text (text.takeWhile isBlank).length = some blanks ↔
      blanks = (text.takeWhile isBlank).length ∧ blanks ≠ 0 ∧
        HasParameters name (text.dropWhile isBlank) := by
  have dropped : text.drop (text.takeWhile isBlank).length = text.dropWhile isBlank := by
    have parts := List.takeWhile_append_dropWhile (p := isBlank) (l := text)
    exact (congrArg (List.drop _) parts.symm).trans List.drop_left
  cases count : (text.takeWhile isBlank).length with
  | zero =>
    simp only [blanksBefore?, reduceCtorEq, false_iff]
    rintro ⟨same, filled, _⟩
    exact filled same
  | succ most =>
    rw [count] at dropped
    by_cases named : namedHere name (text.dropWhile isBlank) = true
    · rw [blanksBefore?, dropped, if_pos named, Option.some.injEq]
      constructor
      · intro same
        subst same
        exact ⟨rfl, Nat.succ_ne_zero most, namedHere_iff.mp named⟩
      · rintro ⟨same, _, _⟩
        exact same.symm
    · rw [blanksBefore?, dropped, if_neg named,
        blanksBefore?_of_lt nonempty identifier (by omega)]
      constructor
      · intro found
        cases found
      · rintro ⟨_, _, has⟩
        exact absurd (namedHere_iff.mpr has) named

theorem definitionHere?_eq_some {text : List Char} {offset : Nat} :
    definitionHere? name text = some offset ↔ IsDefinition name text offset := by
  constructor
  · intro found
    unfold definitionHere? at found
    split at found
    · cases found
    next rest keyword =>
      obtain ⟨count, before, rfl⟩ := Option.map_eq_some_iff.mp found
      obtain ⟨same, filled, has⟩ := (blanksBefore?_eq_some nonempty identifier).mp before
      refine ⟨rest.takeWhile isBlank, rest.dropWhile isBlank, ?_, ?_, ?_, has, by rw [same]⟩
      · rw [List.takeWhile_append_dropWhile]
        exact (List.append_eq_of_isPrefixOf?_eq_some keyword).symm
      · exact List.ne_nil_of_length_pos (by omega)
      · exact fun c member => List.mem_takeWhile_imp member
  · rintro ⟨blanks, after, rfl, filled, blank, has, rfl⟩
    obtain ⟨c, rest, rfl, solid⟩ := has.head nonempty identifier
    have kept : (blanks ++ c :: rest).takeWhile isBlank = blanks := by
      rw [List.takeWhile_append_of_pos blank, List.takeWhile_cons_of_neg (by simp [solid]),
        List.append_nil]
    have dropped : (blanks ++ c :: rest).dropWhile isBlank = c :: rest := by
      rw [List.dropWhile_append_of_pos blank, List.dropWhile_cons_of_neg (by simp [solid])]
    have before : blanksBefore? name (blanks ++ c :: rest)
        ((blanks ++ c :: rest).takeWhile isBlank).length = some blanks.length := by
      rw [blanksBefore?_eq_some nonempty identifier, kept, dropped]
      exact ⟨rfl, List.length_eq_zero_iff.not.mpr filled, has⟩
    have keyword : ['f', 'n'].isPrefixOf? ('f' :: 'n' :: (blanks ++ c :: rest)) =
        some (blanks ++ c :: rest) := List.isPrefixOf?_eq_some_iff_append_eq.mpr rfl
    rw [definitionHere?, keyword]
    simp only [before, Option.map_some]

end

/-! ### The first definition of a line -/

/-- The keyword of a later definition stands behind everything that is before the name. -/
theorem IsDefinition.le {name text front rest : List Char} {offset : Nat}
    (here : IsDefinition name text offset) (later : text = front ++ 'f' :: rest)
    (filled : front ≠ []) : offset ≤ front.length := by
  obtain ⟨blanks, after, rfl, _, blank, _, rfl⟩ := here
  obtain ⟨c, more, rfl⟩ := List.exists_cons_of_ne_nil filled
  obtain ⟨_, later⟩ := List.cons.inj later
  cases more with
  | nil => cases later
  | cons d more =>
    obtain ⟨_, later⟩ := List.cons.inj later
    simp only [List.length_cons, Nat.add_le_add_iff_right]
    rcases List.append_eq_append_iff.mp later with ⟨gone, rfl, _⟩ | ⟨left, rfl, within⟩
    · simp
    · cases left with
      | nil => simp
      | cons e left =>
        rw [List.cons_append] at within
        have keyword := (List.cons.inj within).1
        have blank := blank e (by simp)
        rw [← keyword] at blank
        exact absurd blank (by decide)

theorem definesAt_cons {name rest : List Char} {c : Char} {inWord : Bool} {column : Nat} :
    DefinesAt name (c :: rest) inWord column ↔
      inWord = false ∧ IsDefinition name (c :: rest) column ∨
        ∃ place, column = place + 1 ∧ DefinesAt name rest (isWord c) place := by
  have apart_cons (front : List Char) :
      (c :: front).getLast?.elim inWord isWord = front.getLast?.elim (isWord c) isWord := by
    rw [List.getLast?_cons]
    cases front.getLast? <;> rfl
  constructor
  · rintro ⟨front, text, offset, split, apart, here, rfl⟩
    cases front with
    | nil =>
      refine .inl ⟨apart, ?_⟩
      rw [split, List.length_nil, Nat.zero_add]
      exact here
    | cons d front =>
      obtain ⟨rfl, rfl⟩ := List.cons.inj split
      refine .inr ⟨front.length + offset, ?_, front, text, offset, rfl, ?_, here, rfl⟩
      · rw [List.length_cons]
        omega
      · rw [← apart_cons]
        exact apart
  · rintro (⟨apart, here⟩ | ⟨_, rfl, front, text, offset, rfl, apart, here, rfl⟩)
    · exact ⟨[], c :: rest, column, rfl, apart, here, (Nat.zero_add column).symm⟩
    · refine ⟨c :: front, text, offset, rfl, ?_, here, ?_⟩
      · rw [apart_cons]
        exact apart
      · rw [List.length_cons]
        omega

section

variable {name : List Char} (nonempty : name ≠ []) (identifier : ∀ c ∈ name, isIdentifier c = true)
include nonempty identifier

theorem not_definesAt_of_columnFrom?_none {text : List Char} {column : Nat} {inWord : Bool}
    (missing : columnFrom? name column inWord text = none) (place : Nat) :
    ¬ DefinesAt name text inWord place := by
  fun_induction columnFrom? name column inWord text generalizing place with
  | case1 column inWord =>
    rintro ⟨front, text, offset, split, _, ⟨blanks, after, rfl, _⟩, _⟩
    simp at split
  | case2 => cases missing
  | case3 column inWord c rest absent ih =>
    rw [definesAt_cons]
    rintro (⟨rfl, here⟩ | ⟨place, rfl, later⟩)
    · rw [if_neg Bool.false_ne_true, (definitionHere?_eq_some nonempty identifier).mpr here] at absent
      cases absent
    · exact ih missing place later

/-- The definition that is found is that with the least column: where one starts, no other one has
its name further to the left. -/
theorem definesAt_of_columnFrom? {text : List Char} {column found : Nat} {inWord : Bool}
    (here : columnFrom? name column inWord text = some found) :
    ∃ place, found = column + place ∧ DefinesAt name text inWord place ∧
      ∀ other, DefinesAt name text inWord other → place ≤ other := by
  fun_induction columnFrom? name column inWord text with
  | case1 => cases here
  | case2 column inWord c rest offset starts =>
    cases here
    cases inWord with
    | true => cases starts
    | false =>
      have first := (definitionHere?_eq_some nonempty identifier).mp starts
      refine ⟨offset, rfl, definesAt_cons.mpr (.inl ⟨rfl, first⟩), ?_⟩
      rintro other ⟨front, text, distance, split, _, second, rfl⟩
      by_cases empty : front = []
      · rw [empty, List.nil_append] at split
        rw [← split, ← definitionHere?_eq_some nonempty identifier] at second
        have same : offset = distance := Option.some.inj (starts.symm.trans second)
        omega
      · -- Between this keyword and the name are blanks only, so the other keyword is behind them.
        obtain ⟨blanks, after, rfl, _⟩ := second
        have behind := first.le split empty
        omega
  | case3 column inWord c rest absent ih =>
    obtain ⟨place, rfl, defines, least⟩ := ih here
    refine ⟨place + 1, by omega, definesAt_cons.mpr (.inr ⟨place, rfl, defines⟩), ?_⟩
    intro other elsewhere
    rcases definesAt_cons.mp elsewhere with ⟨rfl, starts⟩ | ⟨further, rfl, later⟩
    · rw [if_neg Bool.false_ne_true, (definitionHere?_eq_some nonempty identifier).mpr starts]
        at absent
      cases absent
    · exact Nat.succ_le_succ (least further later)

/-! ### The first definition of a text -/

theorem not_definesAt_of_siteFrom?_none {texts : List (List Char)} {line : Nat}
    (missing : siteFrom? name line texts = none) {text : List Char} (member : text ∈ texts)
    (place : Nat) : ¬ DefinesAt name text false place := by
  fun_induction siteFrom? name line texts with
  | case1 => cases member
  | case2 => cases missing
  | case3 line first more absent ih =>
    rcases List.mem_cons.mp member with rfl | further
    · exact not_definesAt_of_columnFrom?_none nonempty identifier absent place
    · exact ih missing further

theorem definesAt_of_siteFrom? {texts : List (List Char)} {line : Nat} {site : Site}
    (found : siteFrom? name line texts = some site) :
    ∃ place text, site.line = line + place ∧ texts[place]? = some text ∧
      DefinesAt name text false site.column ∧
      ∀ other another column, texts[other]? = some another →
        DefinesAt name another false column →
          place < other ∨ place = other ∧ site.column ≤ column := by
  fun_induction siteFrom? name line texts with
  | case1 => cases found
  | case2 line text more column here =>
    cases found
    obtain ⟨place, rfl, defines, least⟩ := definesAt_of_columnFrom? nonempty identifier here
    rw [Nat.zero_add]
    refine ⟨0, text, rfl, rfl, defines, ?_⟩
    intro other another column present elsewhere
    cases other with
    | zero =>
      obtain rfl := Option.some.inj present
      exact .inr ⟨rfl, least column elsewhere⟩
    | succ other => exact .inl (Nat.succ_pos other)
  | case3 line first more absent ih =>
    obtain ⟨place, text, same, present, defines, least⟩ := ih found
    refine ⟨place + 1, text, by omega, present, defines, ?_⟩
    intro other another column further elsewhere
    cases other with
    | zero =>
      obtain rfl := Option.some.inj further
      exact absurd elsewhere
        (not_definesAt_of_columnFrom?_none nonempty identifier absent column)
    | succ other =>
      have := least other another column further elsewhere
      omega

theorem definition?_eq_none {text : List Char} :
    definition? text name = none ↔ ∀ site, ¬ DefinedAt text name site := by
  constructor
  · rintro missing site ⟨line, present, defines⟩
    exact not_definesAt_of_siteFrom?_none nonempty identifier missing
      (List.mem_of_getElem? present) site.column defines
  · intro undefined
    apply Option.eq_none_iff_forall_ne_some.mpr
    intro site found
    obtain ⟨place, line, same, present, defines, _⟩ :=
      definesAt_of_siteFrom? nonempty identifier found
    rw [Nat.zero_add] at same
    exact undefined site ⟨line, same ▸ present, defines⟩

theorem first_of_definition? {text : List Char} {site : Site}
    (found : definition? text name = some site) :
    DefinedAt text name site ∧ ∀ other, DefinedAt text name other → site.upTo other := by
  obtain ⟨place, line, same, present, defines, least⟩ :=
    definesAt_of_siteFrom? nonempty identifier found
  rw [Nat.zero_add] at same
  subst same
  refine ⟨⟨line, present, defines⟩, ?_⟩
  rintro other ⟨another, further, elsewhere⟩
  exact least other.line another other.column further elsewhere

theorem definition?_eq_some {text : List Char} {site : Site} :
    definition? text name = some site ↔
      DefinedAt text name site ∧ ∀ other, DefinedAt text name other → site.upTo other := by
  constructor
  · exact first_of_definition? nonempty identifier
  · rintro ⟨defined, least⟩
    cases found : definition? text name with
    | none => exact absurd defined ((definition?_eq_none nonempty identifier).mp found site)
    | some first =>
      obtain ⟨also, before⟩ := first_of_definition? nonempty identifier found
      rw [Site.upTo_antisymm (before site defined) (least first also)]

end

/-- The site of a definition is one that the editor can be told of, unless the text has more
characters than there are positions. -/
theorem site_le_maxPosition {text name : List Char} {site : Site} (nonempty : name ≠ [])
    (found : definition? text name = some site) (short : text.length ≤ maxPosition) :
    site.line ≤ maxPosition ∧ site.column ≤ maxPosition := by
  obtain ⟨line, present, rest, stands⟩ := named_of_definition found
  obtain ⟨inside, same⟩ := List.getElem?_eq_some_iff.mp present
  obtain ⟨count, long⟩ := lines_within text
  have member : line ∈ lines text := same ▸ List.getElem_mem inside
  have before : site.column < line.length := by
    by_contra behind
    rw [List.drop_eq_nil_of_le (Nat.le_of_not_lt behind)] at stands
    exact nonempty (List.append_eq_nil_iff.mp stands).1
  have width := long line member
  omega

theorem before?_of_namedAt {document : Document} {name : List Char} {site : Site}
    (named : NamedAt document.text.toList name site) :
    ∃ before, document.before? ⟨site.line, site.column⟩ = some before ∧
      document.before? ⟨site.line, site.column + name.length⟩ = some (before ++ name) := by
  obtain ⟨line, present, rest, stands⟩ := named
  refine ⟨line.take site.column, ?_, ?_⟩
  · rw [Document.before?, document.lines_eq, present, Option.map_some]
  · rw [Document.before?, document.lines_eq, present, Option.map_some, List.take_add, ← stands,
      List.take_left]

/-- A function's definition is found exactly if the document has one. The first one is found, and
its site is one of the document: what stands before the end of the name is what stands before the
name, and the name. -/
theorem first_definition_found (document : Document) {name : List Char} (nonempty : name ≠ [])
    (identifier : ∀ c ∈ name, isIdentifier c = true) :
    (definition? document.text.toList name = none ↔
      ∀ site, ¬ DefinedAt document.text.toList name site) ∧
    ∀ site,
      (definition? document.text.toList name = some site ↔
        DefinedAt document.text.toList name site ∧
          ∀ other, DefinedAt document.text.toList name other → site.upTo other) ∧
      (definition? document.text.toList name = some site →
        ∃ before, document.before? ⟨site.line, site.column⟩ = some before ∧
          document.before? ⟨site.line, site.column + name.length⟩ = some (before ++ name)) := by
  refine ⟨definition?_eq_none nonempty identifier, ?_⟩
  intro site
  refine ⟨definition?_eq_some nonempty identifier, ?_⟩
  intro found
  exact before?_of_namedAt (named_of_definition found)

/-- The first line calls the function and has the keyword only within a word. -/
theorem first_definition_found_area :
    let document : Document := ⟨"afn area(1)\r\n  fn \u00a0area (w) fn area(h)\nfn area()", 1⟩
    DefinedAt document.text.toList "area".toList ⟨1, 6⟩ ∧
      (∀ other, DefinedAt document.text.toList "area".toList other → Site.upTo ⟨1, 6⟩ other) ∧
      ∃ before, document.before? ⟨1, 6⟩ = some before ∧
        document.before? ⟨1, 10⟩ = some (before ++ "area".toList) := by
  intro document
  have found : definition? document.text.toList "area".toList = some ⟨1, 6⟩ := by decide +kernel
  have nonempty : "area".toList ≠ [] := by decide +kernel
  have identifier : "area".toList.all isIdentifier = true := by decide +kernel
  obtain ⟨_, first⟩ := first_definition_found document nonempty (List.all_eq_true.mp identifier)
  obtain ⟨least, read⟩ := first ⟨1, 6⟩
  obtain ⟨defined, before⟩ := least.mp found
  exact ⟨defined, before, read found⟩

end LanguageServer.Call
