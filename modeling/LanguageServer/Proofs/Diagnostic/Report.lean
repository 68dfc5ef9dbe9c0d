import LanguageServer.Proofs.Diagnostic.Grammar
import LanguageServer.Proofs.Text.Lines

/-! Reports line by line. What a report says is what its parts between line feeds say, one after the
other, so reports can be joined and it makes no difference whether lines end in a carriage return. -/

namespace LanguageServer.Diagnostic

open Text

/-! ### A carriage return at the end of a line -/

theorem Head.text_ends (head : Head) : ∃ front, head.text = front ++ [' '] := by
  refine ⟨[':'] ++ head.line ++ [':'] ++ head.column ++ rangeText head.endColumn ++ [':', ' '] ++
    head.severity.tag.toList ++ [':'], ?_⟩
  simp [Head.text]

/-- A head does not end in a carriage return, so what comes after it does. -/
theorem head?_return (text : List Char) :
    head? (text ++ ['\r']) = (head? text).map fun found => (found.1, found.2 ++ ['\r']) := by
  cases read : head? text with
  | some found =>
    obtain ⟨head, after⟩ := found
    obtain ⟨proper, split⟩ := head?_eq_some read
    rw [Option.map_some, head?_eq_some_iff]
    exact ⟨proper, by rw [split, List.append_assoc]⟩
  | none =>
    rw [Option.map_none]
    apply Option.eq_none_iff_forall_ne_some.mpr
    intro found same
    obtain ⟨head, after⟩ := found
    obtain ⟨proper, split⟩ := head?_eq_some same
    rcases List.eq_nil_or_concat after with empty | ⟨inner, last, whole⟩
    · obtain ⟨front, ends⟩ := head.text_ends
      rw [empty, List.append_nil, ends] at split
      have differs := (List.append_inj' split rfl).2
      simp at differs
    · rw [whole, List.concat_eq_append, ← List.append_assoc] at split
      obtain ⟨before, -⟩ := List.append_inj' split rfl
      rw [before, head?_text head proper inner] at read
      cases read

theorem findHead?_return (text : List Char) :
    findHead? (text ++ ['\r']) = (findHead? text).map fun found => (found.1, found.2 ++ ['\r']) := by
  induction text with
  | nil => rfl
  | cons c rest ih =>
    have front := head?_return (c :: rest)
    rw [List.cons_append] at front ⊢
    rw [findHead?, findHead?, front]
    cases head? (c :: rest) with
    | some found => rfl
    | none => exact ih

theorem trim_return (text : List Char) : trim (text ++ ['\r']) = trim text := by
  obtain ⟨⟨left, right, split, leftBlank, rightBlank⟩, first, last⟩ := isTrimmed_trim text
  have blank : ∀ c ∈ right ++ ['\r'], isBlank c = true := by
    intro c member
    rcases List.mem_append.mp member with inside | returned
    · exact rightBlank c inside
    · rw [List.mem_singleton.mp returned]
      decide
  have trimmed : IsTrimmed (text ++ ['\r']) (trim text) := by
    refine ⟨⟨left, right ++ ['\r'], ?_, leftBlank, blank⟩, first, last⟩
    conv_lhs => rw [split]
    simp
  exact trimmed.eq_trim.symm

theorem lastPart_return (line : List Char) : lastPart (line ++ ['\r']) = lastPart line ++ ['\r'] := by
  simp [lastPart]

theorem ofLine?_return (line : List Char) : ofLine? (line ++ ['\r']) = ofLine? line := by
  rw [ofLine?, lastPart_return, findHead?_return, Option.map_map, ofLine?]
  congr 1
  funext found
  exact congrArg (fun text => Diagnostic.mk found.1.severity found.1.span (String.ofList text))
    (trim_return found.2)

theorem ofLine?_chomp (part : List Char) : ofLine? (chomp part) = ofLine? part := by
  rcases chomp_cases part with same | returned
  · rw [← same]
  · conv_rhs => rw [returned, ofLine?_return]

/-! ### Whole reports -/

theorem filterMap_ended (parts : List (List Char)) :
    (ended parts).filterMap ofLine? = parts.filterMap ofLine? := by
  fun_induction ended parts with
  | case1 => rfl
  | case2 => rfl
  | case3 last nonempty => rfl
  | case4 part next parts ih =>
    rw [List.filterMap_cons, List.filterMap_cons, ih, ofLine?_chomp]

/-- Each part of a report between line feeds says at most one thing, whatever the others say. -/
theorem ofReport_eq_filterMap (report : List Char) :
    ofReport report = (report.splitOn '\n').filterMap ofLine? := by
  rw [ofReport, lines_eq_ended, filterMap_ended]

theorem ofReport_append (first second : List Char) :
    ofReport (first ++ '\n' :: second) = ofReport first ++ ofReport second := by
  simp only [ofReport_eq_filterMap, splitOn_feed, List.filterMap_append]

theorem ofReport_unbroken {line : List Char} (unbroken : '\n' ∉ line) :
    ofReport line = (ofLine? line).toList := by
  have whole : line.splitOn '\n' = [line] := by
    apply List.splitOnP_eq_singleton
    intro c member
    simpa using ne_of_mem_of_not_mem member unbroken
  rw [ofReport_eq_filterMap, whole, List.filterMap_cons, List.filterMap_nil]
  cases ofLine? line <;> rfl

/-- A carriage return at its end does not change what a report says. -/
theorem ofReport_return (report : List Char) : ofReport (report ++ ['\r']) = ofReport report := by
  have single : ∀ line, '\n' ∉ line → ofReport (line ++ ['\r']) = ofReport line := by
    intro line unbroken
    have still : '\n' ∉ line ++ ['\r'] := by simpa using unbroken
    rw [ofReport_unbroken still, ofReport_unbroken unbroken, ofLine?_return]
  obtain ⟨unbroken, whole⟩ := isLastPart_lastPart report
  rcases whole with same | ⟨front, split⟩
  · rw [same]
    exact single _ unbroken
  · rw [split, List.append_assoc, List.cons_append, ofReport_append, ofReport_append,
      single _ unbroken]

/-- A text with a carriage return before each line feed. -/
def withReturns (text : List Char) : List Char :=
  text.flatMap fun c => if c = '\n' then ['\r', '\n'] else [c]

theorem withReturns_cons (c : Char) (text : List Char) :
    withReturns (c :: text) = (if c = '\n' then ['\r', '\n'] else [c]) ++ withReturns text :=
  List.flatMap_cons

theorem ofReport_withReturns (front report : List Char) :
    ofReport (front ++ withReturns report) = ofReport (front ++ report) := by
  -- What has been read of the present line goes along in front.
  induction report generalizing front with
  | nil => rfl
  | cons c rest ih =>
    rw [withReturns_cons]
    by_cases feed : c = '\n'
    · have cut : front ++ (['\r', '\n'] ++ withReturns rest) =
          (front ++ ['\r']) ++ '\n' :: withReturns rest := by simp
      rw [if_pos feed, feed, cut, ofReport_append, ofReport_append, ofReport_return]
      exact congrArg (ofReport front ++ ·) (ih [])
    · have moved : front ++ c :: rest = (front ++ [c]) ++ rest := by simp
      rw [if_neg feed, ← List.append_assoc, ih, moved]

/-- Reports can be joined by a line feed: the two say what each of them says, in order. So each part
of a report between line feeds says at most one thing, in order and whatever the others say, and it
makes no difference whether lines end in a line feed alone or in a carriage return and a line feed. -/
theorem reports_joined (first second report : List Char) :
    ofReport (first ++ '\n' :: second) = ofReport first ++ ofReport second ∧
      ofReport report = (report.splitOn '\n').filterMap ofLine? ∧
      ofReport (withReturns report) = ofReport report :=
  ⟨ofReport_append first second, ofReport_eq_filterMap report, ofReport_withReturns [] report⟩

end LanguageServer.Diagnostic
