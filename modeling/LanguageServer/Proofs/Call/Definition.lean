import Mathlib.Data.List.Infix
import LanguageServer.Call.Definition

/-! The definition of a function is found where its name stands. -/

namespace LanguageServer.Call

open Text

def NamedAt (text name : List Char) (site : Site) : Prop :=
  ∃ line, (lines text)[site.line]? = some line ∧ name <+: line.drop site.column

instance (text name : List Char) (site : Site) : Decidable (NamedAt text name site) :=
  match found : (lines text)[site.line]? with
  | none => isFalse fun ⟨line, present, _⟩ => by simp [found] at present
  | some line =>
    decidable_of_iff (name <+: line.drop site.column)
      ⟨fun stands => ⟨line, found, stands⟩, fun ⟨other, present, stands⟩ => by
        rw [found] at present
        exact Option.some.inj present ▸ stands⟩

theorem named_of_namedHere {name text : List Char} (named : namedHere name text = true) :
    name <+: text := by
  unfold namedHere at named
  split at named
  · cases named
  next rest found =>
    exact ⟨rest, List.append_eq_of_isPrefixOf?_eq_some found⟩

theorem named_of_blanksBefore {name text : List Char} {most blanks : Nat}
    (found : blanksBefore? name text most = some blanks) : name <+: text.drop blanks := by
  fun_induction blanksBefore? name text most with
  | case1 => cases found
  | case2 most named =>
    cases found
    exact named_of_namedHere named
  | case3 most unnamed ih => exact ih found

theorem named_of_definitionHere {name text : List Char} {offset : Nat}
    (found : definitionHere? name text = some offset) : name <+: text.drop offset := by
  unfold definitionHere? at found
  split at found
  · cases found
  next rest keyword =>
    obtain ⟨blanks, before, rfl⟩ := Option.map_eq_some_iff.mp found
    rw [← List.append_eq_of_isPrefixOf?_eq_some keyword, Nat.add_comm, ← List.drop_drop]
    exact named_of_blanksBefore before

theorem named_of_columnFrom {name text : List Char} {column found : Nat} {inWord : Bool}
    (here : columnFrom? name column inWord text = some found) :
    ∃ offset, found = column + offset ∧ name <+: text.drop offset := by
  fun_induction columnFrom? name column inWord text with
  | case1 => cases here
  | case2 column inWord c rest offset starts =>
    cases here
    refine ⟨offset, rfl, named_of_definitionHere ?_⟩
    split at starts
    · cases starts
    · exact starts
  | case3 column inWord c rest none ih =>
    obtain ⟨offset, rfl, named⟩ := ih here
    exact ⟨offset + 1, by omega, named⟩

theorem named_of_siteFrom {name : List Char} {line : Nat} {texts : List (List Char)} {site : Site}
    (found : siteFrom? name line texts = some site) :
    ∃ place text, site.line = line + place ∧ texts[place]? = some text ∧
      name <+: text.drop site.column := by
  fun_induction siteFrom? name line texts with
  | case1 => cases found
  | case2 line text more column here =>
    cases found
    obtain ⟨offset, rfl, named⟩ := named_of_columnFrom here
    exact ⟨0, text, rfl, rfl, by simpa using named⟩
  | case3 line text more none ih =>
    obtain ⟨place, other, same, present, named⟩ := ih found
    exact ⟨place + 1, other, by omega, present, named⟩

theorem named_of_definition {text name : List Char} {site : Site}
    (found : definition? text name = some site) : NamedAt text name site := by
  obtain ⟨place, line, same, present, named⟩ := named_of_siteFrom found
  rw [Nat.zero_add] at same
  exact ⟨line, same ▸ present, named⟩

end LanguageServer.Call
