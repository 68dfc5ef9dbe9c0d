import LanguageServer.Text.Blank
import LanguageServer.Text.Word

/-! Classes of characters that have nothing in common. -/

namespace LanguageServer.Text

/-- Whether each range of one set lies below or above each range of another. -/
def Ranges.apart (first second : Ranges) : Bool :=
  first.all fun one => second.all fun other => decide (one.2 < other.1) || decide (other.2 < one.1)

theorem Ranges.not_holds_of_apart {first second : Ranges} (apart : first.apart second = true)
    {c : Char} (holds : first.holds c = true) : second.holds c = false := by
  apply Bool.eq_false_iff.mpr
  intro also
  obtain ⟨one, member, above, below⟩ := (first.holds_iff c).mp holds
  obtain ⟨other, otherMember, otherAbove, otherBelow⟩ := (second.holds_iff c).mp also
  have separate := List.all_eq_true.mp (List.all_eq_true.mp apart one member) other otherMember
  simp only [Bool.or_eq_true, decide_eq_true_eq] at separate
  omega

theorem blank_apart_alphabetic : blankRanges.apart alphabeticRanges = true := by decide +kernel

theorem blank_apart_digit : blankRanges.apart digitRanges = true := by decide +kernel

theorem blank_apart_otherNumber : blankRanges.apart otherNumberRanges = true := by decide +kernel

theorem not_isBlank_of_isIdentifier {c : Char} (identifier : isIdentifier c = true) :
    isBlank c = false := by
  apply Bool.eq_false_iff.mpr
  intro blank
  have alphabetic : isAlphabetic c = false := Ranges.not_holds_of_apart blank_apart_alphabetic blank
  have digit : isDigit c = false := Ranges.not_holds_of_apart blank_apart_digit blank
  have number : otherNumberRanges.holds c = false :=
    Ranges.not_holds_of_apart blank_apart_otherNumber blank
  have underscore : c ≠ '_' := by
    intro same
    rw [same] at blank
    exact absurd blank (by decide)
  simp [isIdentifier, isNumeric, alphabetic, digit, number, underscore] at identifier

end LanguageServer.Text
