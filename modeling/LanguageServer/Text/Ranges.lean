/-! Sets of characters written as lists of inclusive code point ranges. -/

namespace LanguageServer.Text

/-- A set of characters, as inclusive code point ranges in increasing order. -/
abbrev Ranges := List (Nat × Nat)

/-- Whether some range holds the code point of the character. -/
def Ranges.holds (ranges : Ranges) (c : Char) : Bool :=
  ranges.any fun range => decide (range.1 ≤ c.toNat) && decide (c.toNat ≤ range.2)

theorem Ranges.holds_iff (ranges : Ranges) (c : Char) :
    ranges.holds c = true ↔ ∃ range ∈ ranges, range.1 ≤ c.toNat ∧ c.toNat ≤ range.2 := by
  simp [Ranges.holds]

end LanguageServer.Text
