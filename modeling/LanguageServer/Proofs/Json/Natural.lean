import LanguageServer.Json.Document
import LanguageServer.Proofs.Json.Understanding

/-! Natural numbers of whole texts. A text is read as one exactly if it has digits alone, with space
around them, and 64 bits are enough: a sign, a point or an exponent makes something else of it, and so
does one digit too many. -/

namespace LanguageServer.Json

open Reader

/-- A reader that makes its values of something else gives no natural number. -/
theorem avoids_made {reader : Reader α} {make : α → Json}
    (other : ∀ item value, make item ≠ Json.nat value) :
    Avoids Json.nat (do return make (← reader)) := by
  refine avoids_bind fun item => ?_
  intro text value rest read
  exact other item value (pure_eq_ok read).1

/-- A tree is a number that has digits only, and whose value fits in 64 bits. -/
def Tree.Numbers (tree : Tree) (value : Nat) : Prop :=
  ∃ digits, tree = .number digits ∧ IsWhole digits ∧ Nat.ofDigitChars 10 digits 0 = value ∧
    value < Nat.pow 2 64

/-- What is read as a natural number is written in digits. -/
theorem value_natural {depth : Nat} {text rest : List Char} {value : Nat}
    (read : Reader.value depth text = .ok (Json.nat value, rest)) :
    ∃ tree start, Spaced text start ∧ Written tree start rest ∧ tree.Numbers value := by
  cases depth with
  | zero => exact absurd read fail_ne_ok
  | succ depth =>
    obtain ⟨c, tail, reader, spaced, found, further⟩ := token_some rfl read
    have other : Avoids Json.nat reader → False := fun avoids => avoids _ _ _ further
    dsimp only at found
    split at found
    case h_1 absurdity => cases absurdity
    case h_2 | h_3 | h_4 | h_5 =>
      subst found
      exact (other (avoids_bind fun _ => avoids_made fun _ _ => by simp [Json.nat])).elim
    case h_6 | h_7 =>
      subst found
      refine (other (avoids_bind fun _ => ?_)).elim
      split
      · exact avoids_bind fun _ => avoids_made fun _ _ => by simp [Json.nat]
      · exact avoids_made fun _ _ => by simp [Json.nat]
    case h_8 =>
      rename_i same
      obtain rfl := Option.some.inj same
      split at found
      · rename_i minus
        subst found minus
        obtain ⟨number, between, numberRead, made⟩ := bind_eq_ok (advance_bind '-' tail ▸ further)
        obtain ⟨integer, rfl⟩ := pure_eq_ok made
        obtain rfl := Json.number.inj integer
        obtain ⟨absurdity, -⟩ := number_natural numberRead
        cases absurdity
      · split at found
        · subst found
          obtain ⟨number, between, numberRead, made⟩ := bind_eq_ok further
          obtain ⟨integer, rfl⟩ := pure_eq_ok made
          obtain rfl := Json.number.inj integer
          obtain ⟨-, digits, same, isWhole, counted, small⟩ := number_natural numberRead
          exact ⟨_, _, same ▸ spaced, isWhole.written between, digits, rfl, isWhole, counted, small⟩
        · exact (other (found ▸ avoids_fail _ _)).elim

theorem understands_natural {tree : Tree} {value : Nat} (numbers : tree.Numbers value) (depth : Nat) :
    Understands (Reader.value (depth + 1)) tree (Json.nat value) := by
  obtain ⟨digits, rfl, isWhole, rfl, small⟩ := numbers
  intro text start rest spaced written ends
  obtain rfl := written.number_eq
  obtain ⟨c, more, rfl, areDigits, zero⟩ := isWhole.first
  have isDigit := areDigits c List.mem_cons_self
  have read := number_absorbed areDigits zero (absorb_digits _ 0 small) ends
  have made : (do return Json.number (← Reader.number false) : Reader Json) (c :: more ++ rest) =
      .ok (Json.nat (Nat.ofDigitChars 10 (c :: more) 0), rest) := by
    rw [bind_ok read]
    rfl
  refine (token_head spaced (isSpace_of_isDigit isDigit) ?_).trans made
  split
  case h_8 d _ _ _ _ _ _ same =>
    obtain rfl := Option.some.inj same
    have notDash : c ≠ '-' := by
      rintro rfl
      cases isDigit
    rw [if_neg notDash, if_pos isDigit]
  all_goals
    rename_i same
    cases same <;> cases isDigit

/-- A whole text is read as a natural number exactly if it is written in digits, with space around them,
and fits in 64 bits. -/
theorem ofText_eq_nat {text : String} {value : Nat} :
    ofText text = .ok (Json.nat value) ↔ ∃ tree, IsText tree text.toList ∧ tree.Numbers value := by
  constructor
  · intro read
    obtain ⟨rest, valueRead, gap⟩ := read_of_all read
    obtain ⟨tree, start, spaced, written, numbers⟩ := value_natural valueRead
    exact ⟨tree, ⟨start, rest, spaced, written, gap⟩, numbers⟩
  · rintro ⟨tree, isText, numbers⟩
    exact all_of_understands (understands_natural numbers 127) isText

end LanguageServer.Json
