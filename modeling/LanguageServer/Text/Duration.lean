/-! How long something took, as a text. -/

namespace LanguageServer.Text

/-- Decimal places without the zeros at their end, after a point if any are left. -/
def places (width value : Nat) : String :=
  let digits := (Nat.toDigits 10 (Nat.pow 10 width + value)).drop 1
  match (digits.reverse.dropWhile (· == '0')).reverse with
  | [] => ""
  | digits => "." ++ String.ofList digits

/-- A time in nanoseconds, written in the largest unit that it fills: seconds, milliseconds,
microseconds or nanoseconds. -/
def duration (nanoseconds : Nat) : String :=
  let write (width : Nat) (unit : String) : String :=
    toString (nanoseconds / Nat.pow 10 width) ++ places width (nanoseconds % Nat.pow 10 width) ++ unit
  if nanoseconds ≥ Nat.pow 10 9 then write 9 "s"
  else if nanoseconds ≥ Nat.pow 10 6 then write 6 "ms"
  else if nanoseconds ≥ Nat.pow 10 3 then write 3 "µs"
  else write 0 "ns"

end LanguageServer.Text
