/-! The shortest decimal numbers that stand for binary floating point numbers. -/

namespace LanguageServer.Decimal

/-- The number `digits * 10 ^ exponent`. -/
structure Scientific where
  digits : Nat
  exponent : Int
  deriving DecidableEq, Repr

structure Ratio where
  num : Nat
  den : Nat
  deriving DecidableEq, Repr

/-- The fraction `factor * base ^ exponent`. -/
def Ratio.scaled (factor base : Nat) (exponent : Int) : Ratio :=
  match exponent with
  | .ofNat n => ⟨factor * Nat.pow base n, 1⟩
  | .negSucc n => ⟨factor, Nat.pow base (n + 1)⟩

def Ratio.lt (left right : Ratio) : Bool :=
  left.num * right.den < right.num * left.den

def Ratio.le (left right : Ratio) : Bool :=
  left.num * right.den ≤ right.num * left.den

/-- The values that round to one binary number: those between two fractions, which count
themselves if `closed`. -/
structure Interval where
  low : Ratio
  value : Ratio
  high : Ratio
  closed : Bool
  deriving DecidableEq, Repr

/-- Whether a value rounds to the number of an interval. -/
def Interval.holds (interval : Interval) (value : Ratio) : Bool :=
  if interval.closed then interval.low.le value && value.le interval.high
  else interval.low.lt value && value.lt interval.high

/-- The interval of the finite positive double with these bits. -/
def Interval.ofBits (bits : Nat) : Interval :=
  let fraction : Nat := bits % Nat.pow 2 52
  let biased : Nat := bits / Nat.pow 2 52 % Nat.pow 2 11
  let mantissa : Nat := if biased = 0 then fraction else fraction + Nat.pow 2 52
  let exponent : Int := (if biased = 0 then 1 else (biased : Int)) - 1075
  -- Below a power of two the next number is half as far.
  let lowest := fraction = 0 ∧ 1 < biased
  { low :=
      if lowest then Ratio.scaled (4 * mantissa - 1) 2 (exponent - 2)
      else Ratio.scaled (2 * mantissa - 1) 2 (exponent - 1)
    value := Ratio.scaled mantissa 2 exponent
    high := Ratio.scaled (2 * mantissa + 1) 2 (exponent - 1)
    closed := mantissa % 2 = 0 }

/-- The exponent of the first digit of a fraction, found from an estimate from above. -/
def leadingExponent (value : Ratio) : Nat → Int → Int
  | 0, exponent => exponent
  | tries + 1, exponent =>
    if (Ratio.scaled 1 10 exponent).le value then exponent
    else leadingExponent value tries (exponent - 1)

/-- The nearest multiple of `10 ^ exponent` that rounds to the number of an interval. -/
def Interval.nearest? (interval : Interval) (exponent : Int) : Option Nat :=
  let unit := Ratio.scaled 1 10 exponent
  let below := interval.value.num * unit.den / (interval.value.den * unit.num)
  let above := below + 1
  let fits (digits : Nat) := interval.holds (Ratio.scaled digits 10 exponent)
  let twice := 2 * interval.value.num * unit.den
  let middle := (2 * below + 1) * (interval.value.den * unit.num)
  let upFirst := middle < twice || (middle == twice && below % 2 == 1)
  if upFirst && fits above then some above
  else if fits below then some below
  else if fits above then some above
  else none

/-- The first of the exponents `first`, `first - 1`, … at which some decimal fits. -/
def Interval.shortestFrom (interval : Interval) : Nat → Int → Scientific
  | 0, exponent => ⟨0, exponent⟩
  | tries + 1, exponent =>
    match interval.nearest? exponent with
    | some digits => if digits = 0 then interval.shortestFrom tries (exponent - 1) else ⟨digits, exponent⟩
    | none => interval.shortestFrom tries (exponent - 1)

def Scientific.stripped (number : Scientific) : Nat → Scientific
  | 0 => number
  | tries + 1 =>
    if number.digits % 10 = 0 ∧ number.digits ≠ 0 then
      Scientific.stripped ⟨number.digits / 10, number.exponent + 1⟩ tries
    else
      number

/-- The shortest decimal that rounds to the finite positive double with these bits, and of those
with as many digits the nearest. -/
def shortest (bits : Nat) : Scientific :=
  let interval := Interval.ofBits bits
  let leading := leadingExponent interval.value 640 309
  (interval.shortestFrom 18 leading).stripped 20

/-- How a number is written: positionally while its first digit stands at an exponent from
`least` up to `most`, else with a mark and an exponent. -/
structure Layout where
  least : Int
  most : Int
  mark : Char
  deriving DecidableEq, Repr

/-- The text of a positive decimal. Positional texts have a digit after the point. -/
def Layout.write (form : Layout) (number : Scientific) : List Char :=
  let digits := Nat.toDigits 10 number.digits
  let leading : Int := number.exponent + digits.length - 1
  if leading < form.least ∨ form.most < leading then
    let tail :=
      match digits with
      | first :: more@(_ :: _) => first :: '.' :: more
      | _ => digits
    tail ++ form.mark :: (toString leading).toList
  else if 0 ≤ number.exponent then
    digits ++ List.replicate number.exponent.toNat '0' ++ ['.', '0']
  else if 0 ≤ leading then
    digits.take (leading.toNat + 1) ++ '.' :: digits.drop (leading.toNat + 1)
  else
    '0' :: '.' :: List.replicate (-leading - 1).toNat '0' ++ digits

def Layout.writeBits (form : Layout) (bits : Nat) : String :=
  let sign := if bits / Nat.pow 2 63 % 2 = 1 then ['-'] else []
  let magnitude := bits % Nat.pow 2 63
  String.ofList (sign ++ if magnitude = 0 then ['0', '.', '0'] else form.write (shortest magnitude))

end LanguageServer.Decimal
