import LanguageServer.Shell.State

/-! Patterns that describe texts in shell scripts. -/

namespace LanguageServer.Shell

/-- A part of a pattern. -/
inductive Matcher
  | byte (byte : UInt8)
  /-- Any byte. -/
  | one
  /-- Any bytes. -/
  | any
  /-- A byte in some ranges, or in none of them. -/
  | set (negated : Bool) (ranges : List (UInt8 × UInt8))
  deriving DecidableEq, Repr

def Matcher.accepts (byte : UInt8) : Matcher → Bool
  | .byte other => byte == other
  | .one => true
  | .any => true
  | .set negated ranges =>
    (ranges.any fun (low, high) => low ≤ byte && byte ≤ high) != negated

def fits : List Matcher → Bytes → Bool
  | [], bytes => bytes.isEmpty
  | .any :: rest, [] => fits rest []
  | .any :: rest, byte :: bytes => fits rest (byte :: bytes) || fits (.any :: rest) bytes
  | _ :: _, [] => false
  | part :: rest, byte :: bytes => part.accepts byte && fits rest bytes
termination_by pattern bytes => pattern.length + bytes.length

/-- The ranges of a set up to its end, and what follows it. -/
def ranges : Bytes → Option (List (UInt8 × UInt8) × Bytes)
  | [] => none
  | 93 :: rest => some ([], rest)
  | low :: 45 :: high :: rest =>
    if high == 93 then some ([(low, low), (45, 45)], rest)
    else (ranges rest).map fun (more, rest) => ((low, high) :: more, rest)
  | byte :: rest => (ranges rest).map fun (more, rest) => ((byte, byte) :: more, rest)

/-- A set after its bracket, and what follows it. A bracket that comes first is part of it. -/
def set? (bytes : Bytes) : Option (Matcher × Bytes) :=
  let (negated, bytes) := match bytes with
    | 33 :: rest => (true, rest)
    | 94 :: rest => (true, rest)
    | _ => (false, bytes)
  match bytes with
  | 93 :: rest => (ranges rest).map fun (more, rest) => (.set negated ((93, 93) :: more), rest)
  | _ => (ranges bytes).map fun (found, rest) => (.set negated found, rest)

/-- The pattern that bytes describe which are not quoted, after so many that are left out. -/
def pattern : (skip : Nat) → Bytes → List Matcher
  | _, [] => []
  | skip + 1, _ :: rest => pattern skip rest
  | 0, 42 :: rest => .any :: pattern 0 rest
  | 0, 63 :: rest => .one :: pattern 0 rest
  | 0, 91 :: rest =>
    match set? rest with
    | some (found, after) => found :: pattern (rest.length - after.length) rest
    | none => .byte 91 :: pattern 0 rest
  | 0, byte :: rest => .byte byte :: pattern 0 rest

/-- A value without a part at its start or end that fits a pattern: the shortest such part, or the
longest. -/
def trimmed (atEnd longest : Bool) (pattern : List Matcher) (value : Bytes) : Bytes :=
  let cuts := List.range (value.length + 1)
  let cuts := if atEnd == longest then cuts else cuts.reverse
  let test (cut : Nat) : Bool :=
    if atEnd then fits pattern (value.drop cut) else fits pattern (value.take cut)
  match cuts.find? test with
  | some cut => if atEnd then value.take cut else value.drop cut
  | none => value

end LanguageServer.Shell
