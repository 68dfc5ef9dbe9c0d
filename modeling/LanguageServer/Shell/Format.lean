import LanguageServer.Shell.Arithmetic

/-! How shell programs write texts. -/

namespace LanguageServer.Shell

def isOctal (byte : UInt8) : Bool :=
  48 ≤ byte && byte ≤ 55

def digitsValue (base : Nat) (digits : Bytes) : Nat :=
  digits.foldl (fun value digit => base * value + (digit.toNat - 48)) 0

/-- What a letter after a backslash stands for. -/
def escapeLetter? (letter : UInt8) : Option UInt8 :=
  match Char.ofNat letter.toNat with
  | 'a' => some 7
  | 'b' => some 8
  | 'e' => some 27
  | 'f' => some 12
  | 'n' => some 10
  | 'r' => some 13
  | 't' => some 9
  | 'v' => some 11
  | '\\' => some 92
  | _ => none

/-- A text with its escapes replaced, after so many bytes that are left out, and whether it is to
stop there. An octal number may have a zero before its three digits. -/
def unescaped : (skip : Nat) → Bytes → Bytes × Bool
  | _, [] => ([], false)
  | skip + 1, _ :: rest => unescaped skip rest
  | 0, 92 :: 99 :: _ => ([], true)
  | 0, 92 :: letter :: rest =>
    let own := if letter == 48 then 0 else 1
    let digits := ((letter :: rest).drop (1 - own)).take 3 |>.takeWhile isOctal
    if isOctal letter then
      let (more, stop) := unescaped (digits.length - own) rest
      (UInt8.ofNat (digitsValue 8 digits) :: more, stop)
    else
      let (more, stop) := unescaped 0 rest
      match escapeLetter? letter with
      | some byte => (byte :: more, stop)
      | none => (92 :: letter :: more, stop)
  | 0, byte :: rest =>
    let (more, stop) := unescaped 0 rest
    (byte :: more, stop)

def echoed (arguments : List Bytes) : Bytes :=
  let (arguments, newline) := match arguments with
    | first :: rest => if first == bytesOf "-n" then (rest, false) else (arguments, true)
    | [] => ([], true)
  let (text, stop) := unescaped 0 (List.intercalate [32] arguments)
  if newline && !stop then text ++ [10] else text

/-- How a value is set into a line. -/
structure Layout where
  left : Bool := false
  zeros : Bool := false
  plus : Bool := false
  blank : Bool := false
  marked : Bool := false
  width : Nat := 0
  precision : Option Nat := none

def Layout.pad (layout : Layout) (text : Bytes) : Bytes :=
  let missing := layout.width - text.length
  if layout.left then text ++ List.replicate missing 32
  else List.replicate missing 32 ++ text

/-- Digits with a sign at their width. -/
def Layout.padNumber (layout : Layout) (sign digits : Bytes) : Bytes :=
  let digits := List.replicate (layout.precision.getD 0 - digits.length) 48 ++ digits
  if layout.zeros && !layout.left && layout.precision.isNone then
    sign ++ List.replicate (layout.width - digits.length - sign.length) 48 ++ digits
  else
    layout.pad (sign ++ digits)

/-- The number in front of an argument, whether it is all of it, and whether it is within 64 bits. A
quote makes a number of the byte after it. -/
structure Numeral where
  value : Int
  digits : Bool := true
  complete : Bool := true
  inRange : Bool := true

/-- The number that an argument is. An argument that is not there is zero. -/
def numeral (argument : Bytes) : Numeral :=
  match (Text.ofUtf8 argument).toList with
  | [] => { value := 0 }
  | '"' :: _ => { value := ((argument[1]?).getD 0).toNat }
  | '\x27' :: _ => { value := ((argument[1]?).getD 0).toNat }
  | text =>
    let (negative, text) := match skipBlanks text with
      | '-' :: rest => (true, rest)
      | '+' :: rest => (false, rest)
      | text => (false, text)
    let (number, rest) := literalNumber text
    let value : Int := if negative then -number else number
    { value := max (-Int.pow 2 63) (min value (Int.pow 2 63 - 1))
      digits := text.head?.any Char.isDigit
      complete := rest.isEmpty
      inRange := -Int.pow 2 63 ≤ value && value < Int.pow 2 63 }

/-- What to say about an argument that should be a number. -/
def Numeral.complaint? (numeral : Numeral) (argument : Bytes) : Option String :=
  let text := Text.ofUtf8 argument
  if !numeral.digits then some (text ++ ": expected numeric value")
  else if !numeral.complete then some (text ++ ": not completely converted")
  else if !numeral.inRange then some (text ++ ": Numerical result out of range")
  else none

/-- The number that an argument is, or zero. -/
def numberOf (argument : Bytes) : Int :=
  (numeral argument).value

/-- What `printf` has come to. -/
structure Printing where
  /-- What is written, in reverse order. -/
  bytes : Bytes := []
  complaints : List String := []
  /-- Whether no more is to be written. -/
  halted : Bool := false
  /-- The arguments that are left. -/
  arguments : List Bytes := []
  status : Nat := 0

namespace Printing

def put (printing : Printing) (bytes : Bytes) : Printing :=
  { printing with bytes := bytes.reverse ++ printing.bytes }

def complain (printing : Printing) (text : String) (status : Nat) : Printing :=
  { printing with complaints := printing.complaints ++ [text], status := status }

def next (printing : Printing) : Bytes × Printing :=
  (printing.arguments.head?.getD [], { printing with arguments := printing.arguments.tail })

def nextNumber (printing : Printing) : Int × Printing :=
  let (argument, printing) := printing.next
  let found := numeral argument
  match found.complaint? argument with
  | some text => (found.value, printing.complain text 1)
  | none => (found.value, printing)

end Printing

/-- A width or a precision: digits, or a star for the next argument. -/
def size (printing : Printing) (format : Bytes) : Nat × Bool × Bytes × Printing :=
  let isDigit (byte : UInt8) : Bool := 48 ≤ byte && byte ≤ 57
  match format with
  | 42 :: rest =>
    let (value, printing) := printing.nextNumber
    (value.natAbs, value < 0, rest, printing)
  | _ =>
    (digitsValue 10 (format.takeWhile isDigit), false, format.dropWhile isDigit, printing)

/-- The flags, the width and the precision of a conversion, and what follows them. -/
def layout (printing : Printing) (format : Bytes) : Layout × Bytes × Printing :=
  let isFlag (byte : UInt8) : Bool := byte ∈ [45, 48, 43, 32, 35]
  let flags := format.takeWhile isFlag
  let (width, left, rest, printing) := size printing (format.dropWhile isFlag)
  let (precision, rest, printing) := match rest with
    | 46 :: more =>
      let (value, _, rest, printing) := size printing more
      (some value, rest, printing)
    | _ => (none, rest, printing)
  ({ left := left || flags.contains 45, zeros := flags.contains 48, plus := flags.contains 43
     blank := flags.contains 32, marked := flags.contains 35, width := width
     precision := precision }, rest, printing)

def convert (printing : Printing) (layout : Layout) (conversion : UInt8) : Option Printing :=
  let signed : Printing :=
    let (number, printing) := printing.nextNumber
    let sign : Bytes :=
      if number < 0 then [45] else if layout.plus then [43] else if layout.blank then [32] else []
    printing.put (layout.padNumber sign (Text.toUtf8 (Nat.toDigits 10 number.natAbs)))
  let unsigned (base : Nat) (upper : Bool) (mark : Bytes) : Printing :=
    let (number, printing) := printing.nextNumber
    let digits := Nat.toDigits base (number % Int.pow 2 64).toNat
    let digits := if upper then digits.map Char.toUpper else digits
    let mark := if layout.marked && number != 0 then mark else []
    printing.put (layout.padNumber mark (Text.toUtf8 digits))
  match Char.ofNat conversion.toNat with
  | 's' =>
    let (argument, printing) := printing.next
    some (printing.put (layout.pad (argument.take (layout.precision.getD argument.length))))
  | 'b' =>
    let (argument, printing) := printing.next
    let (bytes, stop) := unescaped 0 argument
    let printing := printing.put (layout.pad bytes)
    some { printing with halted := stop }
  | 'c' =>
    let (argument, printing) := printing.next
    some (printing.put (layout.pad (if argument.isEmpty then [0] else argument.take 1)))
  | 'd' => some signed
  | 'i' => some signed
  | 'u' => some (unsigned 10 false [])
  | 'o' => some (unsigned 8 false [48])
  | 'x' => some (unsigned 16 false [48, 120])
  | 'X' => some (unsigned 16 true [48, 88])
  | _ => none

/-- An escape after its backslash: what it stands for, and what follows it. -/
def formatEscape (rest : Bytes) : Bytes × Bytes :=
  let digits := (rest.take 3).takeWhile isOctal
  if digits.isEmpty then
    match rest with
    | letter :: more =>
      match escapeLetter? letter with
      | some byte => ([byte], more)
      | none => ([92, letter], more)
    | [] => ([92], [])
  else ([UInt8.ofNat (digitsValue 8 digits)], rest.drop digits.length)

/-- One pass over a format. The number bounds the length. -/
def formatOnce : Nat → Bytes → Printing → Printing
  | 0, _, printing => printing
  | _ + 1, [], printing => printing
  | fuel + 1, 92 :: rest, printing =>
    let (bytes, rest) := formatEscape rest
    formatOnce fuel rest (printing.put bytes)
  | fuel + 1, 37 :: 37 :: rest, printing => formatOnce fuel rest (printing.put [37])
  | fuel + 1, 37 :: rest, printing =>
    let (layout, after, printing) := layout printing rest
    match after with
    | [] => { printing.complain "missing format character" 2 with halted := true }
    | conversion :: more =>
      match convert printing layout conversion with
      | some printing => if printing.halted then printing else formatOnce fuel more printing
      | none =>
        let directive := rest.take (rest.length - more.length)
        { printing.complain ("%" ++ Text.ofUtf8 directive ++ ": invalid directive") 2 with
          halted := true }
  | fuel + 1, byte :: rest, printing => formatOnce fuel rest (printing.put [byte])

/-- What `printf` comes to: the format is used again as long as arguments are left. The number
bounds how often. -/
def formatted : Nat → Bytes → Printing → Printing
  | 0, _, printing => printing
  | fuel + 1, format, printing =>
    let after := formatOnce (format.length + 1) format printing
    if after.halted || after.arguments.isEmpty
        || after.arguments.length == printing.arguments.length then after
    else formatted fuel format after

end LanguageServer.Shell
