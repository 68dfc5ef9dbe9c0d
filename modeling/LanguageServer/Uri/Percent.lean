/-! Percent encoding. -/

namespace LanguageServer.Uri

def hexDigit (value : Nat) : Char :=
  if value < 10 then Char.ofNat ('0'.toNat + value) else Char.ofNat ('A'.toNat + value - 10)

/-- A byte as a percent sign and two digits. -/
def percentByte (byte : UInt8) : List Char :=
  ['%', hexDigit (byte.toNat / 16), hexDigit (byte.toNat % 16)]

/-- A text in which every character that is not ASCII, every control character and every character
of a set is written by its bytes. -/
def percentEncode (reserved : Char → Bool) (text : List Char) : List Char :=
  text.flatMap fun c =>
    if c.toNat < 0x20 || c.toNat ≥ 0x7F || reserved c then
      (String.utf8EncodeChar c).flatMap percentByte
    else
      [c]

def hexValue? (c : Char) : Option Nat :=
  if '0' ≤ c && c ≤ '9' then some (c.toNat - '0'.toNat)
  else if 'a' ≤ c && c ≤ 'f' then some (c.toNat - 'a'.toNat + 10)
  else if 'A' ≤ c && c ≤ 'F' then some (c.toNat - 'A'.toNat + 10)
  else none

/-- The bytes of a text, with its percent codes undone. -/
def percentDecode : List Char → List UInt8
  | [] => []
  | c :: rest =>
    let plain := String.utf8EncodeChar c ++ percentDecode rest
    match c, rest with
    | '%', high :: low :: more =>
      match hexValue? high, hexValue? low with
      | some high, some low => UInt8.ofNat (16 * high + low) :: percentDecode more
      | _, _ => plain
    | _, _ => plain

/-! ### What is encoded where -/

/-- Nothing but what is always encoded. -/
def controlSet (_ : Char) : Bool :=
  false

def fragmentSet (c : Char) : Bool :=
  c ∈ [' ', '"', '<', '>', '\x60']

def querySet (special : Bool) (c : Char) : Bool :=
  c ∈ [' ', '"', '#', '<', '>'] || special && c == '\x27'

def pathSet (c : Char) : Bool :=
  fragmentSet c || c ∈ ['#', '?', '\x7b', '\x7d']

/-- What is encoded in a component of a path that comes from a file. -/
def componentSet (c : Char) : Bool :=
  pathSet c || c ∈ ['/', '%', '\\']

def userSet (c : Char) : Bool :=
  pathSet c || c ∈ ['/', ':', ';', '=', '@', '[', '\\', ']', '^', '|']

end LanguageServer.Uri
