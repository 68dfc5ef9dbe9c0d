/-! Reading bytes as UTF-8. Parts that are not valid are replaced. -/

namespace LanguageServer.Text

/-- Where a reader of bytes stands. -/
inductive Utf8State
  /-- Between two characters. -/
  | between
  /-- Within a character: its value so far, how many bytes are missing, and the least and the
  greatest value that the next of them may have. -/
  | within (value missing low high : Nat)
  deriving DecidableEq, Repr

/-- What stands for a part that is not valid. -/
def replacement : Char := '�'

/-- The first byte of a character: what it gives and where it leads. -/
def utf8First (byte : Nat) : List Char × Utf8State :=
  if byte < 0x80 then ([Char.ofNat byte], .between)
  else if 0xC2 ≤ byte && byte ≤ 0xDF then ([], .within (byte - 0xC0) 1 0x80 0xBF)
  else if byte == 0xE0 then ([], .within 0 2 0xA0 0xBF)
  else if byte == 0xED then ([], .within 0xD 2 0x80 0x9F)
  else if 0xE1 ≤ byte && byte ≤ 0xEF then ([], .within (byte - 0xE0) 2 0x80 0xBF)
  else if byte == 0xF0 then ([], .within 0 3 0x90 0xBF)
  else if byte == 0xF4 then ([], .within 4 3 0x80 0x8F)
  else if 0xF1 ≤ byte && byte ≤ 0xF3 then ([], .within (byte - 0xF0) 3 0x80 0xBF)
  else ([replacement], .between)

/-- A byte: what it gives and where it leads. A byte that cannot follow ends what was begun, and is
a first byte itself. -/
def utf8Step : Utf8State → Nat → List Char × Utf8State
  | .between, byte => utf8First byte
  | .within value missing low high, byte =>
    if low ≤ byte && byte ≤ high then
      let value := 64 * value + (byte - 0x80)
      if missing ≤ 1 then ([Char.ofNat value], .between)
      else ([], .within value (missing - 1) 0x80 0xBF)
    else
      let (chars, state) := utf8First byte
      (replacement :: chars, state)

/-- The characters of bytes, from a state. -/
def utf8From (state : Utf8State) : List UInt8 → List Char
  | [] => if state = .between then [] else [replacement]
  | byte :: rest =>
    let (chars, state) := utf8Step state byte.toNat
    chars ++ utf8From state rest

/-- The text of bytes. Every longest part that could begin a character and does not is replaced. -/
def ofUtf8 (bytes : List UInt8) : String :=
  String.ofList (utf8From .between bytes)

def toUtf8 (text : List Char) : List UInt8 :=
  text.flatMap String.utf8EncodeChar

end LanguageServer.Text
