/-! How messages follow each other in a stream: each has a header that tells its length in bytes. -/

namespace LanguageServer.Protocol

def lengthHeader : String := "Content-Length"

def frame (body : String) : String :=
  lengthHeader ++ ": " ++ toString body.utf8ByteSize ++ "\r\n\r\n" ++ body

/-- Whether a line is the one between a header and its message. -/
def endsHeader (line : String) : Bool :=
  line == "\r\n" || line == "\n"

/-- The length that a line of a header tells. The case of the name does not matter. -/
def contentLength? (line : String) : Option Nat :=
  let chars := line.toList
  let name := chars.takeWhile (· ≠ ':')
  if name.map Char.toLower = lengthHeader.toList.map Char.toLower then
    let isBlank (c : Char) : Bool := c ∈ [' ', '\t', '\r', '\n']
    let digits := ((chars.drop (name.length + 1)).filter (!isBlank ·))
    if digits.isEmpty || !digits.all Char.isDigit then none
    else some (digits.foldl (fun value c => 10 * value + (c.toNat - '0'.toNat)) 0)
  else none

end LanguageServer.Protocol
