/-! The lines of a text. -/

namespace LanguageServer.Text

/-- A text is cut at every line feed. One carriage return right before the cut belongs to it, a
carriage return elsewhere does not, and an empty line at the very end is none. -/
def lines : List Char → List (List Char)
  | [] => []
  | '\n' :: rest => [] :: lines rest
  | '\r' :: '\n' :: rest => [] :: lines rest
  | c :: rest =>
    match lines rest with
    | [] => [[c]]
    | line :: more => (c :: line) :: more

/-- The part of a text after its last line feed. -/
def lastPart (text : List Char) : List Char :=
  (text.reverse.takeWhile (· != '\n')).reverse

end LanguageServer.Text
