/-! Cutting texts at separators. -/

namespace LanguageServer.Text

/-- The parts of a text between the characters that separate. There is one part more than there are
separators. -/
def split (separates : Char → Bool) : List Char → List (List Char)
  | [] => [[]]
  | c :: rest =>
    if separates c then [] :: split separates rest
    else
      match split separates rest with
      | [] => [[c]]
      | part :: parts => (c :: part) :: parts

/-- Cuts a text at the first place where a character stands. The character itself is lost. -/
def cut (mark : Char) (text : List Char) : List Char × Option (List Char) :=
  match text.dropWhile (· ≠ mark) with
  | [] => (text, none)
  | _ :: rest => (text.takeWhile (· ≠ mark), some rest)

/-- Parts with a text between each two. -/
def join (between : List Char) : List (List Char) → List Char
  | [] => []
  | [part] => part
  | part :: parts => part ++ between ++ join between parts

end LanguageServer.Text
