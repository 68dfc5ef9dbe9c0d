import LanguageServer.Text.Ranges

/-! White space and the trimming of texts by it. -/

namespace LanguageServer.Text

/-- The characters with the property White_Space. -/
def blankRanges : Ranges :=
  [(0x9, 0xD), (0x20, 0x20), (0x85, 0x85), (0xA0, 0xA0), (0x1680, 0x1680), (0x2000, 0x200A),
   (0x2028, 0x2029), (0x202F, 0x202F), (0x205F, 0x205F), (0x3000, 0x3000)]

def isBlank (c : Char) : Bool :=
  blankRanges.holds c

def trimStart (text : List Char) : List Char :=
  text.dropWhile isBlank

def trimEnd (text : List Char) : List Char :=
  (text.reverse.dropWhile isBlank).reverse

def trim (text : List Char) : List Char :=
  trimEnd (trimStart text)

/-- The words of a text: its longest runs of characters that are not white space. -/
def words (text : List Char) : List (List Char) :=
  text.splitBy (fun left right => isBlank left == isBlank right)
    |>.filter fun run => run.all fun c => !isBlank c

/-- Trimming as an operation on strings. -/
def trimmed (text : String) : String :=
  String.ofList (trim text.toList)

end LanguageServer.Text
