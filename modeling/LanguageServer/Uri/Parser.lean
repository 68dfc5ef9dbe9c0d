import LanguageServer.Uri.Basic

/-! Reading the name of a document and bringing it to its normal form. -/

namespace LanguageServer.Uri

open Text

/-! ### Schemes -/

def isLetter (c : Char) : Bool :=
  c.isAlpha

/-- The scheme in lower case and what follows its colon. -/
def scheme? (text : List Char) : Option (List Char × List Char) :=
  let isPart (c : Char) : Bool := c.isAlphanum || c ∈ ['+', '-', '.']
  match text.takeWhile isPart, text.dropWhile isPart with
  | first :: more, ':' :: rest =>
    if isLetter first then some ((first :: more).map Char.toLower, rest) else none
  | _, _ => none

/-- The schemes, other than `file`, whose names have a host, and the port that need not be written. -/
def hostSchemes : List (String × Nat) :=
  [("http", 80), ("https", 443), ("ws", 80), ("wss", 443), ("ftp", 21)]

/-! ### Paths -/

/-- Whether a segment means the directory itself. -/
def isDot (segment : List Char) : Bool :=
  segment.map Char.toLower ∈ [['.'], ['%', '2', 'e']]

/-- Whether a segment means the directory above. -/
def isDotDot (segment : List Char) : Bool :=
  segment.map Char.toLower ∈
    [['.', '.'], ['.', '%', '2', 'e'], ['%', '2', 'e', '.'], ['%', '2', 'e', '%', '2', 'e']]

/-- Whether a segment names a drive: a letter and then a colon or a bar. -/
def isDrive : List Char → Bool
  | [letter, mark] => isLetter letter && (mark == ':' || mark == '|')
  | _ => false

/-- A segment that names a drive, with a colon. -/
def driveName : List Char → List Char
  | letter :: _ => [letter, ':']
  | [] => []

/-- The segments of a path one directory further up. A drive that stands alone is never left. -/
def shorten (isFile : Bool) (segments : List (List Char)) : List (List Char) :=
  match segments with
  | [only] => if isFile && isDrive only then [only] else []
  | _ => segments.dropLast

/-- The segments of a path after `.` and `..` are followed, where `done` is what lies behind. -/
def walk (isFile : Bool) (done : List (List Char)) : List (List Char) → List (List Char)
  | [] => done
  | segment :: rest =>
    if isDotDot segment then
      let shorter := shorten isFile done
      if rest.isEmpty then shorter ++ [[]] else walk isFile shorter rest
    else if isDot segment then
      if rest.isEmpty then done ++ [[]] else walk isFile done rest
    else if isFile && done.isEmpty && isDrive segment then
      walk isFile [driveName segment] rest
    else
      walk isFile (done ++ [percentEncode pathSet segment]) rest

/-- A path from its segments. -/
def pathText (segments : List (List Char)) : List Char :=
  (segments.map ('/' :: ·)).flatten

/-- Whether a character ends a segment. -/
def isSlash (special : Bool) (c : Char) : Bool :=
  c == '/' || special && c == '\\'

def normalPath (special isFile : Bool) (text : List Char) : List Char :=
  let text := match text with
    | c :: rest => if isSlash special c then rest else text
    | [] => []
  pathText (walk isFile [] (split (isSlash special) text))

/-! ### Hosts -/

def isForbidden (c : Char) : Bool :=
  c ∈ ['\x00', '\t', '\n', '\r', ' ', '#', '/', ':', '<', '>', '?', '@', '[', '\\', ']', '^', '|']

def isForbiddenInDomain (c : Char) : Bool :=
  isForbidden c || c.toNat < 0x20 || c == '%' || c.toNat ≥ 0x7F

/-- A number in decimal, octal or hexadecimal form. -/
def addressNumber? (text : List Char) : Option Nat :=
  let (base, digits) := match text with
    | '0' :: 'x' :: rest => (16, rest)
    | '0' :: 'X' :: rest => (16, rest)
    | '0' :: c :: rest => (8, c :: rest)
    | _ => (10, text)
  digits.foldl (fun value c => do
    let value ← value
    let digit ← hexValue? c
    if digit < base then some (base * value + digit) else none) (some 0)

/-- Whether the last part of a domain is a number, so that the whole has to be an address. -/
def endsInNumber (parts : List (List Char)) : Bool :=
  match parts.getLast? with
  | some last =>
    !last.isEmpty && last.all Char.isDigit || last.length ≥ 2 && (addressNumber? last).isSome
      && (last.take 2).map Char.toLower == ['0', 'x']
  | none => false

/-- An address of four bytes from its parts. -/
def address? (parts : List (List Char)) : Option (List Char) := do
  if parts.length > 4 || parts.any List.isEmpty then none
  let numbers ← parts.mapM addressNumber?
  let last ← numbers.getLast?
  let front := numbers.dropLast
  if front.any (· > 255) || last ≥ Nat.pow 256 (5 - numbers.length) then none
  let high := front.zipIdx.foldl (fun sum (number, place) => sum + number * Nat.pow 256 (3 - place)) 0
  let value := high + last
  some (join ['.'] ([3, 2, 1, 0].map fun place => (toString (value / Nat.pow 256 place % 256)).toList))

/-- A domain or an address in its normal form. -/
def domain? (text : List Char) : Option (List Char) := do
  let decoded ← String.fromUTF8? ⟨(percentDecode text).toArray⟩
  let domain := decoded.toList.map Char.toLower
  if domain.isEmpty || domain.any isForbiddenInDomain then none
  let parts := split (· == '.') domain
  let trimmed := if parts.getLast? == some [] && parts.length > 1 then parts.dropLast else parts
  if endsInNumber trimmed then address? trimmed else some domain

/-- A host of a scheme that gives hosts no meaning. -/
def plainHost? (text : List Char) : Option (List Char) :=
  if text.any isForbidden then none else some (percentEncode controlSet text)

/-- A port, unless it is the one that need not be written. -/
def port? (standard : Option Nat) (text : List Char) : Option (List Char) :=
  if text.isEmpty then some []
  else if text.all Char.isDigit then
    let value := text.foldl (fun value c => 10 * value + (c.toNat - '0'.toNat)) 0
    if value > 65535 then none
    else if standard == some value then some []
    else some (':' :: (toString value).toList)
  else none

/-- Cuts a text at the last place where a character stands. -/
def cutLast (mark : Char) (text : List Char) : Option (List Char × List Char) :=
  match cut mark text.reverse with
  | (last, some front) => some (front.reverse, last.reverse)
  | (_, none) => none

/-- The name and the password of a user, followed by the sign that ends them. -/
def userText (text : List Char) : List Char :=
  let (name, password) := cut ':' text
  let name := percentEncode userSet name
  let password := match password with
    | some (c :: rest) => ':' :: percentEncode userSet (c :: rest)
    | _ => []
  if name.isEmpty && password.isEmpty then [] else name ++ password ++ ['@']

/-- User, host and port in their normal form. -/
def authority? (special : Bool) (standard : Option Nat) (text : List Char) : Option (List Char) := do
  let (user, place) := match cutLast '@' text with
    | some (user, place) => (userText user, place)
    | none => ([], text)
  let (host, port) := cut ':' place
  let host ← if special then domain? host else plainHost? host
  let port ← port? standard (port.getD [])
  if host.isEmpty && !(user.isEmpty && port.isEmpty) then none
  some (user ++ host ++ port)

/-! ### Names -/

/-- The host and the path of a file. -/
def filePlace? (text : List Char) : Option (List Char) :=
  let place? (host path : List Char) : Option (List Char) :=
    some (host ++ '/' :: (normalPath true true path).dropWhile (· == '/'))
  match text with
  | first :: second :: rest =>
    if isSlash true first && isSlash true second then
      let host := rest.takeWhile (!isSlash true ·)
      let path := rest.dropWhile (!isSlash true ·)
      if isDrive host then place? [] rest
      else if host.isEmpty then place? [] path
      else do
        let host ← domain? host
        place? (if host == "localhost".toList then [] else host) path
    else
      place? [] text
  | _ => place? [] text

/-- What stands between the scheme and the query. -/
def place? (scheme : List Char) (text : List Char) : Option (List Char) :=
  let name := String.ofList scheme
  if name == "file" then (filePlace? text).map (['/', '/'] ++ ·)
  else
    match hostSchemes.find? (·.1 == name) with
    | some (_, standard) => do
      let rest := text.dropWhile (isSlash true)
      let authority ← authority? true (some standard) (rest.takeWhile (!isSlash true ·))
      return ['/', '/'] ++ authority ++ normalPath true false (rest.dropWhile (!isSlash true ·))
    | none =>
      match text with
      | '/' :: '/' :: rest => do
        let authority ← authority? false none (rest.takeWhile (· ≠ '/'))
        let path := rest.dropWhile (· ≠ '/')
        let path := if path.isEmpty then [] else normalPath false false path
        return ['/', '/'] ++ authority ++ path
      | '/' :: _ => some (normalPath false false text)
      | _ => some (percentEncode controlSet text)

/-- Whether a scheme follows the rules of the web for hosts and paths. -/
def isSpecial (scheme : List Char) : Bool :=
  scheme == "file".toList || (hostSchemes.any (·.1.toList == scheme))

/-- A name without blanks and control characters at its ends, and without line ends and tabs. -/
def tidy (text : List Char) : List Char :=
  let isEdge (c : Char) : Bool := c.toNat ≤ 0x20
  let text := ((text.dropWhile isEdge).reverse.dropWhile isEdge).reverse
  text.filter fun c => c ∉ ['\t', '\n', '\r']

/-- Reads the name of a document. It needs a scheme. -/
def parse? (text : String) : Option Uri := do
  let (scheme, rest) ← scheme? (tidy text.toList)
  let (rest, fragment) := cut '#' rest
  let (rest, query) := cut '?' rest
  let place ← place? scheme rest
  let query := match query with
    | some query => '?' :: percentEncode (querySet (isSpecial scheme)) query
    | none => []
  let fragment := match fragment with
    | some fragment => '#' :: percentEncode fragmentSet fragment
    | none => []
  return ⟨String.ofList (scheme ++ ':' :: place ++ query ++ fragment)⟩

end LanguageServer.Uri
