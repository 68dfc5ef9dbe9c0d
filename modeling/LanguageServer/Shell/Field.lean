import LanguageServer.Shell.Pattern

/-! What words expand to: parts that may be split into fields. -/

namespace LanguageServer.Shell

/-- A part of what a word expands to. -/
inductive Segment
  /-- Bytes, which may be quoted, or split where separators are. -/
  | bytes (bytes : Bytes) (quoted split : Bool)
  /-- The end of a field. -/
  | cut

/-- The fields that were found: those that are complete and the one that is not, each in reverse
order. -/
structure Splitting where
  complete : List Bytes := []
  current : Option Bytes := none

namespace Splitting

/-- Ends the present field, if there is one. -/
def close (splitting : Splitting) : Splitting :=
  ⟨(splitting.current.map List.reverse).toList ++ splitting.complete, none⟩

def add (splitting : Splitting) (bytes : Bytes) : Splitting :=
  { splitting with current := some (bytes.reverse ++ splitting.current.getD []) }

/-- Takes a byte that may divide fields. A separator that is not blank ends a field even if it is
empty. -/
def take (separators : Bytes) (splitting : Splitting) (byte : UInt8) : Splitting :=
  if separators.contains byte then
    if byte ∈ [32, 9, 10] then splitting.close
    else
      match splitting.current with
      | some _ => splitting.close
      | none => { splitting with complete := [] :: splitting.complete }
  else splitting.add [byte]

def takeSegment (separators : Bytes) (splitting : Splitting) : Segment → Splitting
  | .cut => { splitting.close with current := some [] }
  | .bytes bytes _ false => splitting.add bytes
  | .bytes bytes _ true => bytes.foldl (take separators) splitting

end Splitting

def fields (separators : Bytes) (segments : List Segment) : List Bytes :=
  (segments.foldl (Splitting.takeSegment separators) {}).close.complete.reverse

/-- The bytes of segments that are not split. -/
def flat (segments : List Segment) : Bytes :=
  segments.flatMap fun
    | .bytes bytes _ _ => bytes
    | .cut => [32]

/-- The pattern that segments describe. What is quoted stands for itself. -/
def patternOf (segments : List Segment) : List Matcher :=
  segments.flatMap fun
    | .bytes bytes true _ => bytes.map .byte
    | .bytes bytes false _ => pattern 0 bytes
    | .cut => [.byte 32]

def argumentSegments (quoted : Bool) (arguments : List Bytes) : List Segment :=
  let divider := if quoted then Segment.cut else .bytes [32] false true
  (arguments.map fun argument => Segment.bytes argument quoted (!quoted)).intersperse divider

end LanguageServer.Shell
