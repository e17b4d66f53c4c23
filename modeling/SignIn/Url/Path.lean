import SignIn.Text.Pieces
import SignIn.Url.Percent

namespace SignIn.UrlPath

/-- Whether a character is left out wherever it stands in a URL: a tab or a line end. -/
def isLeftOut (c : Char) : Bool :=
  c == '\t' || c == '\n' || c == '\r'

/-- A text without the characters that are left out. -/
def strip (text : List Char) : List Char :=
  text.filter (!isLeftOut ·)

/-- A segment with its encoded dots and letters in plain lower case. -/
def plainDots : List Char → List Char
  | '%' :: '2' :: 'e' :: rest | '%' :: '2' :: 'E' :: rest => '.' :: plainDots rest
  | c :: rest => c :: plainDots rest
  | [] => []

/-- Whether a segment stands for the place where it is. -/
def isCurrent (segment : List Char) : Bool :=
  plainDots segment = ['.']

/-- Whether a segment stands for the place above the one where it is. -/
def isParent (segment : List Char) : Bool :=
  plainDots segment = ['.', '.']

/-- Whether a segment is a drive: a letter and a colon or bar. -/
def isDrive (segment : List Char) : Bool :=
  match segment with
  | [c, d] => c.isAlpha && (d == ':' || d == '|')
  | _ => false

/-- Whether a segment is a drive, or goes on from one behind a backslash. -/
def isOnDrive (segment : List Char) : Bool :=
  isDrive (segment.take 2) && (segment.drop 2).head?.all (· = '\\')

/-- The segments of a path that begins with a slash or lacks it. In a special scheme a backslash separates
as well. -/
def segments (special : Bool) (text : List Char) : List (List Char) :=
  let text := if special then text.map fun c => if c = '\\' then '/' else c else text
  let begun := text.dropWhile isLeftOut
  Text.splitOn '/' (if begun.head? = some '/' then begun.tail else text)

/-- Takes the last segment off a path, whose segments come last one first. A drive is never left. -/
def ascend : List (List Char) → List (List Char)
  | [] => []
  | last :: above => if isOnDrive last then last :: above else above

/-- A segment that stands for a place of its own, when `done` are the ones before it. -/
def plainSegment (file : Bool) (done : List (List Char)) (segment : List Char) : List Char :=
  if file ∧ done = [] ∧ isDrive segment then segment.take 1 ++ [':']
  else Percent.encode Percent.inPath segment

/-- Splits a segment behind the colon of a drive if a character that is left out follows there, and something
else after it. -/
def splitDrive? (segment : List Char) : Option (List Char × List Char) :=
  match segment.dropWhile isLeftOut with
  | letter :: rest =>
    match rest.dropWhile isLeftOut with
    | ':' :: gap :: more =>
      if letter.isAlpha ∧ isLeftOut gap ∧ strip more ≠ [] then some ([letter, ':'], strip more)
      else none
    | _ => none
  | [] => none

/-- The segments of a path as far as they are resolved. -/
structure Resolved where
  /-- The last one comes first. -/
  segments : List (List Char)
  /-- Whether the first one is a drive that was a segment of its own. -/
  onDrive : Bool
  deriving DecidableEq, Repr

/-- Resolves segments onto those done. A path that ends in dots ends in a slash. The first segment of a file
may be cut in two behind a drive; what is cut off stands for itself even if it is dots. -/
def resolve (file : Bool) (done : Resolved) : List (List Char) → Resolved
  | [] => done
  | segment :: rest =>
    let plain := strip segment
    let ending := fun segments => if rest = [] then [] :: segments else segments
    if isParent plain then resolve file { done with segments := ending (ascend done.segments) } rest
    else if isCurrent plain then resolve file { done with segments := ending done.segments } rest
    else
      match if file ∧ done.segments = [] then splitDrive? segment else none with
      | some (drive, more) =>
        resolve file { done with segments := [Percent.encode Percent.inPath more, drive] } rest
      | none =>
        let own := file ∧ done.segments = [] ∧ isDrive plain
        resolve file ⟨plainSegment file done.segments plain :: done.segments, done.onDrive || own⟩ rest

/-- The segments of the path that a text spells. -/
def resolved (special file : Bool) (text : List Char) : Resolved :=
  resolve file ⟨[], false⟩ (segments special text)

/-- The path that a text spells. -/
def ofText (special : Bool) (text : List Char) : List Char :=
  '/' :: Text.joinWith '/' (resolved special false text).segments.reverse

/-- The path of a file that a text spells. It begins with a single slash. -/
def ofFileText (text : List Char) : List Char :=
  '/' :: (Text.joinWith '/' (resolved true true text).segments.reverse).dropWhile (· = '/')

/-- Whether the path of a file begins with a drive that was a segment of its own. -/
def hasDrive (text : List Char) : Bool :=
  (resolved true true text).onDrive

end SignIn.UrlPath
