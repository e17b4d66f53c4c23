import SignIn.Text.Pieces

namespace SignIn.Unicode

open Text (splitOn)

/-- The entries of a table. -/
def entries (table : String) : List (List Char) :=
  let spaced := table.toList.map fun c => if c = '\n' then ' ' else c
  (splitOn ' ' spaced).filter (· ≠ [])

/-- The number that hexadecimal digits stand for. -/
def hexNumber (digits : List Char) : Nat :=
  digits.foldl (fun n c => 16 * n + (if c.isDigit then c.toNat - 48 else c.toNat - 87)) 0

/-- A range of code points, both ends included. -/
structure Range where
  first : Nat
  last : Nat
  deriving DecidableEq, Repr

namespace Range

/-- Whether a code point lies in a range. -/
def contains (r : Range) (c : Nat) : Bool :=
  r.first ≤ c && c ≤ r.last

/-- Reads one range, such as `300-36f`, or a single point, such as `2d`, in hexadecimal. -/
def ofText (text : List Char) : Range :=
  match splitOn '-' text with
  | [first, last] => ⟨hexNumber first, hexNumber last⟩
  | _ => ⟨hexNumber text, hexNumber text⟩

/-- Reads a set of code points: ranges with spaces or line ends between them. -/
def listOfText (text : String) : List Range :=
  (entries text).map ofText

end Range

/-- Whether some range of a set holds a code point. -/
def inRanges (set : List Range) (c : Nat) : Bool :=
  set.any (·.contains c)

/-- How the points of a run find their targets. -/
inductive Run.Rule where
  /-- The target moves along with the point. -/
  | shift
  /-- As `shift`, for every second point of the range. -/
  | alternate
  /-- The target is the same for the whole range. -/
  | constant
  deriving DecidableEq, Repr

/-- A range of code points and where they go. -/
structure Run where
  range : Range
  rule : Run.Rule
  target : List Nat
  deriving DecidableEq, Repr

namespace Run

/-- Where a code point goes, if the run says so. -/
def target? (r : Run) (c : Nat) : Option (List Nat) :=
  if r.range.contains c then
    match r.rule with
    | .constant => some r.target
    | .shift => some (r.target.map (· + (c - r.range.first)))
    | .alternate =>
      if (c - r.range.first) % 2 = 0 then some (r.target.map (· + (c - r.range.first))) else none
  else none

/-- Reads one run. A range is shifted so that its first point goes to the target, as in `41-5a>61`; every
second point of it is, and the others are left out, as in `100-12e/101`; or all of it goes to one value, as in
`300-314=e6`. A target of several points joins them with dots. -/
def ofText (text : List Char) : Run :=
  let marks := ['>', '/', '=']
  let target := match text.dropWhile (!marks.contains ·) with
    | [] | [_] => []
    | _ :: points => (splitOn '.' points).map hexNumber
  let rule := if text.contains '=' then Rule.constant else if text.contains '/' then .alternate else .shift
  ⟨Range.ofText (text.takeWhile (!marks.contains ·)), rule, target⟩

/-- Reads a map: runs with spaces or line ends between them. -/
def listOfText (text : String) : List Run :=
  (entries text).map ofText

end Run

/-- Where the first run that knows a code point sends it. -/
def lookup (map : List Run) (c : Nat) : Option (List Nat) :=
  map.findSome? (·.target? c)

end SignIn.Unicode
