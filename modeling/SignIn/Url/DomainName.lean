import SignIn.Text.Pieces
import SignIn.Unicode.Direction
import SignIn.Unicode.DomainMapping
import SignIn.Unicode.Joining
import SignIn.Unicode.Marks
import SignIn.Unicode.Normalization
import SignIn.Url.Punycode

namespace SignIn.DomainName

/-- The ASCII characters that no host may hold. -/
def isForbidden (c : Char) : Bool :=
  c.toNat ≤ 0x20 || c.toNat = 0x7f ||
    ['%', '#', '/', ':', '<', '>', '?', '@', '[', '\\', ']', '^', '|'].contains c

/-- Whether a character is one of ASCII. -/
def isAscii (c : Char) : Bool :=
  c.toNat < 0x80

/-- Maps the characters of a name. None may be disallowed. -/
def mapName (name : List Char) : Option (List Char) :=
  (name.mapM fun c =>
    match Unicode.DomainStatus.ofChar c with
    | .valid => some [c]
    | .mapped target => some target
    | .disallowed => none).map List.flatten

/-- A character that keeps two letters apart without showing. -/
def nonJoiner : Char := '\u200c'

/-- A character that joins two letters without showing. -/
def joiner : Char := '\u200d'

/-- Whether the last of some characters joins the one after it, marks left aside. `before` has the last
character first. -/
def joinsOnward (before : List Char) : Bool :=
  match before.dropWhile fun c => Unicode.Joining.ofChar c = .transparent with
  | c :: _ => Unicode.Joining.ofChar c = .left || Unicode.Joining.ofChar c = .dual
  | [] => false

/-- Whether the first of some characters joins the one before it, marks left aside. -/
def joinsBack (after : List Char) : Bool :=
  match after.dropWhile fun c => Unicode.Joining.ofChar c = .transparent with
  | c :: _ => Unicode.Joining.ofChar c = .right || Unicode.Joining.ofChar c = .dual
  | [] => false

/-- Whether a character kills the vowel of the letter before it. -/
def isVirama (c : Char) : Bool :=
  Unicode.combiningClass c.toNat = 9

/-- Whether every joiner and non-joiner stands where it makes a difference: after a virama, or, for a
non-joiner, between letters that would join. `before` has the last character first. -/
def joinersFit (before : List Char) : List Char → Bool
  | [] => true
  | c :: rest =>
    (if c = joiner then (before.head?.map isVirama).getD false
      else if c = nonJoiner then
        (before.head?.map isVirama).getD false || (joinsOnward before && joinsBack rest)
      else true) && joinersFit (c :: before) rest

/-- Whether a label, in its characters, may be used. -/
def isUsable (label : List Char) : Bool :=
  !(label.head?.map Unicode.isMark).getD false && joinersFit [] label &&
    !label.any isForbidden && (label.all isAscii || label.length ≤ 1000)

/-- The mark of a label that is spelled in Punycode. -/
def spelledMark : List Char := ['x', 'n', '-', '-']

/-- The characters of a label that comes spelled. They have to be such as mapping and normalising leave
alone. -/
def readSpelled (spelling : List Char) : Option (List Char) := do
  if spelling = [] ∨ spelling.getLast? = some '-' ∨ 2000 < spelling.length ∨ !spelling.all isAscii then
    none
  else
    let label ← Punycode.decode spelling
    if label.all (Unicode.DomainStatus.ofChar · = .valid) ∧ Unicode.normalize label = label then
      return label
    else none

/-- A label in its characters and as it is written in ASCII. -/
structure Label where
  characters : List Char
  ascii : List Char
  deriving DecidableEq, Repr

/-- Reads a label of a mapped name. -/
def readLabel (label : List Char) : Option Label := do
  match Text.dropStart? spelledMark label with
  | some spelling =>
    let characters ← readSpelled spelling
    if isUsable characters then return ⟨characters, label⟩ else none
  | none =>
    if isUsable label then
      return ⟨label, if label.all isAscii then label else spelledMark ++ Punycode.encode label⟩
    else none

/-- Whether a character makes the direction of writing matter. -/
def isRightToLeft (c : Char) : Bool :=
  let d := Unicode.Direction.ofChar c
  d = .rightToLeft || d = .arabicLetter || d = .arabicNumber

/-- Whether a label reads the same in a line of either direction. -/
def directionFits (label : List Char) : Bool :=
  let directions := label.map Unicode.Direction.ofChar
  let core := (directions.reverse.dropWhile (· = .nonspacingMark)).reverse
  let neutral : List Unicode.Direction := [.europeanSeparator, .commonSeparator, .europeanTerminator,
    .otherNeutral, .boundaryNeutral, .nonspacingMark]
  match directions with
  | [] => true
  | .leftToRight :: _ =>
    core.all (fun d => d = .leftToRight || d = .europeanNumber || neutral.contains d) &&
      (core.getLast? = some .leftToRight || core.getLast? = some .europeanNumber)
  | .rightToLeft :: _ | .arabicLetter :: _ =>
    core.all (fun d => d = .rightToLeft || d = .arabicLetter || d = .arabicNumber ||
        d = .europeanNumber || neutral.contains d) &&
      (match core.getLast? with
        | some d => d = .rightToLeft || d = .arabicLetter || d = .arabicNumber || d = .europeanNumber
        | none => false) &&
      !(core.contains .arabicNumber && core.contains .europeanNumber)
  | _ => false

/-- The ASCII form of a name, if it has one. The name is mapped, normalised and cut into labels. A label
beyond ASCII is spelled in Punycode behind `xn--`; a label that comes spelled has to be the spelling of a
label that mapping leaves alone. -/
def toAscii (name : List Char) : Option (List Char) := do
  let mapped ← mapName name
  let labels ← (Text.splitOn '.' (Unicode.normalize mapped)).mapM readLabel
  if labels.any (·.characters.any isRightToLeft) ∧ !labels.all (directionFits ·.characters) then none
  else return Text.joinWith '.' (labels.map (·.ascii))

end SignIn.DomainName
