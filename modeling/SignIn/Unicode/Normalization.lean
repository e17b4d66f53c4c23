import SignIn.Unicode.Decomposition

namespace SignIn.Unicode

/-- The first syllable of Hangul. -/
def syllableBase : Nat := 0xac00

/-- The parts of a syllable of Hangul, which follow from its place in the table of all syllables. -/
def decomposeSyllable (c : Nat) : List Nat :=
  let place := c - syllableBase
  [0x1100 + place / 588, 0x1161 + place % 588 / 28] ++
    (if place % 28 = 0 then [] else [0x11a7 + place % 28])

/-- What a code point is equivalent to, one step on. -/
def decomposeOnce (c : Nat) : List Nat :=
  if c < 0xc0 then [c]
  else if syllableBase ≤ c ∧ c < syllableBase + 11172 then decomposeSyllable c
  else (lookup decompositions c).getD [c]

/-- The full decomposition of a text. No decomposition is more than three steps deep. -/
def decompose (text : List Nat) : List Nat :=
  ((text.flatMap decomposeOnce).flatMap decomposeOnce).flatMap decomposeOnce

/-- Puts a code point in front of ordered ones, behind the marks of a lower class than its own. -/
def insertMark (c : Nat) : List Nat → List Nat
  | [] => [c]
  | d :: rest =>
    if 0 < combiningClass d ∧ combiningClass d < combiningClass c then d :: insertMark c rest
    else c :: d :: rest

/-- Puts the marks behind each character in the order of their classes. -/
def orderMarks (text : List Nat) : List Nat :=
  text.foldr insertMark []

/-- The code point that a pair is put together to. -/
def composePair? (first second : Nat) : Option Nat :=
  if 0x1100 ≤ first ∧ first < 0x1113 ∧ 0x1161 ≤ second ∧ second < 0x1176 then
    some (syllableBase + ((first - 0x1100) * 21 + (second - 0x1161)) * 28)
  else if syllableBase ≤ first ∧ first < syllableBase + 11172 ∧ (first - syllableBase) % 28 = 0 ∧
      0x11a8 ≤ second ∧ second < 0x11c3 then
    some (first + (second - 0x11a7))
  else
    (decompositions.find? fun run =>
      run.target = [first, second] ∧ !inRanges compositionExclusions run.range.first).map (·.range.first)

/-- Puts together what follows the character `base`. `kept` are the marks that stay behind it, last one
first; a mark reaches the base only if its class is above that of the last one kept. -/
def composeOnto (base : Nat) (kept : List Nat) : List Nat → List Nat
  | [] => base :: kept.reverse
  | c :: rest =>
    let reaches := match kept with
      | [] => true
      | k :: _ => combiningClass k ≠ 0 ∧ combiningClass k < combiningClass c
    match if reaches then composePair? base c else none with
    | some composed => composeOnto composed kept rest
    | none =>
      if combiningClass c = 0 then base :: kept.reverse ++ composeOnto c [] rest
      else composeOnto base (c :: kept) rest

/-- Puts a decomposed text together. -/
def compose : List Nat → List Nat
  | [] => []
  | c :: rest => if combiningClass c = 0 then composeOnto c [] rest else c :: compose rest

/-- The composed normal form of a text. -/
def normalize (text : List Char) : List Char :=
  if text.all (·.toNat < 0xc0) then text
  else (compose (orderMarks (decompose (text.map Char.toNat)))).map Char.ofNat

end SignIn.Unicode
