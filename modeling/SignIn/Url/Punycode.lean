namespace SignIn.Punycode

/-- The number of a digit. -/
def digitValue? (c : Char) : Option Nat :=
  if 'a' ≤ c ∧ c ≤ 'z' then some (c.toNat - 97)
  else if 'A' ≤ c ∧ c ≤ 'Z' then some (c.toNat - 65)
  else if '0' ≤ c ∧ c ≤ '9' then some (c.toNat - 48 + 26)
  else none

/-- The digit of a number below 36. -/
def digit (n : Nat) : Char :=
  if n < 26 then Char.ofNat (97 + n) else Char.ofNat (22 + n)

/-- The least digit that ends a number at the weight `k`. -/
def threshold (k bias : Nat) : Nat :=
  if k ≤ bias then 1 else if bias + 26 ≤ k then 26 else k - bias

private theorem threshold_pos (k bias : Nat) : 1 ≤ threshold k bias := by
  unfold threshold
  split <;> try split
  all_goals omega

private theorem threshold_le (k bias : Nat) : threshold k bias ≤ 26 := by
  unfold threshold
  split <;> try split
  all_goals omega

/-- Scales a distance down to a bias. -/
def scaleDown (delta k : Nat) : Nat :=
  if 455 < delta then scaleDown (delta / 35) (k + 36) else k + 36 * delta / (delta + 38)
termination_by delta

/-- The bias after a distance, among `count` characters. -/
def adapt (delta count : Nat) (first : Bool) : Nat :=
  let halved := if first then delta / 700 else delta / 2
  scaleDown (halved + halved / count) 0

/-- A label that is being decoded. -/
structure Decoding where
  output : List Char
  /-- The code point of the next insertion, at least. -/
  point : Nat
  /-- Where the next insertion goes, counted on through all code points. -/
  index : Nat
  /-- Where the counting for the next insertion began. -/
  start : Nat
  bias : Nat
  /-- The weight of the next digit. -/
  weight : Nat
  /-- The position of the next digit, in steps of 36. -/
  position : Nat
  deriving Repr

namespace Decoding

/-- Puts in the character that the distance read so far leads to. -/
def insert (d : Decoding) : Option Decoding :=
  let count := d.output.length + 1
  let point := d.point + d.index / count
  let place := d.index % count
  if point.isValidChar then
    some
      { output := d.output.take place ++ Char.ofNat point :: d.output.drop place
        point
        index := place + 1
        start := place + 1
        bias := adapt (d.index - d.start) count (d.start == 0)
        weight := 1
        position := 36 }
  else none

/-- The greatest index and the greatest weight that are counted with. -/
def limit : Nat := 0xffffffff

/-- Takes in one digit. -/
def step (d : Decoding) (c : Char) : Option Decoding := do
  let value ← digitValue? c
  let t := threshold d.position d.bias
  let next := { d with index := d.index + value * d.weight }
  let weight := d.weight * (36 - t)
  if limit < next.index then none
  else if value < t then next.insert
  else if limit < weight then none
  else return { next with weight, position := d.position + 36 }

end Decoding

/-- The characters before the last hyphen and those after it. A hyphen at the very start does not count. -/
def splitDelimiter (text : List Char) : List Char × List Char :=
  let tail := (text.reverse.takeWhile (· ≠ '-')).reverse
  let head := text.take (text.length - tail.length - 1)
  if head = [] then ([], text) else (head, tail)

/-- The label that a text spells. -/
def decode (text : List Char) : Option (List Char) := do
  let (basic, digits) := splitDelimiter text
  let final ← digits.foldlM Decoding.step ⟨basic, 128, 0, 0, 72, 1, 36⟩
  -- A distance that lacks its last digit spells nothing.
  if final.position = 36 then return final.output else none

/-- The digits of a distance. -/
def encodeDistance (bias position distance : Nat) : List Char :=
  let t := threshold position bias
  if distance < t then [digit distance]
  else
    digit (t + (distance - t) % (36 - t)) :: encodeDistance bias (position + 36) ((distance - t) / (36 - t))
termination_by distance
decreasing_by
  have h₁ := threshold_pos position bias
  have h₂ := threshold_le position bias
  have : (distance - threshold position bias) / (36 - threshold position bias) ≤
      distance - threshold position bias := Nat.div_le_self _ _
  omega

/-- A label that is being encoded. -/
structure Encoding where
  output : List Char
  delta : Nat
  bias : Nat
  /-- How many characters have been written. -/
  handled : Nat
  deriving Repr

namespace Encoding

/-- Passes one character of the label while the code point `point` is being written. -/
def pass (first point : Nat) (e : Encoding) (c : Char) : Encoding :=
  if c.toNat < point then { e with delta := e.delta + 1 }
  else if c.toNat = point then
    { output := e.output ++ encodeDistance e.bias 36 e.delta
      delta := 0
      bias := adapt e.delta (e.handled + 1) (e.handled == first)
      handled := e.handled + 1 }
  else e

/-- Writes one code point wherever it stands in the label, after `previous` has been written. -/
def write (label : List Char) (first : Nat) (state : Encoding × Nat) (point : Nat) : Encoding × Nat :=
  let (e, next) := state
  let e := { e with delta := e.delta + (point - next) * (e.handled + 1) }
  let e := label.foldl (pass first point) e
  ({ e with delta := e.delta + 1 }, point + 1)

end Encoding

/-- The spelling of a label in lower-case letters, digits and hyphens. Its ASCII characters come first; the
others follow as distances, each a number with digits of varying weight. -/
def encode (label : List Char) : List Char :=
  let basic := label.filter fun c => c.toNat < 128
  let points := ((label.map Char.toNat).filter (128 ≤ ·)).eraseDups.mergeSort
  let start : Encoding := ⟨if basic = [] then [] else basic ++ ['-'], 0, 72, basic.length⟩
  (points.foldl (Encoding.write label basic.length) (start, 128)).1.output

end SignIn.Punycode
