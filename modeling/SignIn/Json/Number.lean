import SignIn.Decimal.Shortest

namespace SignIn.Json

/-- A number as it is kept: exactly if it has no fraction and no exponent and fits 64 bits, and else as a
floating-point number. -/
inductive Number where
  | integer (value : Int)
  | float (negative : Bool) (magnitude : Decimal.Binary64)
  deriving DecidableEq, Repr

/-- The parts of a number as it is written. Digits are numbers below ten. -/
structure NumberLiteral where
  negative : Bool
  whole : List Nat
  /-- The digits after the point, if there is one. -/
  fraction : Option (List Nat)
  /-- Whether the exponent is negative, and its digits. -/
  exponent : Option (Bool × List Nat)
  deriving DecidableEq, Repr

/-- The number that decimal digits stand for. -/
def ofDigits (digits : List Nat) : Nat :=
  digits.foldl (fun n d => 10 * n + d) 0

/-- The greatest number of 64 bits. -/
def maxWord : Nat := 0xffffffffffffffff

/-- Takes digits into a significand while it fits 64 bits, and gives the digits that are left. -/
def takeDigits (significand : Nat) : List Nat → Nat × List Nat
  | [] => (significand, [])
  | d :: rest =>
    if 10 * significand + d ≤ maxWord then takeDigits (10 * significand + d) rest
    else (significand, d :: rest)

namespace NumberLiteral

/-- The significand of 64 bits and the exponent that a number is read with. Digits of the whole part that no
longer fit raise the exponent; digits of the fraction that no longer fit are dropped. -/
def scaled (l : NumberLiteral) : Nat × Int :=
  let (whole, dropped) := takeDigits 0 l.whole
  let (significand, unused) := takeDigits whole (l.fraction.getD [])
  let used := (l.fraction.getD []).length - unused.length
  let written : Int := match l.exponent with
    | none => 0
    | some (true, digits) => -(ofDigits digits : Int)
    | some (false, digits) => ofDigits digits
  (significand, (dropped.length : Int) - used + written)

/-- The number that a literal stands for, or `none` if it is too great. -/
def value? (l : NumberLiteral) : Option Number :=
  let float := do
    let (significand, exponent) := l.scaled
    return Number.float l.negative (← Decimal.Binary64.ofDecimal significand exponent)
  match l.fraction, l.exponent with
  | none, none =>
    let n := ofDigits l.whole
    if l.negative then
      if 0 < n ∧ n ≤ 0x8000000000000000 then some (.integer (-n)) else float
    else if n ≤ maxWord then some (.integer n) else float
  | _, _ => float

end NumberLiteral

/-- Where floating-point numbers change from positional to exponent notation. -/
structure FloatLayout where
  /-- The greatest number of digits before the point. -/
  wholeDigits : Int
  /-- The greatest number of zeros after the point and before the first digit. -/
  leadingZeros : Int
  deriving DecidableEq, Repr

/-- Positional below 10^16 and from 10^-5 on. -/
def floatLayout : FloatLayout :=
  ⟨16, 4⟩

/-- The text of a magnitude: its shortest digits, with at least one digit after a point. -/
def FloatLayout.render (layout : FloatLayout) (x : Decimal.Binary64) : List Char :=
  let (significand, place) := x.shortest
  let digits := Nat.toDigits 10 significand
  -- The first `point` digits stand before the point.
  let point : Int := digits.length + place
  if 0 ≤ place ∧ point ≤ layout.wholeDigits then
    digits ++ List.replicate place.toNat '0' ++ ['.', '0']
  else if 0 < point ∧ point ≤ layout.wholeDigits then
    digits.take point.toNat ++ '.' :: digits.drop point.toNat
  else if -layout.leadingZeros ≤ point ∧ point ≤ 0 then
    ['0', '.'] ++ List.replicate (-point).toNat '0' ++ digits
  else
    let exponent := point - 1
    let mantissa := match digits with
      | [] => []
      | [d] => [d]
      | d :: more => d :: '.' :: more
    mantissa ++ ['e', if 0 ≤ exponent then '+' else '-'] ++ Nat.toDigits 10 exponent.natAbs

/-- The text of a number. -/
def Number.render : Number → List Char
  | .integer value => (if value < 0 then ['-'] else []) ++ Nat.toDigits 10 value.natAbs
  | .float negative magnitude => (if negative then ['-'] else []) ++ floatLayout.render magnitude

end SignIn.Json
