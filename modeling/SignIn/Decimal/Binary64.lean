namespace SignIn.Decimal

/-- The quotient rounded to the nearest natural number; a half goes to the even neighbour. -/
def divRoundEven (num den : Nat) : Nat :=
  let q := num / den
  let twice := 2 * (num % den)
  if twice < den ∨ (twice = den ∧ q % 2 = 0) then q else q + 1

/-- The magnitude `mantissa * 2 ^ exponent`. The mantissa has at most 53 bits and the exponent is at
least -1074; the mantissa has all 53 bits unless the exponent is -1074. -/
structure Binary64 where
  mantissa : Nat
  exponent : Int
  deriving DecidableEq, Repr

namespace Binary64

/-- Zero. -/
def zero : Binary64 :=
  ⟨0, -1074⟩

/-- The least exponent. -/
def minExponent : Int := -1074

/-- The greatest exponent. -/
def maxExponent : Int := 971

/-- The least mantissa that has 53 bits. -/
def leastFull : Nat := 0x10000000000000

/-- The multiplier of a numerator, and of a denominator, that divides the quotient by `2 ^ e`. -/
def scales (e : Int) : Nat × Nat :=
  if 0 ≤ e then (1, 1 <<< e.toNat) else (1 <<< (-e).toNat, 1)

/-- The exponent that leaves the quotient 53 bits, or the least one. -/
def exponentFor (num den : Nat) : Int :=
  let guess := (num.log2 : Int) - den.log2 - 52
  let (up, down) := scales guess
  max minExponent (if num * up / (den * down) < leastFull then guess - 1 else guess)

/-- The magnitude nearest to a quotient, or `none` if it is too great for one. -/
def ofQuotient (num den : Nat) : Option Binary64 :=
  if num = 0 then some zero
  else
    let e := exponentFor num den
    let (up, down) := scales e
    let m := divRoundEven (num * up) (den * down)
    let rounded : Binary64 := if m = 2 * leastFull then ⟨leastFull, e + 1⟩ else ⟨m, e⟩
    if maxExponent < rounded.exponent then none else some rounded

/-- The magnitude as a quotient. -/
def toQuotient (x : Binary64) : Nat × Nat :=
  let (up, down) := scales (-x.exponent)
  (x.mantissa * up, down)

/-- The product, or `none` if it is too great. -/
def mul (x y : Binary64) : Option Binary64 :=
  ofQuotient (x.toQuotient.1 * y.toQuotient.1) (x.toQuotient.2 * y.toQuotient.2)

/-- The quotient, or `none` if it is too great. -/
def div (x y : Binary64) : Option Binary64 :=
  ofQuotient (x.toQuotient.1 * y.toQuotient.2) (x.toQuotient.2 * y.toQuotient.1)

/-- The magnitude nearest to a power of ten, for exponents of at most 308. -/
def powerOfTen (n : Nat) : Binary64 :=
  (ofQuotient (Nat.pow 10 n) 1).getD zero

/-- Divides by a power of ten, in steps of at most 308 decimal places, each rounded. -/
def divPowerOfTen (x : Binary64) (n : Nat) : Binary64 :=
  if x.mantissa = 0 then x
  else if n ≤ 308 then (x.div (powerOfTen n)).getD zero
  else divPowerOfTen ((x.div (powerOfTen 308)).getD zero) (n - 308)
termination_by n

/-- The magnitude that a decimal significand and exponent are read as: the significand is rounded
first, then the product or the quotient with the power of ten. `none` if it is too great. -/
def ofDecimal (significand : Nat) (exponent : Int) : Option Binary64 := do
  let x ← ofQuotient significand 1
  if exponent < 0 then return x.divPowerOfTen (-exponent).toNat
  else if exponent ≤ 308 then x.mul (powerOfTen exponent.toNat)
  else if x.mantissa = 0 then return x
  else none

end Binary64

end SignIn.Decimal
