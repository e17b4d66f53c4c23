import SignIn.Decimal.Binary64

namespace SignIn.Decimal

/-- Whether `num / den` lies among the reals that round to `x`. The ends belong to them exactly if
the mantissa is even. -/
def Binary64.roundsTo (x : Binary64) (num den : Nat) : Bool :=
  -- Everything is measured in quarters of the last place of `x`.
  let below := if x.mantissa = leastFull ∧ x.exponent ≠ minExponent then 4 * x.mantissa - 1
    else 4 * x.mantissa - 2
  let above := 4 * x.mantissa + 2
  let (unitNum, unitDen) := (⟨1, x.exponent - 2⟩ : Binary64).toQuotient
  let value := num * unitDen
  let low := below * unitNum * den
  let high := above * unitNum * den
  if x.mantissa % 2 = 0 then low ≤ value && value ≤ high else low < value && value < high

/-- The point of the decimal grid of step `10 ^ place` that is nearest to `x` among those that read
back as `x`, if there is one other than zero. -/
def Binary64.onGrid? (x : Binary64) (place : Int) : Option Nat :=
  let (stepNum, stepDen) :=
    if 0 ≤ place then (Nat.pow 10 place.toNat, 1) else (1, Nat.pow 10 (-place).toNat)
  let (num, den) := x.toQuotient
  let below := num * stepDen / (den * stepNum)
  let reads := fun d => 0 < d && x.roundsTo (d * stepNum) stepDen
  let nearer := divRoundEven (num * stepDen) (den * stepNum)
  if reads nearer then some nearer
  else if reads below then some below
  else if reads (below + 1) then some (below + 1)
  else none

/-- The fewest digits from which `x` is read back, as a number and the place of its last digit: the
coarsest grid with such a point has the fewest. -/
def Binary64.shortest (x : Binary64) : Nat × Int :=
  if x.mantissa = 0 then (0, 0)
  else
    let places := (List.range 660).map fun n : Nat => (309 : Int) - (n : Int)
    (places.findSome? fun place => (x.onGrid? place).map (·, place)).getD (0, 0)

end SignIn.Decimal
