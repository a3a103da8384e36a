import JsxEdit.Number.Binary64

/-!
  **The fewest decimal digits that read back.**

  A finite double `m · 2 ^ q` stands for all reals that round to it: an interval
  that reaches half way to either neighbour, its ends included when `m` is even.
  `shortest` looks for the decimal `d · 10 ^ t` in that interval with the fewest
  digits: for 1, 2, … 17 digits it tests the two multiples of the grid step that
  enclose the value, and takes the nearer one when both are inside. If any point
  of a grid lies in the interval then one of these two does, so no shorter
  decimal is missed; 17 digits always suffice.
-/

namespace JsxEdit.Number

open JsxEdit

/-- The decimal `digits · 10 ^ exponent`. -/
structure Decimal where
  digits : Nat
  exponent : Int
deriving DecidableEq, Repr, Inhabited

/-- The interval of reals that round to one double, in units of `2 ^ unit`. -/
structure RoundingInterval where
  low : Nat
  value : Nat
  high : Nat
  closed : Bool
  unit : Int

/-- The lower neighbour of a power of two is half as far away as the upper one,
    except at the bottom of the normal range. -/
def RoundingInterval.of (x : Binary64) : RoundingInterval :=
  let m := x.significand
  let narrow := x.fraction == 0 && decide (1 < x.exponent)
  { low := 4 * m - (if narrow then 1 else 2)
    value := 4 * m
    high := 4 * m + 2
    closed := m % 2 == 0
    unit := x.scale - 2 }

/-- `10 ^ t` and the unit of the interval over a common denominator: `d · 10 ^ t`
    and `v · 2 ^ unit` compare as `d * step t` and `v * grain t`. -/
def RoundingInterval.step (i : RoundingInterval) (t : Int) : Nat :=
  Nat.pow 10 t.toNat * Nat.pow 2 (-i.unit).toNat

def RoundingInterval.grain (i : RoundingInterval) (t : Int) : Nat :=
  Nat.pow 2 i.unit.toNat * Nat.pow 10 (-t).toNat

def RoundingInterval.contains (i : RoundingInterval) (d : Decimal) : Bool :=
  let p := d.digits * i.step d.exponent
  let low := i.low * i.grain d.exponent
  let high := i.high * i.grain d.exponent
  decide (low < p ∧ p < high) || (i.closed && (p == low || p == high))

/-- The `k` with `10 ^ (k - 1) ≤ value < 10 ^ k`, for a value of at least `10 ^ -400`. -/
def RoundingInterval.magnitude (i : RoundingInterval) : Int :=
  let scaled := i.value * i.grain (-400) / i.step (-400)
  (Nat.toDigits 10 scaled).length - 400

/-- The better of the two neighbours of the value on the grid of step `10 ^ t`, if
    either is in the interval. -/
def RoundingInterval.onGrid (i : RoundingInterval) (t : Int) : Option Decimal :=
  let v := i.value * i.grain t
  let below : Decimal := ⟨v / i.step t, t⟩
  let above : Decimal := ⟨v / i.step t + 1, t⟩
  match i.contains below, i.contains above with
  | true, true =>
    if v - below.digits * i.step t < above.digits * i.step t - v then some below else some above
  | true, false => some below
  | false, true => some above
  | false, false => none

/-- The shortest decimal that rounds to the magnitude of a finite, non-zero `x`. -/
def shortest (x : Binary64) : Decimal :=
  let i := RoundingInterval.of x
  let k := i.magnitude
  ((List.range 17).findSome? fun (n : Nat) => i.onGrid (k - 1 - n)).getD default

end JsxEdit.Number
