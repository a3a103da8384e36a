/-!
  **Numbers of the tree: IEEE binary64, kept as their 64 bits.**

  A numeric literal holds a double. Everything the library asks of one is a
  question about its fields (is it zero, is it NaN, which text does it have), so
  a number is its word and the fields are read off in `Nat`. Equality is then
  equality of words: `0` and `-0` differ, a NaN equals itself.

  `ofRatio` is the only place where rounding happens: the nearest double to a
  ratio of natural numbers, a half going to the even neighbour.
-/

namespace JsxEdit

/-- An IEEE double, given by its word. -/
structure Binary64 where
  bits : UInt64
deriving DecidableEq, Repr, Inhabited

namespace Binary64

/-! ### Fields -/

def fractionSize : Nat := Nat.pow 2 52
def exponentAllOnes : Nat := 2047

def negative (x : Binary64) : Bool := decide (Nat.pow 2 63 ≤ x.bits.toNat)
def exponent (x : Binary64) : Nat := x.bits.toNat / fractionSize % 2048
def fraction (x : Binary64) : Nat := x.bits.toNat % fractionSize

def isNaN (x : Binary64) : Bool := x.exponent == exponentAllOnes && x.fraction != 0
def isFinite (x : Binary64) : Bool := x.exponent != exponentAllOnes

/-- Either zero. -/
def isZero (x : Binary64) : Bool := x.exponent == 0 && x.fraction == 0

/-- A finite `x` is `±significand · 2 ^ scale`. -/
def significand (x : Binary64) : Nat :=
  if x.exponent = 0 then x.fraction else fractionSize + x.fraction

def scale (x : Binary64) : Int := (max x.exponent 1 : Nat) - 1075

/-! ### Construction -/

/-- The word with the given sign whose lower 63 bits are `magnitude`. -/
def ofMagnitude (negative : Bool) (magnitude : Nat) : Binary64 :=
  ⟨UInt64.ofNat ((if negative then Nat.pow 2 63 else 0) + magnitude)⟩

def infinityMagnitude : Nat := exponentAllOnes * fractionSize

def infinity (negative : Bool) : Binary64 := ofMagnitude negative infinityMagnitude
def zero (negative : Bool) : Binary64 := ofMagnitude negative 0
def nan : Binary64 := ofMagnitude false (infinityMagnitude + Nat.pow 2 51)

/-- `num / den` rounded to the nearest natural number, a half to the even one. -/
def roundHalfEven (num den : Nat) : Nat :=
  let q := num / den
  let r := num % den
  if 2 * r < den then q
  else if den < 2 * r then q + 1
  else if q % 2 = 0 then q else q + 1

/-- The least `k ≥ -1074` with `num / den < 2 ^ (k + 53)`: the scale at which the
    ratio is written with at most 53 significant bits. -/
def scaleOfRatio (num den : Nat) : Int :=
  let guess : Int := (Nat.log2 num : Int) - Nat.log2 den - 53
  let fits (k : Int) : Bool :=
    decide (num * Nat.pow 2 (-(k + 53)).toNat < den * Nat.pow 2 (k + 53).toNat)
  max (if fits guess then guess else guess + 1) (-1074)

/-- The double nearest to `num / den` (`den > 0`), with the given sign. A rounding
    that carries into the next binade needs no case of its own: the words of
    doubles of one sign are ordered as their values are. -/
def ofRatio (negative : Bool) (num den : Nat) : Binary64 :=
  if num = 0 then zero negative
  else
    let k := scaleOfRatio num den
    let m := roundHalfEven (num * Nat.pow 2 (-k).toNat) (den * Nat.pow 2 k.toNat)
    ofMagnitude negative (min ((k + 1074).toNat * fractionSize + m) infinityMagnitude)

end Binary64

end JsxEdit
