import JsxEdit.Number.Shortest

/-!
  **Numbers as text.**

  A number is written with the fewest digits that read back, always positionally:
  no exponent, no point on whole numbers, `-0` for the negative zero, and `NaN`,
  `inf`, `-inf`. Reading accepts this form and also an exponent, and yields the
  nearest double.
-/

namespace JsxEdit.Number

open JsxEdit

/-! ### Writing -/

/-- `digits · 10 ^ exponent` without an exponent. -/
def Decimal.positional (d : Decimal) : String :=
  let ds := Nat.toDigits 10 d.digits
  if 0 ≤ d.exponent then String.ofList (ds ++ List.replicate d.exponent.toNat '0')
  else
    let places := d.exponent.natAbs
    let padded := List.replicate (places + 1 - ds.length) '0' ++ ds
    let whole := padded.take (padded.length - places)
    let rest := (padded.drop (padded.length - places)).reverse.dropWhile (· == '0') |>.reverse
    String.ofList (if rest.isEmpty then whole else whole ++ '.' :: rest)

/-- The text of a number. -/
def text (x : Binary64) : String :=
  if x.isNaN then "NaN"
  else
    let sign := if x.negative then "-" else ""
    if !x.isFinite then sign ++ "inf"
    else if x.isZero then sign ++ "0"
    else sign ++ (shortest x).positional

/-! ### Reading -/

/-- The double nearest to a decimal. Far outside the range of doubles the answer is
    known without computing the power. -/
def Decimal.nearest (negative : Bool) (d : Decimal) : Binary64 :=
  let size : Int := (Nat.toDigits 10 d.digits).length + d.exponent
  if d.digits = 0 ∨ size < -400 then .zero negative
  else if 400 < size then .infinity negative
  else
    .ofRatio negative (d.digits * Nat.pow 10 d.exponent.toNat) (Nat.pow 10 (-d.exponent).toNat)

def digitValue (c : Char) : Nat := c.toNat - '0'.toNat

def natOfDigits (cs : List Char) : Nat := cs.foldl (fun n c => 10 * n + digitValue c) 0

/-- A signed whole number: the exponent part of a decimal. -/
def readExponent (cs : List Char) : Option Int :=
  let (negative, ds) : Bool × List Char :=
    match cs with
    | '-' :: r => (true, r)
    | '+' :: r => (false, r)
    | r => (false, r)
  if ds.isEmpty || !ds.all Char.isDigit then none
  else some (if negative then -(natOfDigits ds : Int) else natOfDigits ds)

/-- Digits with an optional point and an optional exponent. -/
def readDecimal (cs : List Char) : Option Decimal :=
  let whole := cs.takeWhile Char.isDigit
  let afterWhole := cs.dropWhile Char.isDigit
  let (places, afterPlaces) : List Char × List Char :=
    match afterWhole with
    | '.' :: r => (r.takeWhile Char.isDigit, r.dropWhile Char.isDigit)
    | r => ([], r)
  if whole.isEmpty && places.isEmpty then none
  else
    let digits := natOfDigits (whole ++ places)
    match afterPlaces with
    | [] => some ⟨digits, -(places.length : Int)⟩
    | e :: r =>
      if e == 'e' || e == 'E' then
        (readExponent r).map fun x => ⟨digits, x - places.length⟩
      else none

/-- The number a text stands for. -/
def ofText? (s : String) : Option Binary64 :=
  let (negative, cs) : Bool × List Char :=
    match s.toList with
    | '-' :: r => (true, r)
    | '+' :: r => (false, r)
    | r => (false, r)
  let word := String.ofList cs
  if word == "NaN" then some .nan
  else if word == "inf" then some (.infinity negative)
  else (readDecimal cs).map (Decimal.nearest negative)

end JsxEdit.Number
