import JsxEdit.Text.Hex

/-!
  **Character properties as sorted ranges.**

  A property of characters is a list of ranges of code points, ascending, without
  overlap and without ranges that touch. Looking a code point up stops at the first
  range that starts above it, so the common characters, which have small code points,
  are decided after a few steps.

  The set operations keep to this form. Surrogates are no characters: a complement
  leaves them out.
-/

namespace JsxEdit.Text

/-- Ascending, disjoint ranges of code points, both ends included. -/
abbrev CharRanges := List (Nat × Nat)

namespace CharRanges

def contains : CharRanges → Nat → Bool
  | [], _ => false
  | (lo, hi) :: rest, n =>
    if n < lo then false else decide (n ≤ hi) || contains rest n

/-! ### Set operations -/

/-- A range and the ranges after it, in the order of their starts: those that overlap
    or touch are joined. -/
def joinFrom (lo hi : Nat) : List (Nat × Nat) → CharRanges
  | [] => [(lo, hi)]
  | (lo', hi') :: rest =>
    if lo' ≤ hi + 1 then joinFrom lo (max hi hi') rest else (lo, hi) :: joinFrom lo' hi' rest

/-- The set that ranges in any order make up. -/
def ofUnsorted (ranges : List (Nat × Nat)) : CharRanges :=
  match ranges.mergeSort (fun a b => decide (a.1 ≤ b.1)) with
  | [] => []
  | (lo, hi) :: rest => joinFrom lo hi rest

def union (a b : CharRanges) : CharRanges := ofUnsorted (a ++ b)

def unions (sets : List CharRanges) : CharRanges := ofUnsorted sets.flatten

/-- What lies from `start` on between the ranges. -/
def gapsFrom (start : Nat) : CharRanges → CharRanges
  | [] => if start ≤ 0x10ffff then [(start, 0x10ffff)] else []
  | (lo, hi) :: rest =>
    if start < lo then (start, lo - 1) :: gapsFrom (hi + 1) rest else gapsFrom (hi + 1) rest

def compl (a : CharRanges) : CharRanges := gapsFrom 0 (union a [(0xd800, 0xdfff)])

def inter (a b : CharRanges) : CharRanges := compl (union a.compl b.compl)

def diff (a b : CharRanges) : CharRanges := inter a b.compl

/-! ### Ranges from text -/

/-- Reads ranges from the middle of one: `lo` is its start, if a dash has been read, and
    `n` the number being read, if it has digits. -/
def readText (lo n : Option Nat) : List Char → CharRanges
  | [] => (n.map fun n => (lo.getD n, n)).toList
  | c :: rest =>
    match hexValue? c with
    | some v => readText lo (some (16 * n.getD 0 + v)) rest
    | none =>
      if c == '-' then readText n none rest
      else (n.map fun n => (lo.getD n, n)).toList ++ readText none none rest

/-- The ranges of a table such as `41-5a 5f`: hexadecimal code points, single or with
    a dash between the two ends, and blanks or line ends between them. -/
def ofText (text : String) : CharRanges := readText none none text.toList

end CharRanges

end JsxEdit.Text
