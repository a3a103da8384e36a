import JsxEdit.Text.Blank
import JsxEdit.Text.Word
import JsxEdit.Text.Fold

/-!
  **Sets of characters, as patterns describe them.**

  A bracket expression, a dot or an escape such as `\w` is a set built from ranges,
  tables and three named classes by the Boolean operations. `folded` closes a set under
  case. Boolean operations on closed sets give closed sets, so it is enough to close
  the sets that a pattern names: `[^a]` without regard to case is the complement of
  the closed set of `a`.

  `mem` decides membership of one character; `ranges` lists a whole set.
-/

namespace JsxEdit

open Text

inductive CharSet where
  | empty
  | range (lo hi : Char)
  | table (ranges : CharRanges)
  | digit
  | blank
  | word
  | union (a b : CharSet)
  | inter (a b : CharSet)
  | compl (a : CharSet)
  | folded (a : CharSet)
deriving DecidableEq, Repr

namespace CharSet

def mem : CharSet → Char → Bool
  | empty, _ => false
  | range lo hi, c => decide (lo ≤ c ∧ c ≤ hi)
  | table ranges, c => ranges.contains c.toNat
  | digit, c => isDigit c
  | blank, c => isBlank c
  | word, c => isWord c
  | union a b, c => a.mem c || b.mem c
  | inter a b, c => a.mem c && b.mem c
  | compl a, c => !a.mem c
  | folded a, c => (variants c).any a.mem

/-- The code points of a set's members. -/
def ranges : CharSet → CharRanges
  | empty => []
  | range lo hi => if lo ≤ hi then [(lo.toNat, hi.toNat)] else []
  | table ranges => ranges
  | digit => digitRanges
  | blank => blankRanges
  | word => wordRanges
  | union a b => a.ranges.union b.ranges
  | inter a b => a.ranges.inter b.ranges
  | compl a => a.ranges.compl
  | folded a => foldClosure a.ranges

def single (c : Char) : CharSet := range c c
def all : CharSet := compl empty
def ascii : CharSet := range '\x00' '\x7f'
def diff (a b : CharSet) : CharSet := inter a (compl b)
def symmDiff (a b : CharSet) : CharSet := union (diff a b) (diff b a)
def ofList (sets : List CharSet) : CharSet := sets.foldl union empty

end CharSet

end JsxEdit
