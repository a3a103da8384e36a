import JsxEdit.Pattern.CharSet

/-!
  **Patterns and what they match.**

  A pattern is searched for anywhere in a text, and only whether it occurs is
  asked. The search goes through the text once and keeps what is still to be matched:
  the residuals of the pattern for every place where a match may have started. It
  succeeds where a residual has nothing left to match. A residual that came up before
  is kept once, so their number depends on the pattern and not on the text. Greedy
  and lazy repetition do not differ here.
-/

namespace JsxEdit

/-! ### Anchors -/

/-- A place at the edge of a word, or away from one. The halves look at one side only. -/
inductive WordEdge where
  | boundary
  | inside
  | start
  | stop
  | startHalf
  | stopHalf
deriving DecidableEq, Repr

/-- Is the edge there, between characters of which it is known whether they are in a
    word? -/
def WordEdge.holds (before after : Bool) : WordEdge → Bool
  | boundary => before != after
  | inside => before == after
  | start => !before && after
  | stop => before && !after
  | startHalf => !before
  | stopHalf => !after

/-- A condition on a position, given by the characters on either side of it. -/
inductive Anchor where
  | textStart
  | textEnd
  | lineStart
  | lineEnd
  | returnLineStart
  | returnLineEnd
  /-- An edge of the words that are made of these letters. -/
  | edge (e : WordEdge) (letters : CharSet)
deriving DecidableEq, Repr

/-- `returnLineStart` and `returnLineEnd` also break lines at a carriage return, but
    never between the two halves of `\r\n`. -/
def Anchor.holds (before after : Option Char) : Anchor → Bool
  | .textStart => before.isNone
  | .textEnd => after.isNone
  | .lineStart => before.all (· == '\n')
  | .lineEnd => after.all (· == '\n')
  | .returnLineStart =>
    before.all fun c => c == '\n' || (c == '\r' && after != some '\n')
  | .returnLineEnd =>
    after.all fun c => c == '\r' || (c == '\n' && before != some '\r')
  | .edge e letters => e.holds (before.any letters.mem) (after.any letters.mem)

/-! ### Patterns -/

inductive Pattern where
  | empty
  | chars (set : CharSet)
  | anchor (a : Anchor)
  | seq (p q : Pattern)
  | alt (p q : Pattern)
  /-- `p` at least `least` times and then up to `more` times, or any number of times if
      `more` is not given. -/
  | times (p : Pattern) (least : Nat) (more : Option Nat)
  /-- A group matches what `p` does, whether or not what it matched is remembered. -/
  | group (remembered : Bool) (p : Pattern)
deriving DecidableEq, Repr

namespace Pattern

def star (p : Pattern) : Pattern := times p 0 none
def plus (p : Pattern) : Pattern := times p 1 none

/-- The patterns one after another. -/
def ofList : List Pattern → Pattern
  | [] => empty
  | [p] => p
  | p :: ps => seq p (ofList ps)

/-- Any one of the patterns. -/
def anyOf : List Pattern → Pattern
  | [] => empty
  | [p] => p
  | p :: ps => alt p (anyOf ps)

/-! ### Residuals

A position in a text is known by the characters before and after it, which are absent
at the ends. -/

/-- Does the pattern match the empty text at a position? -/
def matchesEmpty (before after : Option Char) : Pattern → Bool
  | empty => true
  | chars _ => false
  | anchor a => a.holds before after
  | seq p q => p.matchesEmpty before after && q.matchesEmpty before after
  | alt p q => p.matchesEmpty before after || q.matchesEmpty before after
  | times p least _ => least == 0 || p.matchesEmpty before after
  | group _ p => p.matchesEmpty before after

/-- `p` and then `q`. -/
def followedBy (p q : Pattern) : Pattern :=
  match p with
  | empty => q
  | p => seq p q

/-- What is left of a repetition after one round; nothing if no round is allowed. Where
    `p` also matches the empty text, the rounds still required may have been empty
    ones, which leaves them allowed and no longer required. -/
def roundsLeft (p : Pattern) (optional : Bool) : Nat → Option Nat → Option Pattern
  | 0, none => some (times p 0 none)
  | 0, some 0 => none
  | 0, some (more + 1) => some (times p 0 (some more))
  | least + 1, more =>
    some (if optional then times p 0 (more.map (· + least)) else times p least more)

/-- What may be left to match once `p` has taken the character `c`. -/
def residuals (before : Option Char) (c : Char) : Pattern → List Pattern
  | empty => []
  | chars set => if set.mem c then [empty] else []
  | anchor _ => []
  | seq p q =>
    (residuals before c p).map (·.followedBy q) ++
      (if p.matchesEmpty before (some c) then residuals before c q else [])
  | alt p q => residuals before c p ++ residuals before c q
  | times p least more =>
    match roundsLeft p (p.matchesEmpty before (some c)) least more with
    | some rest => (residuals before c p).map (·.followedBy rest)
    | none => []
  | group _ p => residuals before c p

/-! ### Search -/

/-- Searches the rest of a text for `p`, or for the end of a match that has begun and
    has one of the `pending` patterns left. -/
def search (p : Pattern) (before : Option Char) (pending : List Pattern) : List Char → Bool
  | [] => (p :: pending).any (matchesEmpty before none)
  | c :: rest =>
    (p :: pending).any (matchesEmpty before (some c)) ||
      search p (some c) ((p :: pending).flatMap (residuals before c)).eraseDups rest

/-- Does `p` match somewhere in `text`? -/
def occursIn (p : Pattern) (text : String) : Bool := p.search none [] text.toList

end Pattern

end JsxEdit
