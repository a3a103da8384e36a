import JsxEdit.Pattern.Basic

/-!
  **Flags and what they change.**

  A group, or the rest of one, may ignore case (`i`), let `^` and `$` hold at every
  line (`m`), let the dot match line ends (`s`), end lines also at a carriage return
  (`R`), allow layout (`x`) or give up Unicode (`u`).

  Without Unicode, classes and word boundaries know ASCII only, and what could match a
  part of a character is refused: the dot and every negated class.
-/

namespace JsxEdit.Pattern

open Text

/-- What the flags say at a place in the pattern. -/
structure Flags where
  ignoreCase : Bool := false
  multiLine : Bool := false
  dotAll : Bool := false
  returnLines : Bool := false
  layout : Bool := false
  unicode : Bool := true

/-! ### Reading flags -/

/-- The flag letters that exist. `U` is read and changes nothing here: whether a text
    matches does not depend on greed. -/
def isFlagLetter (c : Char) : Bool := ['i', 'm', 's', 'R', 'x', 'U', 'u'].contains c

def Flags.set (f : Flags) (letter : Char) (on : Bool) : Flags :=
  match letter with
  | 'i' => { f with ignoreCase := on }
  | 'm' => { f with multiLine := on }
  | 's' => { f with dotAll := on }
  | 'R' => { f with returnLines := on }
  | 'x' => { f with layout := on }
  | 'u' => { f with unicode := on }
  | _ => f

/-- Reads flag letters up to `:` or `)`, which is left in place. `seen` holds the
    letters (and the minus sign) read so far; none may come twice, and a minus sign
    must have a letter after it. -/
def readFlags (f : Flags) (seen : List Char) :
    List Char → Option (Flags × List Char × List Char)
  | [] => none
  | c :: rest =>
    if c == ':' || c == ')' then
      if seen.head? == some '-' then none else some (f, seen, c :: rest)
    else if seen.contains c then none
    else if c == '-' then readFlags f (c :: seen) rest
    else if isFlagLetter c then readFlags (f.set c (!seen.contains '-')) (c :: seen) rest
    else none

/-! ### Layout -/

/-- Takes up to `most` characters that satisfy `ok`, and returns them with the rest.
    Layout is skipped before, between and after them where it is allowed: blanks, and
    comments from `#` to the end of the line. -/
def Flags.span (f : Flags) (ok : Char → Bool) (most : Nat) (inComment : Bool) :
    List Char → List Char × List Char
  | [] => ([], [])
  | c :: rest =>
    if inComment then f.span ok most (c != '\n') rest
    else if f.layout && isBlank c then f.span ok most false rest
    else if f.layout && c == '#' then f.span ok most true rest
    else if most = 0 || !ok c then ([], c :: rest)
    else
      let (taken, rest) := f.span ok (most - 1) false rest
      (c :: taken, rest)

/-- Takes all characters up to the first that does not satisfy `ok`. -/
def Flags.takeWhile (f : Flags) (ok : Char → Bool) (cs : List Char) : List Char × List Char :=
  f.span ok cs.length false cs

/-- What follows the layout. -/
def Flags.skip (f : Flags) (cs : List Char) : List Char := (f.span (fun _ => false) 0 false cs).2

/-- The next character to count. Of a comment its mark is passed over, and not its text. -/
def nextVisible (inComment : Bool) : List Char → Option Char
  | [] => none
  | c :: rest =>
    if isBlank c then nextVisible inComment rest
    else if c == '#' && !inComment then nextVisible true rest
    else some c

/-- What the reader sees ahead, before it takes the layout there. -/
def Flags.peek (f : Flags) (cs : List Char) : Option Char :=
  if f.layout then (nextVisible false cs).or cs.head? else cs.head?

/-! ### Sets and anchors -/

/-- A set with all that differs from a member in case only, where case is ignored. -/
def Flags.close (f : Flags) (s : CharSet) : CharSet :=
  if !f.ignoreCase then s
  else if f.unicode then .folded s
  else .inter .ascii (.folded s)

/-- The complement of a set if `negated`. -/
def Flags.negate? (f : Flags) (negated : Bool) (s : CharSet) : Option CharSet :=
  if !negated then some s
  else if f.unicode then some (.compl s)
  else none

def asciiLetterOrDigit : CharSet :=
  .ofList [.range 'A' 'Z', .range 'a' 'z', .range '0' '9']

def asciiWord : CharSet := .union asciiLetterOrDigit (.single '_')

def asciiBlank : CharSet := .union (.range '\t' '\r') (.single ' ')

def Flags.digit (f : Flags) : CharSet := if f.unicode then .digit else .range '0' '9'
def Flags.blank (f : Flags) : CharSet := if f.unicode then .blank else asciiBlank
def Flags.word (f : Flags) : CharSet := if f.unicode then .word else asciiWord

def Flags.edge (f : Flags) (e : WordEdge) : Anchor := .edge e f.word

/-- A character that stands for itself. Without Unicode, only ASCII has case. -/
def Flags.char (f : Flags) (c : Char) : Pattern :=
  .chars (if f.unicode || CharSet.ascii.mem c then f.close (.single c) else .single c)

def Flags.dot? (f : Flags) : Option Pattern :=
  if !f.unicode then none
  else if f.dotAll then some (.chars .all)
  else if f.returnLines then some (.chars (.compl (.union (.single '\n') (.single '\r'))))
  else some (.chars (.compl (.single '\n')))

def Flags.start (f : Flags) : Anchor :=
  if !f.multiLine then .textStart
  else if f.returnLines then .returnLineStart else .lineStart

def Flags.stop (f : Flags) : Anchor :=
  if !f.multiLine then .textEnd
  else if f.returnLines then .returnLineEnd else .lineEnd

end JsxEdit.Pattern
