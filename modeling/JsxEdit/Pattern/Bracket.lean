import JsxEdit.Pattern.Escape

/-!
  **Bracket expressions.**

  Between brackets stand characters, ranges, escapes, named ASCII classes and further
  bracket expressions, which are united, and the operations `&& -- ~~` between such
  unions. They group to the left. A caret at the start negates the whole.

  Along with the set of a bracket expression the reader keeps how deep it nests.
-/

namespace JsxEdit.Pattern

open Text

/-! ### Members -/

/-- One character or escape of a bracket expression. Without Unicode, its characters
    are ASCII. -/
def readMember (f : Flags) (cs : List Char) : Option (Escape × List Char) := do
  let (e, rest) ←
    match cs with
    | [] => none
    | '\\' :: rest => readEscape f rest
    | c :: rest => some (.char c, rest)
  match e with
  | .char c => if f.unicode || CharSet.ascii.mem c then some (e, rest) else none
  | _ => some (e, rest)

/-- A member, or a range when a minus sign follows that is neither the last
    character of the bracket nor half of a set operation. -/
def readRange (f : Flags) (cs : List Char) : Option (CharSet × List Char) := do
  let (first, rest) ← readMember f cs
  let rest := f.skip rest
  let isRange : Bool :=
    match rest with
    | '-' :: more => f.peek more != some ']' && f.peek more != some '-'
    | _ => false
  if isRange then
    let (last, rest) ← readMember f (f.skip (rest.drop 1))
    match first, last with
    | .char lo, .char hi => if lo ≤ hi then some (f.close (.range lo hi), rest) else none
    | _, _ => none
  else
    match first with
    | .char c => some (f.close (.single c), rest)
    | .set s => some (s, rest)
    | .anchor _ => none

/-- The ASCII classes that may be named inside brackets. -/
def namedClass? (name : String) : Option CharSet :=
  let upper := CharSet.range 'A' 'Z'
  let lower := CharSet.range 'a' 'z'
  let number := CharSet.range '0' '9'
  match name with
  | "alnum" => some asciiLetterOrDigit
  | "alpha" => some (.union upper lower)
  | "ascii" => some .ascii
  | "blank" => some (.union (.single '\t') (.single ' '))
  | "cntrl" => some (.union (.range '\x00' '\x1f') (.single '\x7f'))
  | "digit" => some number
  | "graph" => some (.range '!' '~')
  | "lower" => some lower
  | "print" => some (.range ' ' '~')
  | "punct" => some (.diff (.range '!' '~') asciiLetterOrDigit)
  | "space" => some asciiBlank
  | "upper" => some upper
  | "word" => some asciiWord
  | "xdigit" => some (.ofList [number, .range 'A' 'F', .range 'a' 'f'])
  | _ => none

/-- `[:name:]` or `[:^name:]`, after its opening bracket: the class, whether it is
    negated, and the rest. -/
def readNamedClass (cs : List Char) : Option (CharSet × Bool × List Char) :=
  match cs with
  | ':' :: rest =>
    let (negated, rest) : Bool × List Char :=
      match rest with
      | '^' :: r => (true, r)
      | r => (false, r)
    match rest.dropWhile (· != ':') with
    | ':' :: ']' :: after =>
      (namedClass? (String.ofList (rest.takeWhile (· != ':')))).map (·, negated, after)
    | _ => none
  | _ => none

/-! ### The whole bracket expression -/

/-- Several parts at one level nest one deeper than the deepest of them. -/
def nestingOf (depths : List Nat) : Nat :=
  match depths with
  | [] => 0
  | [d] => d
  | depths => depths.foldl max 0 + 1

/-- A set with the nesting depth of its description. -/
structure NestedSet where
  set : CharSet
  depth : Nat

/-- What has been read of a bracket expression: the left operand of the set operation
    that is waiting for its right one, and the members collected since, last first. -/
structure Bracket where
  negated : Bool
  waiting : Option ((CharSet → CharSet → CharSet) × NestedSet) := none
  members : List NestedSet := []

def Bracket.collected (b : Bracket) : NestedSet :=
  ⟨.ofList (b.members.reverse.map (·.set)), nestingOf (b.members.map (·.depth))⟩

def Bracket.value (b : Bracket) : NestedSet :=
  match b.waiting with
  | some (op, left) =>
    let right := b.collected
    ⟨op left.set right.set, max left.depth right.depth + 1⟩
  | none => b.collected

def Bracket.add (b : Bracket) (s : CharSet) (depth : Nat) : Bracket :=
  { b with members := ⟨s, depth⟩ :: b.members }

def Bracket.operate (b : Bracket) (op : CharSet → CharSet → CharSet) : Bracket :=
  { b with waiting := some (op, b.value), members := [] }

def Bracket.close? (f : Flags) (b : Bracket) : Option NestedSet :=
  (f.negate? b.negated b.value.set).map (⟨·, b.value.depth + 1⟩)

/-- The start of a bracket expression, after its opening bracket: an optional caret,
    then minus signs or one closing bracket, which are members there. -/
def openBracket (f : Flags) (cs : List Char) : Bracket × List Char :=
  let (negated, cs) : Bool × List Char :=
    match f.skip cs with
    | '^' :: rest => (true, f.skip rest)
    | cs => (false, cs)
  match f.takeWhile (· == '-') cs with
  | ([], ']' :: rest) => (({ negated } : Bracket).add (.single ']') 0, rest)
  | (dashes, rest) => (dashes.foldl (fun b c => b.add (.single c) 0) { negated }, rest)

/-- Reads a bracket expression to its end. Each turn takes a character, so the fuel is
    the length of the text. -/
def readBracket (f : Flags) : Nat → Bracket → List Char → Option (NestedSet × List Char)
  | 0, _, _ => none
  | fuel + 1, b, cs =>
    match f.skip cs with
    | [] => none
    | '[' :: rest =>
      match readNamedClass rest with
      | some (s, negated, after) =>
        match f.negate? negated (f.close s) with
        | some s => readBracket f fuel (b.add s 0) after
        | none => none
      | none =>
        let (inner, rest) := openBracket f rest
        match readBracket f fuel inner rest with
        | some (s, after) => readBracket f fuel (b.add s.set s.depth) after
        | none => none
    | ']' :: rest => (b.close? f).map (·, rest)
    | '&' :: '&' :: rest => readBracket f fuel (b.operate .inter) rest
    | '-' :: '-' :: rest => readBracket f fuel (b.operate .diff) rest
    | '~' :: '~' :: rest => readBracket f fuel (b.operate .symmDiff) rest
    | cs =>
      match readRange f cs with
      | some (s, rest) => readBracket f fuel (b.add s 0) rest
      | none => none

end JsxEdit.Pattern
