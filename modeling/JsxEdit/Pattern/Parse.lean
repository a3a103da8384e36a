import JsxEdit.Pattern.Bracket
import JsxEdit.Pattern.Size

/-!
  **Reading patterns from text.**

  The syntax is the common one: alternation, groups (plain, named, `(?:…)`), the
  repetitions `* + ? {n} {n,} {n,m}`, bracket expressions, escapes, anchors, and flags
  for a group or for the rest of one. Look-around and back-references are refused, as is
  everything that is not well formed, nests too deep or grows too large; a text that is
  refused reads as `none`.

  The reader goes through the text once. Every call consumes at least one
  character, so its fuel is the length of the text.
-/

namespace JsxEdit.Pattern

open Text

/-! ### Counted repetition -/

/-- A decimal number below `2 ^ 32`, with blanks around it. -/
def readCount (f : Flags) (cs : List Char) : Option (Nat × List Char) :=
  let (digits, rest) := f.takeWhile Char.isDigit (cs.dropWhile isBlank)
  let n := digits.foldl (fun n c => 10 * n + (c.toNat - '0'.toNat)) 0
  if digits.isEmpty || decide (Nat.pow 2 32 ≤ n) then none
  else some (n, rest.dropWhile isBlank)

/-- The bounds of a counted repetition, after its opening brace: how often at least, and
    how often more than that. -/
def readBounds (f : Flags) (cs : List Char) : Option (Nat × Option Nat × List Char) := do
  let (least, rest) ← readCount f cs
  match rest with
  | '}' :: after => some (least, some 0, after)
  | ',' :: rest =>
    match f.skip rest with
    | '}' :: after => some (least, none, after)
    | rest =>
      let (most, rest) ← readCount f rest
      match rest with
      | '}' :: after => if least ≤ most then some (least, some (most - least), after) else none
      | _ => none
  | _ => none

/-- A question mark after a repetition makes it lazy. -/
def skipLazy : List Char → List Char
  | '?' :: rest => rest
  | cs => cs

/-! ### Groups -/

/-- What an opening parenthesis starts. -/
inductive Opening where
  /-- `(?i)`: flags for the rest of the enclosing group. -/
  | flags (f : Flags)
  /-- A group, with the flags that hold inside it; what a plain or named one matches
      is remembered. -/
  | group (f : Flags) (remembered : Bool)

/-- Letters that names may have besides the alphabetic characters of the property
    tables. -/
def newerLetterRanges : CharRanges :=
  [(0x88f, 0x88f), (0xc5c, 0xc5c), (0xcdc, 0xcdc), (0xa7ce, 0xa7cf), (0xa7d2, 0xa7d2),
   (0xa7d4, 0xa7d4), (0xa7f1, 0xa7f1), (0x10940, 0x10959), (0x10ec5, 0x10ec7), (0x10efa, 0x10efb),
   (0x11b60, 0x11b67), (0x11db0, 0x11ddb), (0x16ea0, 0x16eb8), (0x16ebb, 0x16ed3),
   (0x16ff2, 0x16ff6), (0x187f8, 0x187ff), (0x18d09, 0x18d1e), (0x18d80, 0x18df2),
   (0x1e6c0, 0x1e6de), (0x1e6e0, 0x1e6f5), (0x1e6fe, 0x1e6ff), (0x2b73a, 0x2b73f),
   (0x2cea2, 0x2cead), (0x323b0, 0x33479)]

def isNameLetter (c : Char) : Bool :=
  alphabeticRanges.contains c.toNat || newerLetterRanges.contains c.toNat

/-- Number characters of every kind; the last range is newer than the property tables. -/
def numberRanges : CharRanges := (inCategories numberCategories).union [(0x11de0, 0x11de9)]

/-- Letters, the underscore and, after the first character, numbers, dots and brackets. -/
def isGroupNameChar (c : Char) (first : Bool) : Bool :=
  c == '_' || isNameLetter c ||
    (!first && (numberRanges.contains c.toNat || ['.', '[', ']'].contains c))

/-- A group name up to its closing angle bracket; names must differ from each other. -/
def readGroupName (names : List String) (cs : List Char) : Option (String × List Char) :=
  let name := cs.takeWhile (· != '>')
  match name, cs.dropWhile (· != '>') with
  | c :: more, _ :: after =>
    let text := String.ofList name
    if isGroupNameChar c true && more.all (isGroupNameChar · false) && !names.contains text then
      some (text, after)
    else none
  | _, _ => none

/-- The part of a group before its pattern, after the opening parenthesis. -/
def readOpening (f : Flags) (names : List String) (cs : List Char) :
    Option (Opening × List String × List Char) :=
  let named (rest : List Char) : Option (Opening × List String × List Char) :=
    (readGroupName names rest).map fun (name, after) => (.group f true, name :: names, after)
  match f.skip cs with
  | '?' :: '=' :: _ => none
  | '?' :: '!' :: _ => none
  | '?' :: '<' :: '=' :: _ => none
  | '?' :: '<' :: '!' :: _ => none
  | '?' :: 'P' :: '<' :: rest => named rest
  | '?' :: '<' :: rest => named rest
  | '?' :: rest =>
    match readFlags f [] rest with
    | some (g, _, ':' :: after) => some (.group g false, names, after)
    | some (g, _ :: _, ')' :: after) => some (.flags g, names, after)
    | _ => none
  | cs => some (.group f true, names, cs)

/-! ### The whole pattern -/

/-- A pattern with the nesting depth of its description. -/
structure NestedPattern where
  pattern : Pattern
  depth : Nat

/-- What has been read of a group: finished branches and the items of the open one,
    both last first. An item is absent where flags were set: these cannot be repeated. -/
structure Group where
  flags : Flags := {}
  names : List String := []
  branches : List NestedPattern := []
  items : List (Option NestedPattern) := []

def Group.branch (g : Group) : NestedPattern where
  pattern := .ofList ((g.items.filterMap id).reverse.map (·.pattern))
  depth := nestingOf (g.items.map fun item => (item.map (·.depth)).getD 0)

def Group.whole (g : Group) : NestedPattern :=
  let branches := g.branch :: g.branches
  ⟨.anyOf (branches.reverse.map (·.pattern)), nestingOf (branches.map (·.depth))⟩

def Group.push (g : Group) (p : Pattern) (depth : Nat) : Group :=
  { g with items := some ⟨p, depth⟩ :: g.items }

/-- Repeats the last item, if there is one that can be repeated. -/
def Group.repeatLast (g : Group) (least : Nat) (more : Option Nat) : Option Group :=
  match g.items with
  | some p :: rest =>
    some { g with items := some ⟨.times p.pattern least more, p.depth + 1⟩ :: rest }
  | _ => none

/-- A character, dot, caret, dollar sign or escape. -/
def readAtom (f : Flags) (cs : List Char) : Option (Pattern × List Char) :=
  match cs with
  | [] => none
  | '.' :: rest => f.dot?.map (·, rest)
  | '^' :: rest => some (.anchor f.start, rest)
  | '$' :: rest => some (.anchor f.stop, rest)
  | '\\' :: rest =>
    (readEscape f rest).map fun (e, after) =>
      match e with
      | .char c => (f.char c, after)
      | .set s => (.chars s, after)
      | .anchor a => (.anchor a, after)
  | c :: rest => some (f.char c, rest)

/-- Reads a group up to its closing parenthesis, or the whole text at the top level. -/
def readGroup (nested : Bool) :
    Nat → Group → List Char → Option (NestedPattern × List String × List Char)
  | 0, _, _ => none
  | fuel + 1, g, cs =>
    let repeated (least : Nat) (more : Option Nat) (rest : List Char) :
        Option (NestedPattern × List String × List Char) :=
      match g.repeatLast least more with
      | some g => readGroup nested fuel g (skipLazy rest)
      | none => none
    match g.flags.skip cs with
    | [] => if nested then none else some (g.whole, g.names, [])
    | ')' :: rest => if nested then some (g.whole, g.names, rest) else none
    | '|' :: rest =>
      readGroup nested fuel { g with branches := g.branch :: g.branches, items := [] } rest
    | '(' :: rest =>
      match readOpening g.flags g.names rest with
      | none => none
      | some (.flags f, names, after) =>
        readGroup nested fuel { g with flags := f, names, items := none :: g.items } after
      | some (.group f remembered, names, after) =>
        match readGroup true fuel { flags := f, names } after with
        | none => none
        | some (p, names, after) =>
          let g := g.push (.group remembered p.pattern) (p.depth + 1)
          readGroup nested fuel { g with names } after
    | '[' :: rest =>
      let (b, rest) := openBracket g.flags rest
      match readBracket g.flags fuel b rest with
      | some (s, after) => readGroup nested fuel (g.push (.chars s.set) s.depth) after
      | none => none
    | '*' :: rest => repeated 0 none rest
    | '+' :: rest => repeated 1 none rest
    | '?' :: rest => repeated 0 (some 1) rest
    | '{' :: rest =>
      match readBounds g.flags rest with
      | some (least, more, after) => repeated least more (g.flags.skip after)
      | none => none
    | cs =>
      match readAtom g.flags cs with
      | some (p, rest) => readGroup nested fuel (g.push p 0) rest
      | none => none

def depthLimit : Nat := 250

/-- The pattern a text describes, if it describes one within the limits. -/
def parse? (text : String) : Option Pattern := do
  let chars := text.toList
  let (p, _) ← readGroup false (chars.length + 1) {} chars
  if p.depth ≤ depthLimit && p.pattern.fits then some p.pattern else none

end JsxEdit.Pattern
