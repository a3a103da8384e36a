import JsxEdit.Pattern.Flags
import JsxEdit.Text.Property.Query

/-!
  **Escapes.**

  After a backslash: punctuation that stands for itself, control characters, code
  points in hexadecimal, classes of characters, character properties, and anchors.
-/

namespace JsxEdit.Pattern

open Text

inductive Escape where
  | char (c : Char)
  | set (s : CharSet)
  | anchor (a : Anchor)

/-- ASCII punctuation and other ASCII characters that stand for themselves after a
    backslash: all but letters, digits and the angle brackets. -/
def isEscapable (c : Char) : Bool := decide (c.toNat < 128) && !c.isAlphanum && c != '<' && c != '>'

/-! ### Code points -/

/-- The character with the hexadecimal code point `digits`, if it is one. -/
def charOfHex? (digits : List Char) : Option Char := do
  let values ← digits.mapM hexValue?
  let n := values.foldl (fun n v => 16 * n + v) 0
  if values ≠ [] ∧ n.isValidChar then some (Char.ofNat n) else none

/-- The digits after the letter of a code point escape, between braces or `width` of
    them, and whether there are braces. -/
def readHex (f : Flags) (width : Nat) (cs : List Char) : Option (Char × Bool × List Char) :=
  match f.skip cs with
  | '{' :: rest =>
    match f.takeWhile (· != '}') rest with
    | (digits, _ :: after) => (charOfHex? digits).map (·, true, after)
    | _ => none
  | cs =>
    let (digits, after) := f.span isHexDigit width false cs
    if digits.length = width then (charOfHex? digits).map (·, false, after) else none

/-- Two digits without braces name a byte, which without Unicode has to be ASCII. -/
def readByte (f : Flags) (cs : List Char) : Option (Char × List Char) := do
  let (c, braces, rest) ← readHex f 2 cs
  if f.unicode || braces || CharSet.ascii.mem c then some (c, rest) else none

/-! ### Word boundaries -/

/-- After `\b`: the name of a one-sided boundary between braces. A brace that does not
    open a name is left for the counted repetition. -/
def readBoundary (f : Flags) (cs : List Char) : Option (WordEdge × List Char) :=
  match cs with
  | '{' :: rest =>
    match f.takeWhile (fun c => c.isAlpha || c == '-') rest with
    | ([], []) => none
    | ([], _) => some (.boundary, cs)
    | (name, '}' :: after) =>
      match String.ofList name with
      | "start" => some (.start, after)
      | "end" => some (.stop, after)
      | "start-half" => some (.startHalf, after)
      | "end-half" => some (.stopHalf, after)
      | _ => none
    | _ => none
  | cs => some (.boundary, cs)

/-! ### Character properties -/

/-- Divides a text at the first place where `mark` stands. -/
def divideAt? (mark : List Char) : List Char → Option (List Char × List Char)
  | [] => none
  | c :: rest =>
    if mark.isPrefixOf (c :: rest) then some ([], (c :: rest).drop mark.length)
    else (divideAt? mark rest).map fun (before, after) => (c :: before, after)

/-- A property, or the value of a property after `=`, `:` or `!=`; the last makes no
    difference. -/
def propertySet? (text : List Char) : Option CharSet :=
  let parts := divideAt? ['!', '='] text <|> divideAt? [':'] text <|> divideAt? ['='] text
  (match parts with
    | some (name, value) => propertyValue? name value
    | none => property? text).map .table

/-- After `\p` or `\P`: one letter, or a name between braces. -/
def readProperty (f : Flags) (negated : Bool) (cs : List Char) :
    Option (CharSet × List Char) := do
  let (name, after) ←
    match f.skip cs with
    | [] => none
    | '{' :: rest =>
      match f.takeWhile (· != '}') rest with
      | (name, _ :: after) => some (name, after)
      | _ => none
    | c :: after => if c == '\\' then none else some ([c], after)
  let s ← propertySet? name
  let s ← if f.unicode then f.negate? negated (f.close s) else none
  some (s, after)

/-! ### All escapes -/

/-- What follows a backslash. -/
def readEscape (f : Flags) (cs : List Char) : Option (Escape × List Char) :=
  let class? (negated : Bool) (s : CharSet) (rest : List Char) : Option (Escape × List Char) :=
    (f.negate? negated s).map fun s => (.set s, rest)
  let property? (negated : Bool) (rest : List Char) : Option (Escape × List Char) :=
    (readProperty f negated rest).map fun (s, r) => (.set s, r)
  match cs with
  | [] => none
  | c :: rest =>
    if isEscapable c then some (.char c, rest)
    else
      match c with
      | 'd' => class? false f.digit rest
      | 'D' => class? true f.digit rest
      | 's' => class? false f.blank rest
      | 'S' => class? true f.blank rest
      | 'w' => class? false f.word rest
      | 'W' => class? true f.word rest
      | 'p' => property? false rest
      | 'P' => property? true rest
      | 'a' => some (.char '\x07', rest)
      | 'f' => some (.char '\x0c', rest)
      | 't' => some (.char '\t', rest)
      | 'n' => some (.char '\n', rest)
      | 'r' => some (.char '\r', rest)
      | 'v' => some (.char '\x0b', rest)
      | 'x' => (readByte f rest).map fun (c, r) => (.char c, r)
      | 'u' => (readHex f 4 rest).map fun (c, _, r) => (.char c, r)
      | 'U' => (readHex f 8 rest).map fun (c, _, r) => (.char c, r)
      | 'A' => some (.anchor .textStart, rest)
      | 'z' => some (.anchor .textEnd, rest)
      | 'b' => (readBoundary f rest).map fun (e, r) => (.anchor (f.edge e), r)
      | 'B' => some (.anchor (f.edge .inside), rest)
      | '<' => some (.anchor (f.edge .start), rest)
      | '>' => some (.anchor (f.edge .stop), rest)
      | _ => none

end JsxEdit.Pattern
