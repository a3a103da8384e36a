import JsxEdit.Number.Binary64

/-!
  **Literals, template texts and names: the leaves of the tree.**

  A leaf that came from source text keeps the way it was written (`raw`); one made
  by the library has none, except in a template, where both forms are always
  present.
-/

namespace JsxEdit

/-- A string with the way it was written, if it came from source text. -/
structure StringLiteral where
  value : String
  raw : Option String := none
deriving DecidableEq, Repr, Inhabited

inductive Literal where
  | str (s : StringLiteral)
  | bool (value : Bool)
  | null
  | num (value : Binary64) (raw : Option String)
  | bigInt (sign : Int) (digits : List Nat) (raw : String)
  | regExp (pattern flags : String)
  /-- Markup text that stands where a literal may stand. -/
  | text (value raw : String)
deriving DecidableEq, Repr, Inhabited

/-- The text between two substitutions of a template. `cooked` is what it means, `raw`
    what is written; a text with an escape that has no meaning has no `cooked`. -/
structure Quasi where
  tail : Bool
  cooked : Option String
  raw : String
deriving DecidableEq, Repr, Inhabited

/-- The tag of an element: `div`, `Foo.Bar` or `svg:path`. -/
inductive TagName where
  | ident (name : String)
  | member (object : TagName) (property : String)
  | namespaced (space name : String)
deriving DecidableEq, Repr, Inhabited

/-- The name of an attribute: `id` or `xlink:href`. -/
inductive AttrName where
  | plain (name : String)
  | namespaced (space name : String)
deriving DecidableEq, Repr, Inhabited

/-- The name as it is written. -/
def AttrName.label : AttrName → String
  | plain name => name
  | namespaced space name => space ++ ":" ++ name

end JsxEdit
