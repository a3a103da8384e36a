import JsxEdit.Shape
import JsxEdit.Value

/-!
  **Making new pieces of a tree.**

  A made literal has no written form of its own, and a made template text has the
  same text as meaning and as written form.
-/

namespace JsxEdit

/-- `<name>children</name>` -/
def Element.make (name : String) (children : List Node) : Element :=
  { tag := .ident name, attrs := [], selfClosing := false, children, closing := some (.ident name) }

/-! ### Literals and attribute values -/

def Literal.ofString (s : String) : Literal := .str { value := s }

/-- A scalar as an attribute value: strings stand bare, all others in braces. -/
def Scalar.toNode : Scalar → Node
  | null => .braces (.literal .null)
  | bool b => .braces (.literal (.bool b))
  | num x => .braces (.literal (.num x none))
  | str s => .literal (.ofString s)

def Value.toNode? (v : Value) : Option Node := v.scalar?.map Scalar.toNode

theorem Value.toNode?_ofScalar (s : Scalar) : (ofScalar s).toNode? = some s.toNode := by
  cases s <;> rfl

/-- `{undefined}`: no literal has this meaning. -/
def Node.undefined : Node := .braces (.ident "undefined")

/-- `name="value"`, or `name` alone when the value is missing or empty. -/
def Attr.ofLiteral (name : String) (value : Option String) : Attr :=
  { name := .plain name
    value := (value.filter (· != "")).map fun v => .literal (.ofString v) }

/-! ### Templates -/

def Quasi.make (text : String) (tail : Bool) : Quasi := { tail, cooked := some text, raw := text }

/-- Template texts, the last of which is marked as the tail. -/
def Quasi.makeAll : List String → List Quasi
  | [] => []
  | [last] => [make last true]
  | text :: texts => make text false :: makeAll texts

theorem Quasi.map_raw_makeAll (texts : List String) : (makeAll texts).map raw = texts := by
  induction texts using makeAll.induct with
  | case1 => rfl
  | case2 last => rfl
  | case3 text texts _ ih => simp only [makeAll, List.map_cons, make, ih]

/-- A template of the given texts around the expressions; there must be exactly one
    more text than expressions. -/
def Template.make? (texts : List String) (exprs : List Node) : Option Template :=
  if exprs.length + 1 = texts.length then some { exprs, quasis := Quasi.makeAll texts } else none

/-! ### Imports -/

/-- `{ name as alias }`, or `{ name }` when the alias is missing, empty or the same. -/
def Specifier.make (name : String) (alias? : Option String) : Specifier :=
  let binding := (alias?.filter (· != "")).getD name
  .named binding (if binding = name then none else some (.ident name)) false

def Specifier.isValid (s : Specifier) : Bool := (Shape.importSpecifier s).isValidImportSpecifier

/-- An import of the default and named specifiers among those given, if there are any. -/
def Import.make? (specifiers : List Specifier) (path : String) : Option Import :=
  match specifiers.filter Specifier.isValid with
  | [] => none
  | valid =>
    some { specifiers := valid, source := { value := path }, typeOnly := false,
           phase := "evaluation", attributes := none }

end JsxEdit
