import JsxEdit.Syntax.Kind
import JsxEdit.Syntax.Literal

/-!
  **The syntax tree.**

  Every subtree is a `Node`, whatever its place: expression, statement, pattern,
  object member, markup child or attribute value. One sort of nodes makes a walk one
  recursion and lets "somewhere in the tree" be said once. The parts that edits work
  on have types of their own: an element with its attribute list, an attribute, a
  template.

  The forms that the library looks into are constructors; all others are `other`,
  with their parts in visiting order. In a list of call arguments, array items or
  object members, `spread e` is `...e`.
-/

namespace JsxEdit

/-- A property of a node that is not a subtree: an operator, `async`, and so on. -/
inductive Detail where
  | text (value : String)
  | flag (value : Bool)
deriving DecidableEq, Repr, Inhabited

mutual

inductive Node where
  | ident (name : String)
  | literal (value : Literal)
  | template (value : Template)
  | call (callee : Node) (args : List Node)
  | member (object property : Node)
  | object (members : List Node)
  /-- The object member `key: value`. -/
  | keyValue (key value : Node)
  | paren (inner : Node)
  | spread (inner : Node)
  | element (value : Element)
  | fragment (children : List Node)
  /-- `{e}` as a child or an attribute value. -/
  | braces (inner : Node)
  /-- `{}`, possibly with a comment inside. -/
  | emptyBraces
  /-- Text between tags. -/
  | text (value raw : String)
  | list (items : List Node)
  /-- A missing optional part, or a hole in an array. -/
  | absent
  | other (kind : Kind) (details : List (String × Detail)) (parts : List Node)

/-- A template literal: texts and the expressions substituted between them. -/
structure Template where
  exprs : List Node
  quasis : List Quasi

structure Element where
  tag : TagName
  attrs : List AttrEntry
  selfClosing : Bool
  children : List Node
  /-- The name of the closing tag, if there is one. -/
  closing : Option TagName

/-- An attribute; without a value it stands for `true`. -/
structure Attr where
  name : AttrName
  value : Option Node

/-- What an attribute list holds: attributes and `{...e}`. -/
inductive AttrEntry where
  | attr (a : Attr)
  | spread (inner : Node)

end

deriving instance Inhabited for Node
deriving instance Inhabited for Template
deriving instance Inhabited for Element
deriving instance Inhabited for Attr
deriving instance Inhabited for AttrEntry

namespace AttrEntry

/-- The name of a plain attribute. Namespaced attributes and spreads have none. -/
def name? : AttrEntry → Option String
  | attr { name := .plain name, .. } => some name
  | _ => none

/-- Is this a plain attribute of the given name? -/
def hasName (name : String) (entry : AttrEntry) : Bool := entry.name? == some name

theorem hasName_iff {name : String} {entry : AttrEntry} :
    entry.hasName name = true ↔ entry.name? = some name := by
  simp only [hasName, beq_iff_eq]

end AttrEntry

namespace Element

/-- The plain name of an element: `Box`, but not `Foo.Bar` or `svg:path`. -/
def name? (e : Element) : Option String :=
  match e.tag with
  | .ident name => some name
  | _ => none

/-- Renames the opening tag, and the closing tag if there is one. -/
def rename (e : Element) (name : String) : Element :=
  { e with tag := .ident name, closing := e.closing.map fun _ => .ident name }

end Element

end JsxEdit
