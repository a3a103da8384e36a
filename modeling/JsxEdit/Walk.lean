import JsxEdit.Shape
import JsxEdit.Text.Blank

/-!
  **Walking a whole tree, bottom up.**

  A walk rebuilds the tree: it replaces the parts of a node first, in visiting order,
  and then hands the rebuilt node to its visitor, whose answer takes its place. So a
  visitor sees a node when everything below it is done, and what it puts in place of
  a node is not visited again. The visitor's effects, a count or any other state, come
  in the same order.

  One recursion serves both uses: calls are nodes, and elements are visited as such
  wherever they stand, as nodes of any position.
-/

namespace JsxEdit

/-- What to do with each rebuilt node and each rebuilt element. -/
structure Visitor (m : Type → Type) where
  node : Node → m Node
  element : Element → m Element

section

variable {m : Type → Type} [Monad m]

mutual

def Node.walk (v : Visitor m) : Node → m Node
  | .ident name => v.node (.ident name)
  | .literal l => v.node (.literal l)
  | .template ⟨exprs, quasis⟩ => do v.node (.template ⟨← walkNodes v exprs, quasis⟩)
  | .call callee args => do v.node (.call (← callee.walk v) (← walkNodes v args))
  | .member object property => do v.node (.member (← object.walk v) (← property.walk v))
  | .object members => do v.node (.object (← walkNodes v members))
  | .keyValue key value => do v.node (.keyValue (← key.walk v) (← value.walk v))
  | .paren inner => do v.node (.paren (← inner.walk v))
  | .spread inner => do v.node (.spread (← inner.walk v))
  | .element e => do v.node (.element (← e.walk v))
  | .fragment children => do v.node (.fragment (← walkNodes v children))
  | .braces inner => do v.node (.braces (← inner.walk v))
  | .emptyBraces => v.node .emptyBraces
  | .text value raw => v.node (.text value raw)
  | .list items => do v.node (.list (← walkNodes v items))
  | .absent => v.node .absent
  | .other kind details parts => do v.node (.other kind details (← walkNodes v parts))

def Element.walk (v : Visitor m) : Element → m Element
  | ⟨tag, attrs, selfClosing, children, closing⟩ => do
    v.element ⟨tag, ← walkEntries v attrs, selfClosing, ← walkNodes v children, closing⟩

def walkNodes (v : Visitor m) : List Node → m (List Node)
  | [] => pure []
  | n :: rest => return (← n.walk v) :: (← walkNodes v rest)

def walkEntries (v : Visitor m) : List AttrEntry → m (List AttrEntry)
  | [] => pure []
  | e :: rest => return (← e.walk v) :: (← walkEntries v rest)

def AttrEntry.walk (v : Visitor m) : AttrEntry → m AttrEntry
  | .attr ⟨name, none⟩ => pure (.attr ⟨name, none⟩)
  | .attr ⟨name, some value⟩ => return .attr ⟨name, some (← value.walk v)⟩
  | .spread inner => return .spread (← inner.walk v)

end

def Item.walk (v : Visitor m) : Item → m Item
  | .importing i =>
    match i.attributes with
    | none => pure (.importing i)
    | some members => return .importing { i with attributes := some (← walkNodes v members) }
  | .node n => return .node (← n.walk v)

def walkItems (v : Visitor m) : List Item → m (List Item)
  | [] => pure []
  | item :: rest => return (← item.walk v) :: (← walkItems v rest)

def Module.walk (v : Visitor m) (x : Module) : m Module := return ⟨← walkItems v x.body⟩

/-! ### Elements -/

/-- Replaces every element by what `f` makes of it, inner elements first. -/
def Module.forEachElement (x : Module) (f : Element → m Element) : m Module :=
  x.walk { node := pure, element := f }

end

/-- Renames one element if it has the old name, and counts it. -/
def Element.renameIf (old new : String) (e : Element) : StateM Nat Element := do
  if e.name? = some old then
    modify (· + 1)
    return e.rename new
  else return e

/-- Renames all elements with the old name; returns how many there were. -/
def Module.renameElements (x : Module) (old new : String) : Module × Nat :=
  (x.forEachElement (Element.renameIf old new)).run 0

/-! ### Calls -/

def Node.isSpread : Node → Bool
  | .spread _ => true
  | _ => false

/-- The first argument of a call, unless it is spread. -/
def Node.firstArg? : Node → Option Node
  | .call _ (arg :: _) => if arg.isSpread then none else some arg
  | _ => none

/-- Replaces a call by its first argument; says whether it did. -/
def Node.unwrapCall (n : Node) : Node × Bool :=
  match n.firstArg? with
  | some arg => (arg, true)
  | none => (n, false)

/-- Unwraps one call of the named function, and counts it. -/
def Node.unwrapIf (name : String) (n : Node) : StateM Nat Node := do
  if n.shape.isCallOf name then
    match n.firstArg? with
    | some arg =>
      modify (· + 1)
      return arg
    | none => return n
  else return n

/-- Replaces all calls of the named function by their first arguments, innermost first;
    returns how many there were. -/
def Module.unwrapCallsOf (x : Module) (name : String) : Module × Nat :=
  if name = "" then (x, 0)
  else (x.walk { node := Node.unwrapIf name, element := pure }).run 0

/-! ### Children -/

/-- Text that only lays out the source. -/
def Node.isLayout : Node → Bool
  | .text value _ => Text.isAllBlank value
  | _ => false

/-- The children without the texts that only lay out the source. -/
def meaningfulChildren (children : List Node) : List Node := children.filter (!·.isLayout)

end JsxEdit
