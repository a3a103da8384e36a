import JsxEdit.Syntax.Node

/-!
  **Modules and their imports.**

  A module is the list of its items. Imports stand only at this level, so they have a
  type of their own; every other item is a node.
-/

namespace JsxEdit

/-- The imported name of a specifier, written as an identifier or as a string. -/
inductive ImportedName where
  | ident (name : String)
  | str (s : StringLiteral)
deriving DecidableEq, Repr, Inhabited

def ImportedName.text : ImportedName → String
  | ident name => name
  | str s => s.value

inductive Specifier where
  /-- `binding` -/
  | defaultAs (binding : String)
  /-- `* as binding` -/
  | namespaceAs (binding : String)
  /-- `{ imported as binding }`; without `imported` both names are the same. -/
  | named (binding : String) (imported : Option ImportedName) (typeOnly : Bool)
deriving DecidableEq, Repr, Inhabited

structure Import where
  specifiers : List Specifier
  source : StringLiteral
  typeOnly : Bool
  phase : String
  /-- The members of `with { … }`. -/
  attributes : Option (List Node)
deriving Inhabited

inductive Item where
  | importing (i : Import)
  | node (n : Node)
deriving Inhabited

structure Module where
  body : List Item
deriving Inhabited

def Item.import? : Item → Option Import
  | importing i => some i
  | node _ => none

/-- The imports of a module, in order. -/
def Module.imports (m : Module) : List Import := m.body.filterMap Item.import?

theorem Module.mem_imports {m : Module} {i : Import} : i ∈ m.imports ↔ .importing i ∈ m.body := by
  unfold imports
  rw [List.mem_filterMap]
  constructor
  · rintro ⟨item, hitem, himport⟩
    cases item with
    | node n => cases himport
    | importing j =>
      cases himport
      exact hitem
  · intro hitem
    exact ⟨.importing i, hitem, rfl⟩

end JsxEdit
