import JsxEdit.Import.Specifier

/-!
  **Questions about imports.**

  An import that binds nothing but a default name is exclusively a default import;
  such imports are looked for by their local names, all others by the imported names
  of their specifiers.
-/

namespace JsxEdit

/-- What kinds of names an import binds. Side-effect and namespace imports count as
    `named`. -/
inductive ImportKind where
  | default
  | named
  | mixed
deriving DecidableEq, Repr

namespace Import

def isFrom (i : Import) (path : Matcher) : Bool := path.accepts i.source.value

def hasFragment (i : Import) : Bool := i.specifiers.any (·.imported? == some "Fragment")

def isExclusivelyDefault (i : Import) : Bool :=
  match i.specifiers with
  | [s] => s.isDefault
  | _ => false

def kind (i : Import) : ImportKind :=
  match i.specifiers.any Specifier.isDefault, i.specifiers.any Specifier.isNamed with
  | true, true => .mixed
  | true, false => .default
  | false, _ => .named

/-- Does an imported name match? Asked for anything, an import need not have one. -/
def hasNamed (i : Import) (name : Matcher) : Bool :=
  name.isAny || i.specifiers.any fun s => s.imported?.any name.accepts

def isNamedImportOf (i : Import) (name path : Matcher) : Bool :=
  !i.isExclusivelyDefault && i.hasNamed name && i.isFrom path

def isDefaultImportOf (i : Import) (name path : Matcher) : Bool :=
  i.isExclusivelyDefault && (name.isAny || i.specifiers.any fun s => name.accepts s.binding) &&
    i.isFrom path

end Import

namespace Module

/-- Does an import from a matching source bind a matching local name? -/
def bindsFromSource (m : Module) (name source : Matcher) : Bool :=
  m.imports.any fun i => i.isFrom source && i.specifiers.any fun s => name.acceptsName (some s.binding)

def namedImports (m : Module) (name path : Matcher) : List Import :=
  m.imports.filter (·.isNamedImportOf name path)

def defaultImports (m : Module) (name path : Matcher) : List Import :=
  m.imports.filter (·.isDefaultImportOf name path)

def hasNamedImport (m : Module) (name path : Matcher) : Bool := !(m.namedImports name path).isEmpty

def hasDefaultImport (m : Module) (name path : Matcher) : Bool :=
  !(m.defaultImports name path).isEmpty

end Module

end JsxEdit
