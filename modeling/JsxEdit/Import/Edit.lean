import JsxEdit.Import.Query

/-!
  **Editing the imports of a module.**

  An edit that counts returns the new module with the count.
-/

namespace JsxEdit

/-! ### Adding `Fragment` -/

/-- A value import from `react` without `Fragment`. -/
def Import.lacksFragment (i : Import) : Bool :=
  i.source.value == "react" && !i.typeOnly && !i.hasFragment

def Import.withFragment (i : Import) : Import :=
  { i with specifiers := i.specifiers ++ [.make "Fragment" (some "F")] }

def Item.withFragment : Item → Item
  | .importing i => .importing (if i.lacksFragment then i.withFragment else i)
  | .node n => .node n

/-- Adds `Fragment as F` to every value import from `react` that lacks `Fragment`. -/
def Module.importFragment (m : Module) : Module × Nat :=
  (⟨m.body.map Item.withFragment⟩, m.imports.countP Import.lacksFragment)

/-! ### Removing -/

/-- A named specifier with a matching imported name. -/
def Specifier.isNamedBy (name : Matcher) (s : Specifier) : Bool := s.imported?.any name.accepts

/-- Does the removal of named specifiers look into this import? -/
def Import.isPruned (i : Import) (name path : Matcher) : Bool :=
  !i.specifiers.isEmpty && i.isNamedImportOf name path

/-- An item after the removal of matching named specifiers, and how many were removed.
    An import that loses its last specifier goes as well. -/
def Item.removeNamed (name path : Matcher) : Item → Option Item × Nat
  | .importing i =>
    if i.isPruned name path then
      let kept := i.specifiers.filter fun s => !s.isNamedBy name
      let dropped := i.specifiers.countP (·.isNamedBy name)
      (if dropped > 0 && kept.isEmpty then none else some (.importing { i with specifiers := kept }),
        dropped)
    else (some (.importing i), 0)
  | .node n => (some (.node n), 0)

/-- Removes the named specifiers whose imported names and sources match. Default and
    namespace specifiers stay, and so do imports that had no specifier to begin with. -/
def Module.removeNamedImports (m : Module) (name path : Matcher) : Module × Nat :=
  let results := m.body.map (Item.removeNamed name path)
  (⟨results.filterMap (·.1)⟩, (results.map (·.2)).foldr (· + ·) 0)

def Item.isDefaultImportOf (name path : Matcher) (item : Item) : Bool :=
  item.import?.any (·.isDefaultImportOf name path)

/-- Removes the exclusively default imports whose local names and sources match. -/
def Module.removeDefaultImports (m : Module) (name path : Matcher) : Module × Nat :=
  (⟨m.body.filter fun item => !item.isDefaultImportOf name path⟩,
    m.body.countP (·.isDefaultImportOf name path))

/-! ### Adding names -/

/-- Named specifiers can join a value import without `* as x`. -/
def Import.acceptsNamed (i : Import) : Bool := !i.typeOnly && !i.specifiers.any Specifier.isNamespace

/-- The names without the empty one, each at its first place only. -/
def distinctNames (names : List String) : List String :=
  names.foldl (fun seen n => if n = "" || seen.contains n then seen else seen ++ [n]) []

/-- The imported and the local names of all imports from a matching source. -/
def Module.boundNames (m : Module) (path : Matcher) : List String :=
  (m.imports.filter (·.isFrom path)).flatMap fun i =>
    (i.specifierTable none).flatMap fun (key, info) => [key, info.binding]

/-- The names that no import from a matching source has yet. -/
def Module.missingNames (m : Module) (path : Matcher) (names : List String) : List String :=
  (distinctNames names).filter fun n => !(m.boundNames path).contains n

/-- Appends specifiers to the first import that takes them; `none` if there is none. -/
def extendFirstImport (path : Matcher) (specifiers : List Specifier) : List Item → Option (List Item)
  | [] => none
  | .importing i :: rest =>
    if i.isFrom path && i.acceptsNamed then
      some (.importing { i with specifiers := i.specifiers ++ specifiers } :: rest)
    else (extendFirstImport path specifiers rest).map (.importing i :: ·)
  | .node n :: rest => (extendFirstImport path specifiers rest).map (.node n :: ·)

/-- Inserts an import after the last one, or at the top if there is none. -/
def insertImport (new : Import) : List Item → List Item
  | [] => [.importing new]
  | item :: rest =>
    if rest.any (·.import?.isSome) then item :: insertImport new rest
    else if item.import?.isSome then item :: .importing new :: rest
    else .importing new :: item :: rest

/-- Sees to it that the names are imported from a matching source. Those that are not
    yet join the first import that takes named specifiers; if there is none, they get
    an import of their own, for which the path has to be exact. Asked for no path in
    particular, nothing is done. -/
def Module.addNamedImports (m : Module) (path : Matcher) (names : List String) : Module :=
  if path.isAny then m
  else
    match m.missingNames path names with
    | [] => m
    | missing =>
      let specifiers := missing.map fun n => Specifier.make n none
      match extendFirstImport path specifiers m.body with
      | some body => ⟨body⟩
      | none =>
        match path.exactText?.bind (Import.make? specifiers) with
        | some new => ⟨insertImport new m.body⟩
        | none => m

end JsxEdit
