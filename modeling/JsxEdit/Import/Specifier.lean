import JsxEdit.Make
import JsxEdit.Matcher

/-!
  **What an import binds.**

  A specifier binds a local name. A named specifier also has an imported name, which
  is the local one unless another is written. The table of an import lists its
  specifiers under their imported names, or their local names where there is no other.
-/

namespace JsxEdit

inductive SpecifierKind where
  | defaultSpecifier
  | namedSpecifier
  | namespaceSpecifier
deriving DecidableEq, Repr

namespace Specifier

def kind : Specifier → SpecifierKind
  | defaultAs _ => .defaultSpecifier
  | namespaceAs _ => .namespaceSpecifier
  | named .. => .namedSpecifier

/-- The local name. -/
def binding : Specifier → String
  | defaultAs binding => binding
  | namespaceAs binding => binding
  | named binding _ _ => binding

/-- The imported name of a named specifier. -/
def imported? : Specifier → Option String
  | named binding imported _ => some ((imported.map ImportedName.text).getD binding)
  | _ => none

/-- The name under which the specifier is listed. -/
def key (s : Specifier) : String := s.imported?.getD s.binding

def isDefault (s : Specifier) : Bool := s.kind = .defaultSpecifier
def isNamed (s : Specifier) : Bool := s.kind = .namedSpecifier
def isNamespace (s : Specifier) : Bool := s.kind = .namespaceSpecifier

end Specifier

/-! ### The table of an import -/

structure SpecifierInfo where
  /-- The local name. -/
  binding : String
  kind : SpecifierKind
deriving DecidableEq, Repr

/-- Entries in the order in which their keys first came up. -/
abbrev SpecifierTable := List (String × SpecifierInfo)

namespace SpecifierTable

/-- A repeated key keeps its place and takes the new entry. -/
def insert (key : String) (info : SpecifierInfo) : SpecifierTable → SpecifierTable
  | [] => [(key, info)]
  | entry :: rest => if entry.1 = key then (key, info) :: rest else entry :: insert key info rest

/-- The keys after an insertion: a new key comes last. -/
theorem map_fst_insert (key : String) (info : SpecifierInfo) (table : SpecifierTable) :
    (insert key info table).map (·.1) =
      if key ∈ table.map (·.1) then table.map (·.1) else table.map (·.1) ++ [key] := by
  induction table with
  | nil => rfl
  | cons entry rest ih =>
    by_cases h : entry.1 = key
    · simp [insert, h]
    · have h' : key ≠ entry.1 := fun hk => h hk.symm
      simp only [insert, h, if_false, List.map_cons, ih, List.mem_cons, h', false_or]
      split <;> rfl

def ofSpecifiers (specifiers : List Specifier) : SpecifierTable :=
  specifiers.foldl (fun table s => insert s.key ⟨s.binding, s.kind⟩ table) []

end SpecifierTable

namespace Import

/-- The specifiers of an import, all of them or those of one kind. -/
def specifierTable (i : Import) (kind : Option SpecifierKind) : SpecifierTable :=
  .ofSpecifiers (i.specifiers.filter fun s => kind.all (· = s.kind))

end Import

/-- The specifiers of a piece of syntax, if it is an import. -/
def Shape.specifierTable? (s : Shape) (kind : Option SpecifierKind) : Option SpecifierTable :=
  match s with
  | .importDeclaration i => some (i.specifierTable kind)
  | _ => none

end JsxEdit
