import JsxEdit.Attribute.Spread
import JsxEdit.ClassName.Basic

/-!
  **Reading options from plain data.**

  A record of options is given by name, as a record, or by position, as a list. What
  is left out has its default; names that are not known are ignored, but a list must
  not be longer than the record has fields. A field that is given must have the right
  type, and nothing else is read in its place: not even null.
-/

namespace JsxEdit.Options

open JsxEdit

/-! ### Fields -/

def bool? : Value → Option Bool
  | .bool b => some b
  | _ => none

def string? : Value → Option String
  | .str s => some s
  | _ => none

def strings? : Value → Option (List String)
  | .arr items => items.mapM string?
  | _ => none

/-- The values given for the named fields, in this order; the last of a repeated name
    counts. -/
def fieldValues? (names : List String) : Value → Option (List (Option Value))
  | .obj fields => some (names.map fun n => (fields.reverse.find? (·.1 == n)).map (·.2))
  | .arr items =>
    if items.length ≤ names.length then some (names.mapIdx fun i _ => items[i]?) else none
  | _ => none

/-- A field's value, or its default if it is not given. -/
def field? {α : Type} (read : Value → Option α) (fallback : α) : Option Value → Option α
  | none => some fallback
  | some v => read v

/-! ### Records of options -/

def attrQuery? (v : Value) : Option AttrQuery := do
  match ← fieldValues? ["wantedNames", "allOnNoMatch"] v with
  | [wanted, all] => return ⟨← field? strings? [] wanted, ← field? bool? false all⟩
  | _ => none

def addOptions? (v : Value) : Option AddOptions := do
  match ← fieldValues? ["overrideExisting"] v with
  | [override] => return ⟨← field? bool? true override⟩
  | _ => none

def spreadOptions? (v : Value) : Option SpreadOptions := do
  match ← fieldValues? ["cleanup"] v with
  | [cleanup] => return ⟨← field? bool? false cleanup⟩
  | _ => none

def mode? (name : String) : Option ClassName.Mode :=
  match name with
  | "append" => some .append
  | "prepend" => some .prepend
  | _ => none

/-- A mode is its name, or a record with its name as the only key and null under it. -/
def classNameMode? : Value → Option ClassName.Mode
  | .str name => mode? name
  | .obj [(name, .null)] => mode? name
  | _ => none

end JsxEdit.Options
