import JsxEdit.Attribute.NewValue

/-!
  **Reading and editing the attribute list of an element.**

  Attributes are found by their plain names; a repeated name means its first
  attribute, except for removal, which takes all. Spreads and namespaced attributes
  have no plain name and are left where they are. An empty name asks for nothing.
-/

namespace JsxEdit

/-! ### Attribute lists -/

namespace AttrEntry

def setValue (value : Option Node) : AttrEntry → AttrEntry
  | attr a => attr { a with value }
  | spread inner => spread inner

def rename (name : String) : AttrEntry → AttrEntry
  | attr a => attr { a with name := .plain name }
  | spread inner => spread inner

def attr? : AttrEntry → Option Attr
  | attr a => some a
  | spread _ => none

end AttrEntry

namespace Attribute

/-- The first plain attribute of the given name. -/
def find? (name : String) (entries : List AttrEntry) : Option Attr :=
  (entries.find? (·.hasName name)).bind AttrEntry.attr?

/-- Changes the first entry with the given plain name, if there is one. -/
def updateFirst (name : String) (f : AttrEntry → AttrEntry) : List AttrEntry → List AttrEntry
  | [] => []
  | e :: rest => if e.hasName name then f e :: rest else e :: updateFirst name f rest

/-- Nothing changes where no entry has the name. -/
theorem updateFirst_of_forall {name : String} (f : AttrEntry → AttrEntry) {entries : List AttrEntry}
    (h : ∀ e ∈ entries, e.hasName name = false) : updateFirst name f entries = entries := by
  induction entries with
  | nil => rfl
  | cons e rest ih =>
    simp only [updateFirst, h e List.mem_cons_self, Bool.false_eq_true, if_false,
      ih fun x hx => h x (List.mem_cons_of_mem e hx)]

/-- Adds one plain attribute. An attribute of the same name keeps its place, and keeps
    its value too unless `override` is set. Entries without a plain name are not added. -/
def put (override : Bool) (entries : List AttrEntry) (entry : AttrEntry) : List AttrEntry :=
  match entry.name? with
  | none => entries
  | some name =>
    if entries.any (·.hasName name) then
      if override then updateFirst name (fun _ => entry) entries else entries
    else entries ++ [entry]

/-- Is this a plain attribute with one of the names, the empty one apart? -/
def isNamedIn (names : List String) (entry : AttrEntry) : Bool :=
  entry.name?.any fun name => name != "" && names.contains name

end Attribute

/-! ### Options -/

/-- Which attributes to read: those with a wanted name, or all if no name is wanted. -/
structure AttrQuery where
  wantedNames : List String := []
  /-- Read all attributes when no wanted one is there. -/
  allOnNoMatch : Bool := false
deriving DecidableEq, Repr

structure AddOptions where
  overrideExisting : Bool := true
deriving DecidableEq, Repr

/-! ### Operations on an element -/

namespace Element

open Attribute

def getAttributes (e : Element) (query : AttrQuery) : List AttrEntry :=
  if query.wantedNames.all (· == "") then e.attrs
  else
    let found := e.attrs.filter (isNamedIn query.wantedNames)
    if found.isEmpty && query.allOnNoMatch then e.attrs else found

/-- Adds attributes one after the other, by name. -/
def addAttributes (e : Element) (entries : List AttrEntry) (options : AddOptions) : Element :=
  { e with attrs := entries.foldl (put options.overrideExisting) e.attrs }

/-- Appends attributes whatever their names; spreads are not appended. -/
def appendAttrs (e : Element) (entries : List AttrEntry) : Element :=
  { e with attrs := e.attrs ++ entries.filter (·.attr?.isSome) }

def removeAttrs (e : Element) (names : List String) : Element :=
  { e with attrs := e.attrs.filter fun entry => !isNamedIn names entry }

/-- Renames an attribute, which must be there. The new name is not checked. -/
def renameAttr (e : Element) (old new : String) : Except EditError Element :=
  if old = "" ∨ new = "" then .ok e
  else if e.attrs.any (·.hasName old) then
    .ok { e with attrs := updateFirst old (·.rename new) e.attrs }
  else .error (.attributeNotFound old)

/-- Replaces the value of an attribute by a scalar or a finished node; any other value is
    ignored. -/
def setAttrValue (e : Element) (name : String) (value : NewValue) : Element :=
  if name = "" then e
  else
    match value.replacement? with
    | none => e
    | some written =>
      let written := written.filter fun n => !n.isTrueBraces
      { e with attrs := updateFirst name (·.setValue written) e.attrs }

/-- The value that is written is the one that a new attribute would have. -/
theorem setAttrValue_eq (e : Element) (name : String) (value : NewValue) :
    e.setAttrValue name value =
      if name != "" && value.isReady then
        { e with attrs := updateFirst name (·.setValue value.toNode?) e.attrs }
      else e := by
  have hwritten := value.replacement?_eq
  by_cases hname : name = ""
  · simp [setAttrValue, hname]
  · cases hready : value.isReady with
    | false =>
      rw [hready, if_neg Bool.false_ne_true, Option.map_eq_none_iff] at hwritten
      simp [setAttrValue, hwritten]
    | true =>
      rw [hready, if_pos rfl, Option.map_eq_some_iff] at hwritten
      obtain ⟨written, hreplacement, hfilter⟩ := hwritten
      simp [setAttrValue, hname, hreplacement, hfilter]

/-- Replaces an attribute by another entry, in its place. -/
def swapAttr (e : Element) (name : String) (entry : AttrEntry) : Element :=
  { e with attrs := updateFirst name (fun _ => entry) e.attrs }

end Element

/-- The attributes of a piece of syntax, if it is an element. -/
def Shape.attributes? (s : Shape) (query : AttrQuery) : Option (List AttrEntry) :=
  match s with
  | .element e => some (e.getAttributes query)
  | _ => none

end JsxEdit
