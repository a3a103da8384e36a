import Mathlib.Data.List.Nodup
import JsxEdit.Proofs.AttrFrame
import JsxEdit.Proofs.ClassForm

/-!
  **The names of the attributes, over runs of edits.**

  The plain names of an attribute list are a list of strings, and what an edit does to it
  can be said without looking at values: it puts names at the end that are not there yet,
  and then takes names out (`Element.plainNames_edit`). So names that are distinct stay
  distinct. Renaming alone is different: it puts one name in the place of another, and
  does not ask whether the element has an attribute of that name already.
-/

namespace JsxEdit

open Attribute

/-! ### Plain names -/

/-- The names of the plain attributes, in order. -/
def plainNames (entries : List AttrEntry) : List String := entries.filterMap AttrEntry.name?

theorem AttrEntry.name?_eq_some_iff {entry : AttrEntry} {name : String} :
    entry.name? = some name ↔ ∃ value, entry = .attr ⟨.plain name, value⟩ := by
  constructor
  · intro h
    cases entry with
    | spread inner => cases h
    | attr a =>
      obtain ⟨n, value⟩ := a
      cases n with
      | namespaced space n => cases h
      | plain n =>
        cases h
        exact ⟨value, rfl⟩
  · rintro ⟨value, rfl⟩
    rfl

@[simp] theorem plainNames_nil : plainNames [] = [] := rfl

@[simp] theorem plainNames_append (entries later : List AttrEntry) :
    plainNames (entries ++ later) = plainNames entries ++ plainNames later :=
  List.filterMap_append

theorem plainNames_cons (entry : AttrEntry) (rest : List AttrEntry) :
    plainNames (entry :: rest) = entry.name?.toList ++ plainNames rest := by
  cases h : entry.name? with
  | none => simp [plainNames, h]
  | some name => simp [plainNames, h]

@[simp] theorem plainNames_cons_plain (name : String) (value : Option Node)
    (rest : List AttrEntry) :
    plainNames (.attr ⟨.plain name, value⟩ :: rest) = name :: plainNames rest := rfl

theorem mem_plainNames {name : String} {entries : List AttrEntry} :
    name ∈ plainNames entries ↔ ∃ entry ∈ entries, entry.hasName name = true := by
  simp only [plainNames, List.mem_filterMap, AttrEntry.hasName_iff]

theorem not_mem_plainNames_cons {name : String} {entry : AttrEntry} {rest : List AttrEntry} :
    name ∉ plainNames (entry :: rest) ↔
      ¬ entry.hasName name = true ∧ name ∉ plainNames rest := by
  rw [plainNames_cons, List.mem_append, not_or, Option.mem_toList, AttrEntry.hasName_iff]

theorem any_hasName_iff {name : String} {entries : List AttrEntry} :
    entries.any (·.hasName name) = true ↔ name ∈ plainNames entries := by
  rw [List.any_eq_true, mem_plainNames]

/-! ### The first attribute of a name -/

namespace Attribute

variable {name : String} {entries before after : List AttrEntry}

/-- A name that is there cuts the list at its first attribute. -/
theorem exists_cut (h : name ∈ plainNames entries) :
    ∃ before value after, entries = before ++ .attr ⟨.plain name, value⟩ :: after ∧
      name ∉ plainNames before := by
  induction entries with
  | nil => cases h
  | cons entry rest ih =>
    by_cases hentry : entry.hasName name = true
    · obtain ⟨value, rfl⟩ := AttrEntry.name?_eq_some_iff.mp (AttrEntry.hasName_iff.mp hentry)
      exact ⟨[], value, rest, rfl, List.not_mem_nil⟩
    · have hrest : name ∈ plainNames rest := by
        by_contra hrest
        exact not_mem_plainNames_cons.mpr ⟨hentry, hrest⟩ h
      obtain ⟨before, value, after, rfl, hbefore⟩ := ih hrest
      exact ⟨entry :: before, value, after, rfl,
        not_mem_plainNames_cons.mpr ⟨hentry, hbefore⟩⟩

theorem updateFirst_cut (hbefore : name ∉ plainNames before) (f : AttrEntry → AttrEntry)
    (value : Option Node) :
    updateFirst name f (before ++ .attr ⟨.plain name, value⟩ :: after) =
      before ++ f (.attr ⟨.plain name, value⟩) :: after := by
  induction before with
  | nil =>
    have hhead : (AttrEntry.attr ⟨.plain name, value⟩).hasName name = true :=
      AttrEntry.hasName_iff.mpr rfl
    rw [List.nil_append, updateFirst, if_pos hhead, List.nil_append]
  | cons entry before ih =>
    rw [not_mem_plainNames_cons] at hbefore
    rw [List.cons_append, updateFirst, if_neg hbefore.1, ih hbefore.2, List.cons_append]

theorem updateFirst_of_not_mem (h : name ∉ plainNames entries) (f : AttrEntry → AttrEntry) :
    updateFirst name f entries = entries := by
  apply updateFirst_of_forall
  intro entry hentry
  rw [← Bool.not_eq_true]
  intro hname
  exact h (mem_plainNames.mpr ⟨entry, hentry, hname⟩)

theorem find?_cut (hbefore : name ∉ plainNames before) (value : Option Node) :
    find? name (before ++ .attr ⟨.plain name, value⟩ :: after) = some ⟨.plain name, value⟩ := by
  induction before with
  | nil => exact find?_cons_attr_of_eq after rfl
  | cons entry before ih =>
    rw [not_mem_plainNames_cons] at hbefore
    rw [List.cons_append, find?_cons_of_not_hasName _ hbefore.1, ih hbefore.2]

theorem find?_eq_none_iff : find? name entries = none ↔ name ∉ plainNames entries := by
  constructor
  · intro hnone hmem
    obtain ⟨before, value, after, rfl, hbefore⟩ := exists_cut hmem
    rw [find?_cut hbefore] at hnone
    cases hnone
  · intro hnew
    have hnone : entries.find? (·.hasName name) = none := by
      rw [List.find?_eq_none]
      intro entry hentry hname
      exact hnew (mem_plainNames.mpr ⟨entry, hentry, hname⟩)
    rw [find?, hnone, Option.bind_none]

/-! ### Names after the elementary changes -/

/-- A change that keeps the name of the attribute keeps all names. -/
theorem plainNames_updateFirst {f : AttrEntry → AttrEntry}
    (hf : ∀ value, (f (.attr ⟨.plain name, value⟩)).name? = some name)
    (entries : List AttrEntry) :
    plainNames (updateFirst name f entries) = plainNames entries := by
  by_cases h : name ∈ plainNames entries
  · obtain ⟨before, value, after, rfl, hbefore⟩ := exists_cut h
    obtain ⟨changed, hchanged⟩ := AttrEntry.name?_eq_some_iff.mp (hf value)
    rw [updateFirst_cut hbefore, hchanged]
    simp
  · rw [updateFirst_of_not_mem h]

end Attribute

/-- A name joins a list of names at its end, unless it is there already. -/
def addName (names : List String) (name : String) : List String :=
  if name ∈ names then names else names ++ [name]

@[simp] theorem mem_addName {names : List String} {name n : String} :
    n ∈ addName names name ↔ n ∈ names ∨ n = name := by
  unfold addName
  split
  · rename_i h
    constructor
    · exact Or.inl
    · rintro (hn | rfl)
      · exact hn
      · exact h
  · simp

theorem nodup_addName {names : List String} (h : names.Nodup) (name : String) :
    (addName names name).Nodup := by
  unfold addName
  split
  · exact h
  · rename_i hname
    rw [← List.concat_eq_append]
    exact List.Nodup.concat hname h

theorem mem_foldl_addName {added names : List String} {n : String} :
    n ∈ added.foldl addName names ↔ n ∈ names ∨ n ∈ added := by
  induction added generalizing names with
  | nil => simp
  | cons name added ih =>
    rw [List.foldl_cons, ih, mem_addName, List.mem_cons, or_assoc]

theorem nodup_foldl_addName (added : List String) {names : List String} (h : names.Nodup) :
    (added.foldl addName names).Nodup := by
  induction added generalizing names with
  | nil => exact h
  | cons name added ih => exact ih (nodup_addName h name)

namespace Attribute

/-- Overriding or not makes no difference to the names. -/
theorem plainNames_put (override : Bool) (entries : List AttrEntry) (entry : AttrEntry) :
    plainNames (put override entries entry) =
      entry.name?.toList.foldl addName (plainNames entries) := by
  unfold put
  split
  · rename_i hname
    rw [hname]
    rfl
  · rename_i name hname
    rw [hname, Option.toList_some, List.foldl_cons, List.foldl_nil, addName]
    by_cases hmem : name ∈ plainNames entries
    · rw [if_pos (any_hasName_iff.mpr hmem), if_pos hmem]
      split
      · exact plainNames_updateFirst (fun _ => hname) entries
      · rfl
    · have hlast : plainNames [entry] = [name] := by
        rw [plainNames_cons, hname]
        rfl
      rw [if_neg (mt any_hasName_iff.mp hmem), if_neg hmem, plainNames_append, hlast]

theorem plainNames_foldl_put (override : Bool) (added entries : List AttrEntry) :
    plainNames (added.foldl (put override) entries) =
      (plainNames added).foldl addName (plainNames entries) := by
  induction added generalizing entries with
  | nil => rfl
  | cons entry added ih =>
    rw [List.foldl_cons, ih, plainNames_put, plainNames_cons, List.foldl_append]

/-- The empty name is never taken out. -/
theorem plainNames_filter_isNamedIn (names : List String) (entries : List AttrEntry) :
    plainNames (entries.filter fun entry => !isNamedIn names entry) =
      (plainNames entries).filter fun n => n = "" ∨ n ∉ names := by
  induction entries with
  | nil => rfl
  | cons entry rest ih =>
    rw [plainNames_cons, List.filter_append, ← ih]
    cases hname : entry.name? with
    | none =>
      have hkept : isNamedIn names entry = false := by simp [isNamedIn, hname]
      simp [hkept, plainNames_cons, hname]
    | some n =>
      by_cases hn : n = "" ∨ n ∉ names
      · have hkept : isNamedIn names entry = false := by
          simp only [isNamedIn, hname, Option.any_some]
          rcases hn with rfl | hn <;> simp_all
        simp [hkept, plainNames_cons, hname, hn]
      · have hgone : isNamedIn names entry = true := by
          rw [not_or, not_not] at hn
          simp [isNamedIn, hname, hn]
        simp [hgone, hn]

end Attribute

/-! ### Names after an edit -/

namespace AttrEdit

def isRename : AttrEdit → Bool
  | rename .. => true
  | _ => false

/-- The names that an edit sees to. -/
def addedNames (e : Element) : AttrEdit → List String
  | add entries _ => plainNames entries
  | spreadObject name _ =>
    plainNames (((objectMembers (find? name e.attrs)).filterMap ofMember?).map .attr)
  | addClassNames names _ => if names = "" then [] else [ClassName.attrName]
  | _ => []

/-- The names that an edit takes out afterwards, the empty one apart. -/
def removedNames (e : Element) : AttrEdit → List String
  | remove names => names
  | spreadObject name options =>
    if options.cleanup && !(objectMembers (find? name e.attrs)).isEmpty then [name] else []
  | _ => []

end AttrEdit

namespace Element

variable (e : Element)

theorem plainNames_addAttributes (entries : List AttrEntry) (options : AddOptions) :
    plainNames (e.addAttributes entries options).attrs =
      (plainNames entries).foldl addName (plainNames e.attrs) :=
  plainNames_foldl_put _ entries e.attrs

theorem plainNames_removeAttrs (names : List String) :
    plainNames (e.removeAttrs names).attrs =
      (plainNames e.attrs).filter fun n => n = "" ∨ n ∉ names :=
  plainNames_filter_isNamedIn names e.attrs

theorem plainNames_setAttrValue (name : String) (value : NewValue) :
    plainNames (e.setAttrValue name value).attrs = plainNames e.attrs := by
  rw [setAttrValue_eq]
  split
  · exact plainNames_updateFirst (fun _ => rfl) e.attrs
  · rfl

/-- Members are inlined as attributes are added, so their names join the list. -/
theorem plainNames_spreadObjectProp (name : String) (options : SpreadOptions) :
    plainNames (e.spreadObjectProp name options).attrs =
      (((AttrEdit.spreadObject name options).addedNames e).foldl addName
        (plainNames e.attrs)).filter
          fun n => n = "" ∨ n ∉ (AttrEdit.spreadObject name options).removedNames e := by
  simp only [AttrEdit.addedNames, AttrEdit.removedNames]
  unfold spreadObjectProp
  split
  · rename_i hmembers
    simp [hmembers]
  · rename_i hmembers
    have hsome : (objectMembers (find? name e.attrs)).isEmpty = false := by
      rw [List.isEmpty_eq_false_iff]
      exact hmembers
    dsimp only
    split
    · rename_i hcleanup
      rw [plainNames_removeAttrs, plainNames_addAttributes]
      simp [hcleanup, hsome]
    · rename_i hcleanup
      rw [plainNames_addAttributes]
      simp [hcleanup]

theorem classNameForm_eq_absent_iff :
    e.classNameForm = .absent ↔ ClassName.attrName ∉ plainNames e.attrs := by
  rw [← find?_eq_none_iff]
  constructor
  · intro habsent
    cases h : e.className? with
    | none => exact h
    | some a =>
      rw [classNameForm_of_some h] at habsent
      exact absurd habsent a.classNameForm_ne_absent
  · intro hnone
    exact classNameForm_of_none hnone

theorem plainNames_resolveClassName (names : String) (mode : ClassName.Mode) :
    plainNames (e.resolveClassName names mode).attrs =
      if names = "" then plainNames e.attrs
      else addName (plainNames e.attrs) ClassName.attrName := by
  unfold resolveClassName
  split
  · rename_i habsent
    have hnew : ClassName.attrName ∉ plainNames e.attrs :=
      e.classNameForm_eq_absent_iff.mp habsent
    split
    · rfl
    · rw [ClassName.make?_attrName, addName, if_neg hnew]
      simp
  · rename_i hform
    have hold : ClassName.attrName ∈ plainNames e.attrs := by
      by_contra hnew
      exact hform (e.classNameForm_eq_absent_iff.mpr hnew)
    rw [addName, if_pos hold, ite_self]
    exact plainNames_updateFirst (fun _ => rfl) e.attrs

/-- **What an edit does to the names.** -/
theorem plainNames_edit {change : AttrEdit} (h : change.isRename = false) :
    plainNames (e.edit change).attrs =
      ((change.addedNames e).foldl addName (plainNames e.attrs)).filter
        fun n => n = "" ∨ n ∉ change.removedNames e := by
  cases change with
  | add entries options =>
    rw [edit, plainNames_addAttributes]
    simp [AttrEdit.addedNames, AttrEdit.removedNames]
  | remove names => exact e.plainNames_removeAttrs names
  | rename old new => cases h
  | setValue name value =>
    rw [edit, plainNames_setAttrValue]
    simp [AttrEdit.addedNames, AttrEdit.removedNames]
  | spreadObject name options => exact e.plainNames_spreadObjectProp name options
  | addClassNames names mode =>
    rw [edit, plainNames_resolveClassName]
    simp only [AttrEdit.addedNames, AttrEdit.removedNames]
    split <;> simp

end Element

/-! ### Distinct names -/

namespace Element

variable {e : Element}

theorem nodup_plainNames_edit {change : AttrEdit} (hchange : change.isRename = false)
    (h : (plainNames e.attrs).Nodup) : (plainNames (e.edit change).attrs).Nodup := by
  rw [plainNames_edit e hchange]
  exact (nodup_foldl_addName _ h).filter _

/-- **Distinct names stay distinct** over any run without renaming, whatever is added,
    with or without overriding, and however the members of an inlined object collide. -/
theorem nodup_plainNames_applyEdits (e : Element) (edits : List AttrEdit)
    (hedits : ∀ change ∈ edits, change.isRename = false) (h : (plainNames e.attrs).Nodup) :
    (plainNames (e.applyEdits edits).attrs).Nodup := by
  refine applyEdits_invariant (P := fun e => (plainNames e.attrs).Nodup) ?_ h
  intro change hchange e he
  exact nodup_plainNames_edit (hedits change hchange) he

/-- Repeated names and colliding members, on an element that has one of the names. -/
theorem nodup_plainNames_applyEdits_colliding :
    let e : Element :=
      { tag := .ident "a"
        attrs := [.attr ⟨.plain "id", none⟩, .spread (.ident "rest"),
          .attr ⟨.plain "props", some (.braces (.object
            [.keyValue (.ident "class") (.ident "x"), .ident "className", .ident "id"]))⟩]
        selfClosing := true, children := [], closing := none }
    let edits : List AttrEdit :=
      [.spreadObject "props" { cleanup := true },
        .add [.attr ⟨.plain "b1", none⟩, .attr ⟨.plain "b1", none⟩, .attr ⟨.plain "id", none⟩]
          { overrideExisting := false },
        .addClassNames "c" .prepend, .setValue "id" .undefined, .remove ["b1", ""]]
    (plainNames e.attrs).Nodup ∧ (plainNames (e.applyEdits edits).attrs).Nodup := by
  intro e edits
  have hdistinct : (plainNames e.attrs).Nodup := by decide
  have hedits : ∀ change ∈ edits, change.isRename = false := by simp [edits, AttrEdit.isRename]
  exact ⟨hdistinct, nodup_plainNames_applyEdits e edits hedits hdistinct⟩

end Element

end JsxEdit
