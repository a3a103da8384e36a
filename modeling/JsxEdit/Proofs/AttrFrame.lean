import JsxEdit.Attribute.Spread
import JsxEdit.ClassName.Resolve

/-!
  **What attribute edits leave alone.**

  Edits find attributes by their plain names. Spreads and namespaced attributes have none,
  so no edit finds them, and no edit puts any in: an entry without a plain name that a
  caller hands over is passed over. These entries therefore stay, in their order, and so
  do the tags and the children of the element.

  `Element.frame` holds all of this in one value. Each edit keeps it, and
  `Element.applyEdits_invariant` takes what every edit keeps to runs of edits.
-/

namespace JsxEdit

open Attribute

/-! ### Edits and runs of edits -/

/-- An edit of the attributes of an element, by their names. -/
inductive AttrEdit where
  | add (entries : List AttrEntry) (options : AddOptions)
  | remove (names : List String)
  | rename (old new : String)
  | setValue (name : String) (value : NewValue)
  | spreadObject (name : String) (options : SpreadOptions)
  | addClassNames (names : String) (mode : ClassName.Mode)

namespace Element

/-- The element after an edit. A renaming that fails leaves it as it is. -/
def edit (e : Element) : AttrEdit → Element
  | .add entries options => e.addAttributes entries options
  | .remove names => e.removeAttrs names
  | .rename old new =>
    match e.renameAttr old new with
    | .ok renamed => renamed
    | .error _ => e
  | .setValue name value => e.setAttrValue name value
  | .spreadObject name options => e.spreadObjectProp name options
  | .addClassNames names mode => e.resolveClassName names mode

/-- The element after one edit after the other. -/
def applyEdits (e : Element) (edits : List AttrEdit) : Element := edits.foldl edit e

/-- What every edit of a run keeps, the run keeps. -/
theorem applyEdits_invariant {P : Element → Prop} {edits : List AttrEdit}
    (hstep : ∀ change ∈ edits, ∀ e, P e → P (e.edit change)) {e : Element} (h : P e) :
    P (e.applyEdits edits) := by
  induction edits generalizing e with
  | nil => exact h
  | cons change edits ih =>
    have hfirst : P (e.edit change) := hstep change List.mem_cons_self e h
    exact ih (fun later hlater => hstep later (List.mem_cons_of_mem _ hlater)) hfirst

end Element

/-! ### Entries without a plain name -/

/-- A spread or a namespaced attribute. -/
def AttrEntry.isUnnamed : AttrEntry → Bool
  | .spread _ => true
  | .attr a =>
    match a.name with
    | .namespaced .. => true
    | .plain _ => false

theorem AttrEntry.isUnnamed_iff {entry : AttrEntry} :
    entry.isUnnamed = true ↔ entry.name? = none := by
  cases entry with
  | spread inner => simp only [isUnnamed, name?]
  | attr a =>
    obtain ⟨name, value⟩ := a
    cases name with
    | plain name => simp [isUnnamed, name?]
    | namespaced space name => simp [isUnnamed, name?]

theorem AttrEntry.isUnnamed_eq_false {entry : AttrEntry} {name : String}
    (h : entry.name? = some name) : entry.isUnnamed = false := by
  rw [← Bool.not_eq_true, isUnnamed_iff, h]
  exact nofun

theorem AttrEntry.isUnnamed_of_hasName {entry : AttrEntry} {name : String}
    (h : entry.hasName name = true) : entry.isUnnamed = false :=
  isUnnamed_eq_false (hasName_iff.mp h)

/-- The entries of an attribute list that have no plain name, in order. -/
def unnamedEntries (entries : List AttrEntry) : List AttrEntry :=
  entries.filter AttrEntry.isUnnamed

namespace Attribute

/-- An entry that was found by its name gives way to one that has a name as well. -/
theorem unnamedEntries_updateFirst {name : String} {f : AttrEntry → AttrEntry}
    (hf : ∀ entry, entry.hasName name = true → (f entry).isUnnamed = false)
    (entries : List AttrEntry) :
    unnamedEntries (updateFirst name f entries) = unnamedEntries entries := by
  induction entries with
  | nil => rfl
  | cons entry rest ih =>
    by_cases h : entry.hasName name = true
    · have hentry : entry.isUnnamed = false := AttrEntry.isUnnamed_of_hasName h
      simp only [updateFirst, if_pos h, unnamedEntries, List.filter_cons, hf entry h, hentry,
        Bool.false_eq_true, if_false]
    · simp only [unnamedEntries] at ih
      simp only [updateFirst, if_neg h, unnamedEntries, List.filter_cons, ih]

theorem unnamedEntries_concat {entry : AttrEntry} (h : entry.isUnnamed = false)
    (entries : List AttrEntry) : unnamedEntries (entries ++ [entry]) = unnamedEntries entries := by
  simp only [unnamedEntries, List.filter_append, List.filter_cons, List.filter_nil, h,
    Bool.false_eq_true, if_false, List.append_nil]

theorem unnamedEntries_put (override : Bool) (entries : List AttrEntry) (entry : AttrEntry) :
    unnamedEntries (put override entries entry) = unnamedEntries entries := by
  unfold put
  split
  · rfl
  · rename_i name hname
    have hentry := AttrEntry.isUnnamed_eq_false hname
    split
    · split
      · exact unnamedEntries_updateFirst (fun _ _ => hentry) entries
      · rfl
    · exact unnamedEntries_concat hentry entries

theorem unnamedEntries_foldl_put (override : Bool) (added entries : List AttrEntry) :
    unnamedEntries (added.foldl (put override) entries) = unnamedEntries entries := by
  induction added generalizing entries with
  | nil => rfl
  | cons entry added ih => rw [List.foldl_cons, ih, unnamedEntries_put]

/-- Only entries with a name are taken out. -/
theorem unnamedEntries_filter {drop : AttrEntry → Bool}
    (hdrop : ∀ entry, entry.isUnnamed = true → drop entry = false) (entries : List AttrEntry) :
    unnamedEntries (entries.filter fun entry => !drop entry) = unnamedEntries entries := by
  rw [unnamedEntries, List.filter_filter, unnamedEntries]
  refine List.filter_congr fun entry _ => ?_
  cases h : entry.isUnnamed with
  | false => rw [Bool.false_and]
  | true => rw [hdrop entry h, Bool.not_false, Bool.and_self]

theorem isNamedIn_of_isUnnamed (names : List String) {entry : AttrEntry}
    (h : entry.isUnnamed = true) : isNamedIn names entry = false := by
  rw [isNamedIn, AttrEntry.isUnnamed_iff.mp h]
  rfl

end Attribute

/-! ### Changes of a named entry leave it named -/

namespace AttrEntry

variable {entry : AttrEntry}

theorem isUnnamed_setValue (value : Option Node) :
    (entry.setValue value).isUnnamed = entry.isUnnamed := by
  cases entry <;> rfl

theorem isUnnamed_extendClassName (names : String) (mode : ClassName.Mode) :
    (entry.extendClassName names mode).isUnnamed = entry.isUnnamed := by
  cases entry <;> rfl

/-- A new name is always a plain one, whatever its characters. -/
theorem isUnnamed_rename {name : String} (h : entry.hasName name = true) (new : String) :
    (entry.rename new).isUnnamed = false := by
  cases entry with
  | attr a => rfl
  | spread inner => cases hasName_iff.mp h

end AttrEntry

/-! ### The frame of an element -/

namespace Element

/-- The element without its plain attributes: all that edits by name do not own. -/
def frame (e : Element) : Element := { e with attrs := unnamedEntries e.attrs }

theorem frame_withAttrs {e : Element} {attrs : List AttrEntry}
    (h : unnamedEntries attrs = unnamedEntries e.attrs) :
    ({ e with attrs := attrs } : Element).frame = e.frame := by
  simp only [frame, h]

variable (e : Element)

theorem frame_addAttributes (entries : List AttrEntry) (options : AddOptions) :
    (e.addAttributes entries options).frame = e.frame :=
  frame_withAttrs (unnamedEntries_foldl_put _ entries e.attrs)

theorem frame_removeAttrs (names : List String) : (e.removeAttrs names).frame = e.frame :=
  frame_withAttrs (unnamedEntries_filter (fun _ => isNamedIn_of_isUnnamed names) e.attrs)

theorem frame_setAttrValue (name : String) (value : NewValue) :
    (e.setAttrValue name value).frame = e.frame := by
  rw [setAttrValue_eq]
  split
  · refine frame_withAttrs (unnamedEntries_updateFirst (fun entry h => ?_) e.attrs)
    rw [AttrEntry.isUnnamed_setValue, AttrEntry.isUnnamed_of_hasName h]
  · rfl

theorem frame_renameAttr {old new : String} {renamed : Element}
    (h : e.renameAttr old new = .ok renamed) : renamed.frame = e.frame := by
  unfold renameAttr at h
  split at h
  · cases h
    rfl
  · split at h
    · cases h
      exact frame_withAttrs
        (unnamedEntries_updateFirst (fun _ h => AttrEntry.isUnnamed_rename h new) e.attrs)
    · cases h

theorem frame_spreadObjectProp (name : String) (options : SpreadOptions) :
    (e.spreadObjectProp name options).frame = e.frame := by
  unfold spreadObjectProp
  split
  · rfl
  · dsimp only
    split
    · rw [frame_removeAttrs, frame_addAttributes]
    · rw [frame_addAttributes]

/-- A `className` that is made is a plain attribute, like one that is extended. -/
theorem frame_resolveClassName (names : String) (mode : ClassName.Mode) :
    (e.resolveClassName names mode).frame = e.frame := by
  unfold resolveClassName
  split
  · split
    · rfl
    · refine frame_withAttrs ?_
      unfold Attr.make?
      split
      · exact unnamedEntries_concat rfl e.attrs
      · simp only [Option.toList_none, List.map_nil, List.append_nil]
  · refine frame_withAttrs (unnamedEntries_updateFirst (fun entry h => ?_) e.attrs)
    rw [AttrEntry.isUnnamed_extendClassName, AttrEntry.isUnnamed_of_hasName h]

/-- **Each edit keeps the frame.** -/
theorem frame_edit (change : AttrEdit) : (e.edit change).frame = e.frame := by
  cases change with
  | add entries options => exact e.frame_addAttributes entries options
  | remove names => exact e.frame_removeAttrs names
  | rename old new =>
    simp only [edit]
    split
    · rename_i renamed h
      exact e.frame_renameAttr h
    · rfl
  | setValue name value => exact e.frame_setAttrValue name value
  | spreadObject name options => exact e.frame_spreadObjectProp name options
  | addClassNames names mode => exact e.frame_resolveClassName names mode

/-- **What runs of edits leave alone.** The spreads and the namespaced attributes are the
    same entries in the same order, and tag, children and closing tag are as before. -/
theorem applyEdits_keeps_frame (edits : List AttrEdit) :
    unnamedEntries (e.applyEdits edits).attrs = unnamedEntries e.attrs ∧
      (e.applyEdits edits).tag = e.tag ∧
      (e.applyEdits edits).selfClosing = e.selfClosing ∧
      (e.applyEdits edits).children = e.children ∧
      (e.applyEdits edits).closing = e.closing := by
  have hframe : (e.applyEdits edits).frame = e.frame := by
    refine applyEdits_invariant (P := fun e' => e'.frame = e.frame) (fun change _ e' h => ?_) rfl
    rw [frame_edit, h]
  simp only [frame, Element.mk.injEq] at hframe
  obtain ⟨htag, hattrs, hselfClosing, hchildren, hclosing⟩ := hframe
  exact ⟨hattrs, htag, hselfClosing, hchildren, hclosing⟩

end Element

end JsxEdit
