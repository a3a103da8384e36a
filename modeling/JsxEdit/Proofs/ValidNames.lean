import JsxEdit.Proofs.AttrNames

/-!
  **Names that attributes may be given, over runs of edits.**

  `Attr.make?` declines a name that is not valid. Inlining an object and adding class names
  build on it, so valid names stay valid as long as the attributes that a caller adds are
  made with it too.

  Renaming does not build on it. It takes any new name but the empty one, and this is the
  way left in which a name that is not valid gets into an element.
  `Element.HasValidNames.edit_iff` says exactly when one does.
-/

namespace JsxEdit

open Attribute

/-! ### Checked attributes -/

/-- The attribute is the outcome of `Attr.make?`. -/
def Attr.Checked (a : Attr) : Prop := ∃ name value, Attr.make? name value = some a

/-- All that the edit adds are attributes made in the given way. -/
def AttrEdit.AddsOnly (made : Attr → Prop) : AttrEdit → Prop
  | add entries _ => ∀ entry ∈ entries, ∃ a, made a ∧ entry = .attr a
  | _ => True

theorem Attr.make?_eq_some_iff {name : String} {value : NewValue} {a : Attr} :
    Attr.make? name value = some a ↔
      isValidName name = true ∧ a = ⟨.plain name, value.toNode?⟩ := by
  unfold Attr.make?
  split
  · rename_i hvalid
    simp [hvalid, eq_comm]
  · rename_i hinvalid
    simp [hinvalid]

theorem Attr.Checked.isValidName_of_name? {a : Attr} (h : a.Checked) {name : String}
    (hname : (AttrEntry.attr a).name? = some name) : isValidName name = true := by
  obtain ⟨asked, value, hmake⟩ := h
  obtain ⟨hvalid, rfl⟩ := Attr.make?_eq_some_iff.mp hmake
  cases hname
  exact hvalid

theorem isValidName_of_mem_plainNames {entries : List AttrEntry}
    (h : ∀ entry ∈ entries, ∃ a, Attr.Checked a ∧ entry = .attr a) {name : String}
    (hname : name ∈ plainNames entries) : isValidName name = true := by
  obtain ⟨entry, hentry, hhas⟩ := mem_plainNames.mp hname
  obtain ⟨a, hchecked, rfl⟩ := h entry hentry
  exact hchecked.isValidName_of_name? (AttrEntry.hasName_iff.mp hhas)

theorem checked_of_members (members : List Node) :
    ∀ entry ∈ (members.filterMap ofMember?).map AttrEntry.attr,
      ∃ a, Attr.Checked a ∧ entry = .attr a := by
  intro entry hentry
  obtain ⟨a, ha, rfl⟩ := List.mem_map.mp hentry
  obtain ⟨member, -, hmember⟩ := List.mem_filterMap.mp ha
  obtain ⟨⟨key, value⟩, -, hmake⟩ := Option.bind_eq_some_iff.mp hmember
  exact ⟨a, ⟨_, _, hmake⟩, rfl⟩

theorem AttrEdit.isValidName_of_mem_addedNames {change : AttrEdit}
    (h : change.AddsOnly Attr.Checked) (e : Element) {name : String}
    (hname : name ∈ change.addedNames e) : isValidName name = true := by
  cases change with
  | add entries options => exact isValidName_of_mem_plainNames h hname
  | spreadObject prop options =>
    exact isValidName_of_mem_plainNames (checked_of_members _) hname
  | addClassNames names mode =>
    have hclass : name = ClassName.attrName := by
      simp only [addedNames] at hname
      split at hname
      · cases hname
      · exact List.mem_singleton.mp hname
    rw [hclass]
    exact (Attr.make?_eq_some_iff.mp (ClassName.make?_attrName names)).1
  | remove names => cases hname
  | rename old new => cases hname
  | setValue prop value => cases hname

/-! ### Renaming -/

/-- The edit gives a name that is not valid to an attribute of the element. -/
def AttrEdit.Misnames (e : Element) : AttrEdit → Prop
  | rename old new => old ∈ plainNames e.attrs ∧ new ≠ "" ∧ isValidName new = false
  | _ => False

instance (e : Element) (change : AttrEdit) : Decidable (change.Misnames e) :=
  match change with
  | .rename old new => inferInstanceAs
      (Decidable (old ∈ plainNames e.attrs ∧ new ≠ "" ∧ isValidName new = false))
  | .add .. | .remove _ | .setValue .. | .spreadObject .. | .addClassNames .. =>
    inferInstanceAs (Decidable False)

namespace Element

variable {e : Element}

def HasValidNames (e : Element) : Prop := ∀ name ∈ plainNames e.attrs, isValidName name = true

instance (e : Element) : Decidable e.HasValidNames :=
  inferInstanceAs (Decidable (∀ name ∈ plainNames e.attrs, isValidName name = true))

theorem edit_rename_empty (e : Element) (old : String) : e.edit (.rename old "") = e := by
  simp [edit, renameAttr]

theorem edit_rename_of_not_mem {old : String} (h : old ∉ plainNames e.attrs) (new : String) :
    e.edit (.rename old new) = e := by
  have hany : ¬ e.attrs.any (·.hasName old) = true := mt any_hasName_iff.mp h
  simp only [edit, renameAttr, if_neg hany]
  split
  · rename_i hok
    split at hok
    · cases hok
      rfl
    · cases hok
  · rfl

theorem plainNames_edit_rename {old new : String} (hold : old ≠ "") (hnew : new ≠ "")
    {before after : List AttrEntry} {value : Option Node}
    (hattrs : e.attrs = before ++ .attr ⟨.plain old, value⟩ :: after)
    (hbefore : old ∉ plainNames before) :
    plainNames (e.edit (.rename old new)).attrs =
      plainNames before ++ new :: plainNames after := by
  have hany : e.attrs.any (·.hasName old) = true := by
    rw [any_hasName_iff, hattrs]
    simp
  simp only [edit, renameAttr, hold, hnew, or_self, if_false, if_pos hany]
  rw [hattrs, updateFirst_cut hbefore]
  simp [AttrEntry.rename]

theorem HasValidNames.edit_rename_iff (h : e.HasValidNames) (old new : String) :
    (e.edit (.rename old new)).HasValidNames ↔ ¬ (AttrEdit.rename old new).Misnames e := by
  by_cases hold : old ∈ plainNames e.attrs
  · by_cases hnew : new = ""
    · subst hnew
      rw [edit_rename_empty]
      simp [h, AttrEdit.Misnames]
    · have hne : old ≠ "" := by
        rintro rfl
        cases h "" hold
      obtain ⟨before, value, after, hattrs, hbefore⟩ := exists_cut hold
      have hothers : ∀ n ∈ plainNames before ++ plainNames after, isValidName n = true := by
        intro n hn
        apply h
        rw [hattrs]
        simp only [plainNames_append, plainNames_cons_plain, List.mem_append,
          List.mem_cons] at hn ⊢
        tauto
      rw [HasValidNames, plainNames_edit_rename hne hnew hattrs hbefore]
      simp only [AttrEdit.Misnames, hold, hnew, ne_eq, not_false_eq_true, true_and,
        Bool.not_eq_false]
      constructor
      · intro hall
        exact hall new (List.mem_append_right _ List.mem_cons_self)
      · intro hvalid n hn
        rw [List.perm_middle.mem_iff] at hn
        rcases List.mem_cons.mp hn with rfl | hn
        · exact hvalid
        · exact hothers n hn
  · rw [edit_rename_of_not_mem hold]
    simp [h, AttrEdit.Misnames, hold]

theorem HasValidNames.edit (h : e.HasValidNames) {change : AttrEdit}
    (hchange : change.isRename = false) (hadds : change.AddsOnly Attr.Checked) :
    (e.edit change).HasValidNames := by
  intro name hname
  rw [plainNames_edit e hchange] at hname
  rcases mem_foldl_addName.mp (List.mem_filter.mp hname).1 with hold | hadded
  · exact h name hold
  · exact AttrEdit.isValidName_of_mem_addedNames hadds e hadded

/-- Renaming is the one edit that lets in a name that is not valid. -/
theorem HasValidNames.edit_iff (h : e.HasValidNames) {change : AttrEdit}
    (hadds : change.AddsOnly Attr.Checked) :
    (e.edit change).HasValidNames ↔ ¬ change.Misnames e := by
  cases change with
  | rename old new => exact h.edit_rename_iff old new
  | _ => exact iff_of_true (h.edit rfl hadds) id

/-! ### Runs -/

theorem applyEdits_take_succ {edits : List AttrEdit} {k : Nat} {change : AttrEdit}
    (h : edits[k]? = some change) (e : Element) :
    e.applyEdits (edits.take (k + 1)) = (e.applyEdits (edits.take k)).edit change := by
  rw [List.take_add_one, h, applyEdits, List.foldl_append]
  rfl

/-- **Names over a run.** An element with valid names, to which only checked attributes are
    added, has valid names at every stage of a run exactly if no renaming of the run gives
    a name that is not valid to an attribute that is there when its turn comes. -/
theorem validNames_stages_iff (e : Element) (edits : List AttrEdit) (h : e.HasValidNames)
    (hadds : ∀ change ∈ edits, change.AddsOnly Attr.Checked) :
    (∀ k, (e.applyEdits (edits.take k)).HasValidNames) ↔
      ∀ (k : Nat) (change : AttrEdit), edits[k]? = some change →
        ¬ change.Misnames (e.applyEdits (edits.take k)) := by
  constructor
  · intro hstages k change hk
    have hnext := hstages (k + 1)
    rw [applyEdits_take_succ hk] at hnext
    exact ((hstages k).edit_iff (hadds change (List.mem_of_getElem? hk))).mp hnext
  · intro hrenamings k
    induction k with
    | zero => exact h
    | succ k ih =>
      cases hk : edits[k]? with
      | none =>
        rw [List.take_add_one, hk, Option.toList_none, List.append_nil]
        exact ih
      | some change =>
        rw [applyEdits_take_succ hk]
        exact (ih.edit_iff (hadds change (List.mem_of_getElem? hk))).mpr
          (hrenamings k change hk)

/-- A renaming that comes too late to find its attribute does no harm. -/
theorem validNames_stages_iff_late :
    let e : Element :=
      { tag := .ident "a", attrs := [.attr ⟨.plain "id", none⟩]
        selfClosing := true, children := [], closing := none }
    let edits : List AttrEdit :=
      [.add [.attr ⟨.plain "title", none⟩] {}, .rename "id" "key", .rename "id" "0 bad"]
    e.HasValidNames ∧ ∀ k, (e.applyEdits (edits.take k)).HasValidNames := by
  intro e edits
  have hvalid : e.HasValidNames := by decide
  have hchecked : Attr.Checked ⟨.plain "title", none⟩ :=
    ⟨"title", .scalar (.bool true), Attr.make?_eq_some_iff.mpr ⟨by decide, rfl⟩⟩
  have hadds : ∀ change ∈ edits, change.AddsOnly Attr.Checked := by
    simp [edits, AttrEdit.AddsOnly, hchecked]
  refine ⟨hvalid, (validNames_stages_iff e edits hvalid hadds).mpr ?_⟩
  rintro (_ | _ | _ | k) change hk
  · cases hk
    decide
  · cases hk
    decide
  · cases hk
    decide
  · cases hk

/-- `id` becomes `0 bad`. -/
theorem not_validNames_rename :
    let e : Element :=
      { tag := .ident "a", attrs := [.attr ⟨.plain "id", some (.literal (.ofString "x"))⟩]
        selfClosing := true, children := [], closing := none }
    e.HasValidNames ∧ ¬ (e.applyEdits [.rename "id" "0 bad"]).HasValidNames := by
  decide

end Element

end JsxEdit
