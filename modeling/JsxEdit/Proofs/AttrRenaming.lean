import JsxEdit.Proofs.AttrNames

/-!
  **Renaming an attribute, and renaming it back.**

  Renaming has three outcomes. An empty name asks for nothing; a name that no plain attribute
  has is reported; in all other cases the first attribute of the old name gets the new one and
  stays where it is. Neither spreads nor namespaced attributes are ever taken for it.

  That a renaming can be undone is a case of `Element.renameAttr_bind`: by way of a name that the
  element does not have, two renamings come to one. The attribute that was renamed is then the
  first one of that name, however often the old name comes up after it.
-/

namespace JsxEdit

open Attribute

/-! ### The outcomes -/

/-- The second element is the first one with another name on its first attribute called `old`. -/
def Element.RenamesFirst (old new : String) (e renamed : Element) : Prop :=
  ∃ before value after, e.attrs = before ++ .attr ⟨.plain old, value⟩ :: after ∧
    old ∉ plainNames before ∧
    renamed = { e with attrs := before ++ .attr ⟨.plain new, value⟩ :: after }

namespace Element

variable {e : Element} {old mid new : String}

theorem renameAttr_of_empty (h : old = "" ∨ new = "") : e.renameAttr old new = .ok e := by
  rw [renameAttr, if_pos h]

theorem renameAttr_of_not_mem (hold : old ≠ "") (hnew : new ≠ "")
    (h : old ∉ plainNames e.attrs) : e.renameAttr old new = .error (.attributeNotFound old) := by
  have hany : ¬ e.attrs.any (·.hasName old) = true := mt any_hasName_iff.mp h
  rw [renameAttr, if_neg (not_or.mpr ⟨hold, hnew⟩), if_neg hany]

theorem renameAttr_of_cut (hold : old ≠ "") (hnew : new ≠ "") {before after : List AttrEntry}
    {value : Option Node} (hattrs : e.attrs = before ++ .attr ⟨.plain old, value⟩ :: after)
    (hbefore : old ∉ plainNames before) :
    e.renameAttr old new =
      .ok { e with attrs := before ++ .attr ⟨.plain new, value⟩ :: after } := by
  have hany : e.attrs.any (·.hasName old) = true := by
    rw [any_hasName_iff, hattrs]
    simp
  rw [renameAttr, if_neg (not_or.mpr ⟨hold, hnew⟩), if_pos hany, hattrs, updateFirst_cut hbefore]
  rfl

theorem renameAttr_of_mem (hold : old ≠ "") (hnew : new ≠ "") (h : old ∈ plainNames e.attrs) :
    ∃ renamed, e.renameAttr old new = .ok renamed ∧ RenamesFirst old new e renamed := by
  obtain ⟨before, value, after, hattrs, hbefore⟩ := exists_cut h
  exact ⟨_, renameAttr_of_cut hold hnew hattrs hbefore, before, value, after, hattrs, hbefore, rfl⟩

theorem renameAttr_eq_error_iff {err : EditError} :
    e.renameAttr old new = .error err ↔
      err = .attributeNotFound old ∧ old ≠ "" ∧ new ≠ "" ∧ old ∉ plainNames e.attrs := by
  constructor
  · intro h
    by_cases hempty : old = "" ∨ new = ""
    · rw [renameAttr_of_empty hempty] at h
      cases h
    · obtain ⟨hold, hnew⟩ := not_or.mp hempty
      by_cases hmem : old ∈ plainNames e.attrs
      · obtain ⟨renamed, hok, -⟩ := renameAttr_of_mem hold hnew hmem
        rw [hok] at h
        cases h
      · rw [renameAttr_of_not_mem hold hnew hmem] at h
        cases h
        exact ⟨rfl, hold, hnew, hmem⟩
  · rintro ⟨rfl, hold, hnew, hmem⟩
    exact renameAttr_of_not_mem hold hnew hmem

theorem edit_rename_of_error {err : EditError} (h : e.renameAttr old new = .error err) :
    e.edit (.rename old new) = e := by
  simp only [edit, h]

/-! ### Two renamings -/

theorem renameAttr_self (h : old ∈ plainNames e.attrs) : e.renameAttr old old = .ok e := by
  by_cases hold : old = ""
  · exact renameAttr_of_empty (.inl hold)
  · obtain ⟨before, value, after, hattrs, hbefore⟩ := exists_cut h
    rw [renameAttr_of_cut hold hold hattrs hbefore, ← hattrs]
    cases e
    rfl

/-- **Renaming by way of a name that is not there.** The second renaming finds the attribute that
    the first one renamed, and a name that is missing at first is reported all the same. -/
theorem renameAttr_bind (hold : old ≠ "") (hmid : mid ≠ "") (hnew : new ≠ "")
    (h : mid ∉ plainNames e.attrs) :
    (e.renameAttr old mid).bind (·.renameAttr mid new) = e.renameAttr old new := by
  by_cases hmem : old ∈ plainNames e.attrs
  · obtain ⟨before, value, after, hattrs, hbefore⟩ := exists_cut hmem
    -- what stands before the renamed attribute has the name neither way
    have hfirst : mid ∉ plainNames before := by
      intro hmid
      apply h
      rw [hattrs, plainNames_append]
      exact List.mem_append_left _ hmid
    rw [renameAttr_of_cut hold hmid hattrs hbefore, renameAttr_of_cut hold hnew hattrs hbefore]
    exact renameAttr_of_cut hmid hnew rfl hfirst
  · rw [renameAttr_of_not_mem hold hmid hmem, renameAttr_of_not_mem hold hnew hmem]
    rfl

/-- **Renaming changes one name or nothing, and can be undone.** It fails for a missing attribute
    only, and then the element is as before; with an empty name it succeeds and the element is as
    before, too; otherwise the first attribute of the old name gets the new name in its place. If
    the new name was not there, renaming back restores the element. -/
theorem renameAttr_atomic (e : Element) (old new : String) :
    (∀ err, e.renameAttr old new = .error err ↔
      err = .attributeNotFound old ∧ old ≠ "" ∧ new ≠ "" ∧ old ∉ plainNames e.attrs) ∧
    (∀ err, e.renameAttr old new = .error err → e.edit (.rename old new) = e) ∧
    (old = "" ∨ new = "" → e.renameAttr old new = .ok e) ∧
    (old ≠ "" → new ≠ "" → old ∈ plainNames e.attrs →
      ∃ renamed, e.renameAttr old new = .ok renamed ∧ RenamesFirst old new e renamed ∧
        (new ∉ plainNames e.attrs → renamed.renameAttr new old = .ok e)) := by
  refine ⟨?_, ?_, ?_, ?_⟩
  · intro err
    exact renameAttr_eq_error_iff
  · intro err h
    exact edit_rename_of_error h
  · intro h
    exact renameAttr_of_empty h
  · intro hold hnew hmem
    obtain ⟨renamed, hok, hfirst⟩ := renameAttr_of_mem hold hnew hmem
    refine ⟨renamed, hok, hfirst, ?_⟩
    intro hfresh
    have hback := renameAttr_bind hold hnew hold hfresh
    rw [hok, renameAttr_self hmem] at hback
    exact hback

/-- The old name comes up twice, after a spread and a namespaced attribute that is written with
    the new name. -/
theorem renameAttr_atomic_repeated :
    let href : AttrEntry := .attr ⟨.namespaced "xlink" "href", none⟩
    let rest : AttrEntry := .spread (.ident "rest")
    let plain (name : String) (value : Node) : AttrEntry := .attr ⟨.plain name, some value⟩
    let e : Element :=
      { tag := .ident "a"
        attrs := [rest, href, plain "to" (.braces (.ident "x")), plain "to" (.braces (.ident "y"))]
        selfClosing := true, children := [], closing := none }
    let renamed : Element :=
      { e with attrs := [rest, href, plain "href" (.braces (.ident "x")),
          plain "to" (.braces (.ident "y"))] }
    e.renameAttr "to" "href" = .ok renamed ∧ renamed.renameAttr "href" "to" = .ok e := by
  intro href rest plain e renamed
  have hrenamed : e.renameAttr "to" "href" = .ok renamed := rfl
  obtain ⟨found, hfound, -, hback⟩ :=
    (renameAttr_atomic e "to" "href").2.2.2 (by decide) (by decide) (by decide)
  obtain rfl : found = renamed := by
    rw [hrenamed] at hfound
    exact (Except.ok.inj hfound).symm
  exact ⟨hrenamed, hback (by decide)⟩

end Element

end JsxEdit
