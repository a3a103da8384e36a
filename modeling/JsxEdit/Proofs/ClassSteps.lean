import JsxEdit.Proofs.AttrNames
import JsxEdit.Proofs.ClassText

/-!
  **What one addition of class names changes.**

  An addition has one place in the attribute list: the first `className`, or the end of the
  list if there is none. `Element.resolveClassName_cases` says what stands at that place
  afterwards.

  The form in which the class names are written moves along the table of
  `Form.afterAddition`, and the table takes two steps to the same form as one. So the first
  addition of a run decides, and the others leave the form as it is.
-/

namespace JsxEdit

open Attribute ClassName

/-! ### The place of an addition -/

/-- The first `className` has another value, or one has come to the end of a list that had
    none; all else is as it was. -/
inductive ClassNameChange : List AttrEntry → List AttrEntry → Prop where
  | inPlace {before after : List AttrEntry} {old : Option Node} (new : Option Node) :
      attrName ∉ plainNames before →
      ClassNameChange (before ++ .attr ⟨.plain attrName, old⟩ :: after)
        (before ++ .attr ⟨.plain attrName, new⟩ :: after)
  | atEnd {entries : List AttrEntry} (value : Option Node) :
      attrName ∉ plainNames entries →
      ClassNameChange entries (entries ++ [.attr ⟨.plain attrName, value⟩])

namespace Element

variable {e : Element} {names : String} {mode : Mode}

theorem classNameForm_of_cut {before after : List AttrEntry} {value : Option Node}
    (hattrs : e.attrs = before ++ .attr ⟨.plain attrName, value⟩ :: after)
    (hbefore : attrName ∉ plainNames before) :
    e.classNameForm = Attr.classNameForm ⟨.plain attrName, value⟩ := by
  apply classNameForm_of_some
  rw [className?, hattrs]
  exact find?_cut hbefore value

/-- The first `className` is extended in the form it has. -/
theorem resolveClassName_of_cut {before after : List AttrEntry} {value : Option Node}
    (hattrs : e.attrs = before ++ .attr ⟨.plain attrName, value⟩ :: after)
    (hbefore : attrName ∉ plainNames before) (names : String) (mode : Mode) :
    e.resolveClassName names mode =
      { e with attrs := before ++
          .attr ⟨.plain attrName, extend names mode e.classNameForm value⟩ :: after } := by
  have hform := classNameForm_of_cut hattrs hbefore
  unfold resolveClassName
  split
  · rename_i habsent
    rw [hform] at habsent
    exact absurd habsent (Attr.classNameForm_ne_absent _)
  · rw [hattrs, updateFirst_cut hbefore, AttrEntry.extendClassName, ← hform]

/-- An element has no `className` and gets one, or its first `className` is extended in the
    form it has. -/
theorem resolveClassName_cases (e : Element) (hnames : names ≠ "") (mode : Mode) :
    (attrName ∉ plainNames e.attrs ∧
      e.resolveClassName names mode =
        { e with attrs := e.attrs ++ [.attr ⟨.plain attrName, some (.literal (.ofString names))⟩] }) ∨
    ∃ before value after, e.attrs = before ++ .attr ⟨.plain attrName, value⟩ :: after ∧
      attrName ∉ plainNames before ∧
      e.resolveClassName names mode =
        { e with attrs := before ++
            .attr ⟨.plain attrName, extend names mode e.classNameForm value⟩ :: after } := by
  by_cases hmem : attrName ∈ plainNames e.attrs
  · right
    obtain ⟨before, value, after, hattrs, hbefore⟩ := exists_cut hmem
    exact ⟨before, value, after, hattrs, hbefore, resolveClassName_of_cut hattrs hbefore names mode⟩
  · left
    refine ⟨hmem, ?_⟩
    rw [resolveClassName, e.classNameForm_eq_absent_iff.mpr hmem]
    simp [hnames, make?_attrName]

theorem classNameChange_resolveClassName (e : Element) (hnames : names ≠ "") (mode : Mode) :
    ∃ attrs, ClassNameChange e.attrs attrs ∧
      e.resolveClassName names mode = { e with attrs := attrs } := by
  rcases e.resolveClassName_cases hnames mode with
    ⟨hnone, hresult⟩ | ⟨before, value, after, hattrs, hbefore, hresult⟩
  · exact ⟨_, .atEnd _ hnone, hresult⟩
  · refine ⟨_, ?_, hresult⟩
    rw [hattrs]
    exact .inPlace _ hbefore

theorem resolveClassName_of_unrecognized (hform : e.classNameForm = .unrecognized)
    (hnames : names ≠ "") (mode : Mode) : e.resolveClassName names mode = e := by
  rcases e.resolveClassName_cases hnames mode with
    ⟨hnone, -⟩ | ⟨before, value, after, hattrs, -, hresult⟩
  · rw [e.classNameForm_eq_absent_iff.mpr hnone] at hform
    cases hform
  · have hvalue : extend names mode .unrecognized value = value := rfl
    rw [hresult, hform, hvalue, ← hattrs]
    cases e
    rfl

/-! ### The form after additions -/

theorem classNameForm_resolveClassName (e : Element) (hnames : Text.isAllBlank names = false)
    (mode : Mode) :
    (e.resolveClassName names mode).classNameForm = e.classNameForm.afterAddition := by
  have hne : names ≠ "" := Text.ne_empty_of_isAllBlank_eq_false hnames
  by_cases hform : e.classNameForm = .unrecognized
  · rw [resolveClassName_of_unrecognized hform hne mode, hform]
    rfl
  · cases ha : e.className? with
    | none =>
      rw [classNameForm_of_some (className?_resolveClassName_of_none names mode ha hne),
        classNameForm_of_none ha]
      exact Attr.classNameForm_of_literal rfl hne
    | some a =>
      rw [classNameForm_of_some (className?_resolveClassName_of_some names mode ha)]
      rw [classNameForm_of_some ha] at hform ⊢
      exact (Attr.written_classNameForm hform).classNameForm_extend hnames rfl

end Element

theorem ClassName.Form.afterAddition_afterAddition (form : Form) :
    form.afterAddition.afterAddition = form.afterAddition := by
  cases form <;> rfl

namespace Element

variable {e : Element}

/-- A form that is where an addition takes it stays over any run. -/
theorem classNameForm_resolveClassNames (hsettled : e.classNameForm.afterAddition = e.classNameForm)
    {additions : List (String × Mode)}
    (hnames : ∀ addition ∈ additions, Text.isAllBlank addition.1 = false) :
    (e.resolveClassNames additions).classNameForm = e.classNameForm := by
  refine List.foldlRecOn additions _
    (motive := fun later : Element => later.classNameForm = e.classNameForm) rfl ?_
  rintro later hlater ⟨names, mode⟩ haddition
  rw [classNameForm_resolveClassName later (hnames _ haddition), hlater, hsettled]

/-- **The form settles with the first addition.** An addition takes the form along the table
    and changes one place at most; an element whose `className` is not recognized is left
    as it is; and what the first addition makes of the form, later ones keep. -/
theorem classNameForm_settles (e : Element) (names : String) (mode : Mode)
    (hnames : Text.isAllBlank names = false) :
    (e.resolveClassName names mode).classNameForm = e.classNameForm.afterAddition ∧
      (e.classNameForm = .unrecognized → e.resolveClassName names mode = e) ∧
      (∀ additions : List (String × Mode),
        (∀ addition ∈ additions, Text.isAllBlank addition.1 = false) →
          ((e.resolveClassName names mode).resolveClassNames additions).classNameForm =
            (e.resolveClassName names mode).classNameForm) ∧
      ∃ attrs, ClassNameChange e.attrs attrs ∧
        e.resolveClassName names mode = { e with attrs := attrs } := by
  have hne : names ≠ "" := Text.ne_empty_of_isAllBlank_eq_false hnames
  have hform := classNameForm_resolveClassName e hnames mode
  refine ⟨hform, fun h => resolveClassName_of_unrecognized h hne mode, ?_,
    e.classNameChange_resolveClassName hne mode⟩
  intro additions hadditions
  apply classNameForm_resolveClassNames _ hadditions
  rw [hform, Form.afterAddition_afterAddition]

/-- `className={0}` is no class text but an expression, and the second `className` is not
    looked at. -/
theorem classNameForm_settles_zero :
    let e : Element :=
      { tag := .ident "a"
        attrs := [.spread (.ident "rest"),
          .attr ⟨.plain attrName, some (.braces (.literal (.num (.zero false) none)))⟩,
          .attr ⟨.plain attrName, some (.literal (.ofString "b"))⟩]
        selfClosing := true, children := [], closing := none }
    e.classNameForm = .expression ∧
      ((e.resolveClassName " c" .prepend).resolveClassNames
        [("d", .append), ("e f", .prepend)]).classNameForm = .templateLiteral := by
  intro e
  have hform : e.classNameForm = .expression := by decide
  obtain ⟨hstep, -, hrun, -⟩ := classNameForm_settles e " c" .prepend (by decide)
  refine ⟨hform, ?_⟩
  rw [hrun _ (by decide), hstep, hform]
  rfl

end Element

end JsxEdit
