import JsxEdit.ClassName.Resolve
import JsxEdit.Proofs.Words

/-!
  **How a `className` is written, before and after class names are added.**

  Which of the forms a `className` has is decided by a chain of questions about its value.
  `ClassName.Written` turns the answer around: it lists, form by form, what the value can
  be. With it a statement about adding class names is proved by looking at one value per
  form, and never by going through the questions again.

  Adding class names touches the first `className` only, or makes one where there was none.
  The last two theorems say what is found as the `className` afterwards.
-/

namespace JsxEdit

/-! ### Looking up an attribute after a change -/

namespace Attribute

variable {name : String}

theorem hasName_attr (a : Attr) :
    (AttrEntry.attr a).hasName name = true ↔ a.name = .plain name := by
  rw [AttrEntry.hasName_iff]
  obtain ⟨n, v⟩ := a
  cases n <;> simp [AttrEntry.name?]

theorem not_hasName_spread (inner : Node) : ¬ (AttrEntry.spread inner).hasName name = true := by
  rw [AttrEntry.hasName_iff]
  exact nofun

theorem find?_cons_attr_of_eq {a : Attr} (rest : List AttrEntry) (h : a.name = .plain name) :
    find? name (.attr a :: rest) = some a := by
  simp only [find?, List.find?_cons, (hasName_attr a).mpr h]
  rfl

theorem find?_cons_of_not_hasName {e : AttrEntry} (rest : List AttrEntry)
    (h : ¬ e.hasName name = true) : find? name (e :: rest) = find? name rest := by
  simp only [find?, List.find?_cons, Bool.eq_false_iff.mpr h]

/-- An attribute whose value is changed in place is found with the new value. -/
theorem find?_updateFirst (f : AttrEntry → AttrEntry) (g : Attr → Attr)
    (hf : ∀ a, f (.attr a) = .attr (g a)) (hg : ∀ a, (g a).name = a.name)
    (entries : List AttrEntry) :
    find? name (updateFirst name f entries) = (find? name entries).map g := by
  induction entries with
  | nil => rfl
  | cons e rest ih =>
    by_cases h : e.hasName name = true
    · cases e with
      | spread inner => exact absurd h (not_hasName_spread inner)
      | attr a =>
        have ha := (hasName_attr a).mp h
        rw [updateFirst, if_pos h, hf, find?_cons_attr_of_eq rest ((hg a).trans ha),
          find?_cons_attr_of_eq rest ha, Option.map_some]
    · rw [updateFirst, if_neg h, find?_cons_of_not_hasName _ h, ih, find?_cons_of_not_hasName _ h]

/-- An attribute put at the end is found if there was none of its name. -/
theorem find?_concat_of_none {entries : List AttrEntry} (h : find? name entries = none)
    {a : Attr} (ha : a.name = .plain name) : find? name (entries ++ [.attr a]) = some a := by
  induction entries with
  | nil => exact find?_cons_attr_of_eq [] ha
  | cons e rest ih =>
    have he : ¬ e.hasName name = true := by
      intro he
      cases e with
      | spread inner => exact not_hasName_spread inner he
      | attr b => rw [find?_cons_attr_of_eq rest ((hasName_attr b).mp he)] at h; cases h
    rw [find?_cons_of_not_hasName rest he] at h
    rw [List.cons_append, find?_cons_of_not_hasName _ he, ih h]

end Attribute

/-! ### Merging -/

/-- The words of both texts, the new ones at the end that `mode` asks for. -/
def ClassName.Mode.join (mode : Mode) (old new : List String) : List String :=
  match mode with
  | .append => old ++ new
  | .prepend => new ++ old

namespace ClassName

theorem words_merge (existing new : String) (mode : Mode) :
    Text.words (merge existing new mode) = mode.join (Text.words existing) (Text.words new) := by
  cases mode with
  | append => rw [merge, Text.words_trim, Text.words_append_space, Mode.join]
  | prepend => rw [merge, Text.words_trim, Text.words_append_space, Mode.join]

/-- Class strings merged with one that is not blank are not empty. -/
theorem merge_ne_empty (existing : String) {new : String} (mode : Mode)
    (hnew : Text.isAllBlank new = false) : merge existing new mode ≠ "" := by
  have hwords : Text.words new ≠ [] := (Text.isAllBlank_eq_false_iff new).mp hnew
  apply Text.ne_empty_of_isAllBlank_eq_false
  rw [Text.isAllBlank_eq_false_iff, words_merge]
  cases mode with
  | append => exact List.append_ne_nil_of_right_ne_nil _ hwords
  | prepend => exact List.append_ne_nil_of_left_ne_nil hwords _

theorem length_appendToLast (names : String) (quasis : List Quasi) :
    (appendToLast names quasis).length = quasis.length := by
  induction quasis using appendToLast.induct with
  | case1 => rfl
  | case2 q => rfl
  | case3 q rest hrest ih => rw [appendToLast, List.length_cons, ih, List.length_cons]; exact hrest

theorem length_prependToFirst (names : String) (quasis : List Quasi) :
    (prependToFirst names quasis).length = quasis.length := by
  cases quasis <;> rfl

end ClassName

/-! ### The forms -/

namespace ClassName

/-- The form that class names are left in when more are added: literals come out bare, and
    other expressions go into a template. -/
def Form.afterAddition : Form → Form
  | .absent | .literal | .literalExpression => .literal
  | .templateLiteral | .expression => .templateLiteral
  | .classNamesCall => .classNamesCall
  | .unrecognized => .unrecognized

/-- What a `className` of each form has as its value. The expression of form `expression`
    can be any. -/
inductive Written : Option Node → Form → Prop where
  | literal {l : StringLiteral} : l.value ≠ "" → Written (some (.literal (.str l))) .literal
  | literalExpression {l : Literal} : Written (some (.braces (.literal l))) .literalExpression
  | template {t : Template} : t.quasis ≠ [] →
      Written (some (.braces (.template t))) .templateLiteral
  | helperCall {name : String} {args : List Node} : helpers.contains name = true →
      Written (some (.braces (.call (.ident name) args))) .classNamesCall
  | expression {e : Node} : Written (some (.braces e)) .expression

end ClassName

open ClassName

namespace Attr

variable {a : Attr}

theorem braced?_eq_some {e : Node} (h : a.braced? = some e) : a.value = some (.braces e) := by
  unfold braced? at h
  split at h
  · rename_i hvalue
    rw [hvalue, Option.some.inj h]
  · cases h

/-- **The chain of questions, turned around.** -/
theorem written_classNameForm (h : a.classNameForm ≠ .unrecognized) :
    Written a.value a.classNameForm := by
  unfold classNameForm at h ⊢
  split
  · rename_i hliteral
    unfold isLiteralClassName at hliteral
    split at hliteral
    · rename_i hvalue
      rw [hvalue]
      exact .literal (bne_iff_ne.mp hliteral)
    · cases hliteral
  split
  · rename_i hexpr
    unfold isLiteralExpression at hexpr
    split at hexpr
    · rename_i hbraced
      rw [braced?_eq_some hbraced]
      exact .literalExpression
    · rename_i hbraced
      rw [braced?_eq_some hbraced]
      exact .literalExpression
    · cases hexpr
  split
  · rename_i htemplate
    unfold isTemplateLiteralExpression at htemplate
    split at htemplate
    · rename_i hbraced
      rw [braced?_eq_some hbraced]
      refine .template ?_
      simpa using htemplate
    · cases htemplate
  split
  · rename_i hcall
    unfold isClassNamesCall at hcall
    split at hcall
    · rename_i hbraced
      rw [braced?_eq_some hbraced]
      exact .helperCall hcall
    · cases hcall
  split
  · rename_i hexpr
    obtain ⟨e, he⟩ := Option.isSome_iff_exists.mp hexpr
    rw [braced?_eq_some he]
    exact .expression
  · simp_all

theorem classNameForm_of_literal {l : StringLiteral} (hvalue : a.value = some (.literal (.str l)))
    (hl : l.value ≠ "") : a.classNameForm = .literal := by
  simp [classNameForm, isLiteralClassName, hvalue, hl]

theorem classNameForm_of_template {t : Template} (hvalue : a.value = some (.braces (.template t)))
    (ht : t.quasis ≠ []) : a.classNameForm = .templateLiteral := by
  simp [classNameForm, isLiteralClassName, isLiteralExpression, isTemplateLiteralExpression,
    braced?, hvalue, ht]

theorem classNameForm_of_helperCall {name : String} {args : List Node}
    (hvalue : a.value = some (.braces (.call (.ident name) args)))
    (hname : helpers.contains name = true) : a.classNameForm = .classNamesCall := by
  simp only [classNameForm, isLiteralClassName, isLiteralExpression, isTemplateLiteralExpression,
    isClassNamesCall, braced?, hvalue, hname]
  rfl

end Attr

theorem ClassName.extendTemplate_quasis_ne_nil {t : Template} (ht : t.quasis ≠ []) (names : String)
    (mode : Mode) : (extendTemplate t names mode).quasis ≠ [] := by
  have hlength : (extendTemplate t names mode).quasis.length = t.quasis.length := by
    cases mode with
    | append => exact length_appendToLast names t.quasis
    | prepend => exact length_prependToFirst names t.quasis
  exact List.ne_nil_of_length_pos (hlength ▸ List.length_pos_iff.mpr ht)

theorem ClassName.Written.afterAddition_ne {value : Option Node} {form : Form}
    (hwritten : Written value form) : form.afterAddition ≠ .unrecognized := by
  cases hwritten <;> exact nofun

/-- **The forms are a state machine** that has come to rest after one addition. -/
theorem ClassName.Written.classNameForm_extend {value : Option Node} {form : Form}
    (hwritten : Written value form) {names : String} (hnames : Text.isAllBlank names = false)
    {mode : Mode} {a : Attr} (ha : a.value = extend names mode form value) :
    a.classNameForm = form.afterAddition := by
  cases hwritten with
  | literal _ => exact Attr.classNameForm_of_literal ha (merge_ne_empty _ mode hnames)
  | literalExpression => exact Attr.classNameForm_of_literal ha (merge_ne_empty _ mode hnames)
  | template ht =>
    exact Attr.classNameForm_of_template ha (extendTemplate_quasis_ne_nil ht names mode)
  | helperCall hname => exact Attr.classNameForm_of_helperCall ha hname
  | expression =>
    refine Attr.classNameForm_of_template ha ?_
    cases mode <;> exact nofun

/-! ### One addition -/

namespace Element

/-- The first plain `className` of an element. -/
def className? (e : Element) : Option Attr := Attribute.find? attrName e.attrs

theorem classNameForm_of_none {e : Element} (h : e.className? = none) :
    e.classNameForm = .absent := by
  rw [className?] at h
  rw [classNameForm, h]

theorem classNameForm_of_some {e : Element} {a : Attr} (h : e.className? = some a) :
    e.classNameForm = a.classNameForm := by
  rw [className?] at h
  rw [classNameForm, h]

end Element

theorem Attr.classNameForm_ne_absent (a : Attr) : a.classNameForm ≠ .absent := by
  unfold Attr.classNameForm
  repeat' split
  all_goals exact nofun

theorem ClassName.make?_attrName (names : String) :
    Attr.make? attrName (.scalar (.str names)) =
      some ⟨.plain attrName, some (.literal (.ofString names))⟩ := by
  have hvalid : Attribute.isValidName attrName = true := by decide
  rw [Attr.make?, if_pos hvalid]
  rfl

namespace Element

variable {e : Element} (names : String) (mode : Mode)

/-- Where there is no `className`, the new names make one. -/
theorem className?_resolveClassName_of_none (h : e.className? = none) (hnames : names ≠ "") :
    (e.resolveClassName names mode).className? =
      some ⟨.plain attrName, some (.literal (.ofString names))⟩ := by
  rw [resolveClassName, classNameForm_of_none h]
  simp only [if_neg hnames, make?_attrName, Option.toList_some, List.map_cons, List.map_nil]
  exact Attribute.find?_concat_of_none h rfl

/-- Where there is one, it keeps its name and is extended in its own form. -/
theorem className?_resolveClassName_of_some {a : Attr} (h : e.className? = some a) :
    (e.resolveClassName names mode).className? =
      some { a with value := extend names mode a.classNameForm a.value } := by
  have hattrs : (e.resolveClassName names mode).attrs =
      Attribute.updateFirst attrName (·.extendClassName names mode) e.attrs := by
    rw [resolveClassName, classNameForm_of_some h]
    split
    · rename_i habsent
      exact absurd habsent a.classNameForm_ne_absent
    · rfl
  let extended (b : Attr) : Attr := { b with value := extend names mode b.classNameForm b.value }
  have hfind : (e.resolveClassName names mode).className? = e.className?.map extended := by
    rw [className?, hattrs]
    exact Attribute.find?_updateFirst _ extended (fun _ => rfl) (fun _ => rfl) e.attrs
  rw [hfind, h, Option.map_some]

end Element

end JsxEdit
