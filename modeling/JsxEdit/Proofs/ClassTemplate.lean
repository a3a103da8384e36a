import JsxEdit.Proofs.ClassText

/-!
  **Templates stay well-formed.**

  A template has one more text than expressions, and the last of its texts carries the tail
  flag. Class names reach a template in two ways. Appending makes the last text anew and sets
  its flag; prepending makes the first text anew and takes over the flag that it had. When
  there is one text only, it is the first and the last, and both ways have to agree on it.

  Over a run of additions an element is in one of three states. It has a well-formed template
  in its `className`, and then it keeps one around the same expressions; it has another
  expression there, and then the first addition puts a template around it; or it has neither,
  and then it never gets a template.
-/

namespace JsxEdit

open Attribute ClassName

/-! ### Well-formed templates -/

/-- One more text than expressions, and the tail flag on the last text and on no other. -/
structure Template.WellFormed (t : Template) : Prop where
  balanced : t.Balanced
  tail_iff : ∀ (i : Nat) (q : Quasi), t.quasis[i]? = some q →
    (q.tail = true ↔ i + 1 = t.quasis.length)

/-- The tail flags of the texts around `n` expressions. -/
def tailFlags (n : Nat) : List Bool := List.replicate n false ++ [true]

theorem getElem?_tailFlags_iff {n i : Nat} {flag : Bool} :
    (tailFlags n)[i]? = some flag ↔ i ≤ n ∧ (flag = true ↔ i = n) := by
  rw [tailFlags, List.getElem?_append, List.length_replicate]
  split
  · rename_i hlt
    have hne : i ≠ n := by omega
    have hle : i ≤ n := by omega
    simp [hlt, hle, hne]
  · rename_i hge
    by_cases hlast : i = n
    · subst hlast
      simp
    · have hbeyond : ¬ i ≤ n := by omega
      have hout : [true][i - n]? = none := by
        rw [List.getElem?_eq_none_iff, List.length_singleton]
        omega
      simp [hout, hbeyond]

theorem length_tailFlags (n : Nat) : (tailFlags n).length = n + 1 := by
  rw [tailFlags, List.length_append, List.length_replicate, List.length_singleton]

/-- Both parts of the definition in one equation between lists of flags. -/
theorem Template.wellFormed_iff {t : Template} :
    t.WellFormed ↔ t.quasis.map Quasi.tail = tailFlags t.exprs.length := by
  constructor
  · rintro ⟨hbalanced, htail⟩
    apply List.ext_getElem?
    intro i
    cases hq : t.quasis[i]? with
    | none =>
      have hbeyond : (tailFlags t.exprs.length)[i]? = none := by
        rw [List.getElem?_eq_none_iff, length_tailFlags, ← hbalanced]
        exact List.getElem?_eq_none_iff.mp hq
      rw [List.getElem?_map, hq, hbeyond, Option.map_none]
    | some q =>
      obtain ⟨hi, -⟩ := List.getElem?_eq_some_iff.mp hq
      rw [hbalanced] at hi
      have hflag : (tailFlags t.exprs.length)[i]? = some q.tail := by
        rw [getElem?_tailFlags_iff, htail i q hq, hbalanced]
        omega
      rw [List.getElem?_map, hq, hflag, Option.map_some]
  · intro hflags
    have hbalanced : t.Balanced := by
      have hlength := congrArg List.length hflags
      rwa [List.length_map, length_tailFlags] at hlength
    refine ⟨hbalanced, ?_⟩
    intro i q hq
    have hflag : (tailFlags t.exprs.length)[i]? = some q.tail := by
      rw [← hflags, List.getElem?_map, hq, Option.map_some]
    rw [(getElem?_tailFlags_iff.mp hflag).2, hbalanced]
    omega

instance (t : Template) : Decidable t.WellFormed :=
  decidable_of_iff _ Template.wellFormed_iff.symm

theorem Template.WellFormed.quasis_ne_nil {t : Template} (h : t.WellFormed) : t.quasis ≠ [] := by
  intro hnil
  have hlength := h.balanced
  rw [Template.Balanced, hnil] at hlength
  cases hlength

/-! ### Made templates -/

theorem Quasi.map_tail_makeAll {texts : List String} {n : Nat} (h : texts.length = n + 1) :
    (makeAll texts).map tail = tailFlags n := by
  induction texts using makeAll.induct generalizing n with
  | case1 => cases h
  | case2 last =>
    cases h
    rfl
  | case3 text texts htexts ih =>
    -- the rest is not empty, so this text is not the last one
    obtain ⟨n, rfl⟩ : ∃ m, n = m + 1 := by
      cases n with
      | zero => exact absurd (List.eq_nil_of_length_eq_zero (Nat.succ.inj h)) htexts
      | succ m => exact ⟨m, rfl⟩
    simp only [makeAll, List.map_cons, ih (Nat.succ.inj h)]
    rfl

theorem Quasi.map_cooked_makeAll (texts : List String) :
    (makeAll texts).map cooked = texts.map some := by
  induction texts using makeAll.induct with
  | case1 => rfl
  | case2 last => rfl
  | case3 text texts _ ih => simp only [makeAll, List.map_cons, make, ih]

theorem Template.make?_eq_some_iff {texts : List String} {exprs : List Node} {t : Template} :
    Template.make? texts exprs = some t ↔
      texts.length = exprs.length + 1 ∧ t = ⟨exprs, Quasi.makeAll texts⟩ := by
  unfold Template.make?
  split
  · rename_i hcount
    simp [hcount, eq_comm]
  · rename_i hcount
    simp [Ne.symm hcount]

theorem Template.wellFormed_of_make? {texts : List String} {exprs : List Node} {t : Template}
    (h : Template.make? texts exprs = some t) : t.WellFormed := by
  obtain ⟨hcount, rfl⟩ := Template.make?_eq_some_iff.mp h
  exact Template.wellFormed_iff.mpr (Quasi.map_tail_makeAll hcount)

/-! ### Extended templates -/

namespace ClassName

theorem appendToLast_concat (names : String) (init : List Quasi) (last : Quasi) :
    appendToLast names (init ++ [last]) = init ++ [.make (last.raw ++ " " ++ names) true] := by
  induction init with
  | nil => rfl
  | cons q init ih =>
    rw [List.cons_append, appendToLast, ih, List.cons_append]
    exact List.append_ne_nil_of_right_ne_nil init (List.cons_ne_nil last [])

theorem map_tail_appendToLast {names : String} {quasis : List Quasi} {n : Nat}
    (h : quasis.map Quasi.tail = tailFlags n) :
    (appendToLast names quasis).map Quasi.tail = tailFlags n := by
  obtain ⟨init, ends, rfl, hinit, hends⟩ := List.map_eq_append_iff.mp h
  obtain ⟨last, rfl⟩ : ∃ last, ends = [last] := by
    rw [← List.length_eq_one_iff, ← List.length_map (f := Quasi.tail), hends]
    rfl
  rw [appendToLast_concat, List.map_append, hinit]
  rfl

theorem map_tail_prependToFirst (names : String) (quasis : List Quasi) :
    (prependToFirst names quasis).map Quasi.tail = quasis.map Quasi.tail := by
  cases quasis with
  | nil => rfl
  | cons q rest => rfl

@[simp] theorem exprs_extendTemplate (t : Template) (names : String) (mode : Mode) :
    (extendTemplate t names mode).exprs = t.exprs := by
  cases mode <;> rfl

@[simp] theorem exprs_wrapExpr (e : Node) (names : String) (mode : Mode) :
    (wrapExpr e names mode).exprs = [e] := by
  cases mode <;> rfl

theorem wellFormed_extendTemplate {t : Template} (h : t.WellFormed) (names : String)
    (mode : Mode) : (extendTemplate t names mode).WellFormed := by
  rw [Template.wellFormed_iff] at h ⊢
  rw [exprs_extendTemplate]
  cases mode with
  | append => exact map_tail_appendToLast h
  | prepend => exact (map_tail_prependToFirst names t.quasis).trans h

theorem wellFormed_wrapExpr (e : Node) (names : String) (mode : Mode) :
    (wrapExpr e names mode).WellFormed := by
  rw [Template.wellFormed_iff, exprs_wrapExpr]
  cases mode <;> rfl

end ClassName

/-! ### The template of a `className` -/

namespace Attr

/-- The template in braces that is the value of the attribute. -/
def template? (a : Attr) : Option Template :=
  match a.value with
  | some (.braces (.template t)) => some t
  | _ => none

/-- The expression of a `className` of form `expression`. -/
def expression? (a : Attr) : Option Node :=
  if a.classNameForm = .expression then a.braced? else none

/-- The attribute with class names added to its value. -/
def extended (a : Attr) (names : String) (mode : Mode) : Attr :=
  { a with value := extend names mode a.classNameForm a.value }

variable {a : Attr}

theorem template?_eq_some_iff {t : Template} :
    a.template? = some t ↔ a.value = some (.braces (.template t)) := by
  unfold template?
  split
  · rename_i hvalue
    simp [hvalue]
  · rename_i hvalue
    constructor
    · intro hnone
      cases hnone
    · intro ht
      exact absurd ht (hvalue t)

theorem expression?_eq_some_iff {x : Node} :
    a.expression? = some x ↔ a.classNameForm = .expression ∧ a.value = some (.braces x) := by
  unfold expression?
  split
  · rename_i hform
    constructor
    · intro hx
      exact ⟨hform, braced?_eq_some hx⟩
    · rintro ⟨-, hvalue⟩
      rw [braced?, hvalue]
  · rename_i hform
    constructor
    · intro hnone
      cases hnone
    · rintro ⟨hexpr, -⟩
      exact absurd hexpr hform

theorem template?_extended_of_template {t : Template} (h : a.template? = some t)
    (ht : t.quasis ≠ []) (names : String) (mode : Mode) :
    (a.extended names mode).template? = some (extendTemplate t names mode) := by
  have hvalue := template?_eq_some_iff.mp h
  rw [template?_eq_some_iff, extended, classNameForm_of_template hvalue ht, hvalue]
  rfl

theorem template?_extended_of_expression {x : Node} (h : a.expression? = some x)
    (names : String) (mode : Mode) :
    (a.extended names mode).template? = some (wrapExpr x names mode) := by
  obtain ⟨hform, hvalue⟩ := expression?_eq_some_iff.mp h
  rw [template?_eq_some_iff, extended, hform, hvalue]
  rfl

/-- A value that is neither a template nor another expression stays so: literals come out
    bare, helper calls stay calls, and what is not recognized stays as it is. -/
theorem extended_of_neither (htemplate : a.template? = none) (hexpr : a.expression? = none)
    (names : String) (mode : Mode) :
    (a.extended names mode).template? = none ∧ (a.extended names mode).expression? = none := by
  have hbare {b : Attr} {l : Literal} (hb : b.value = some (.literal l)) :
      b.template? = none ∧ b.expression? = none := by
    simp [template?, expression?, braced?, hb]
  by_cases hform : a.classNameForm = .unrecognized
  · have hsame : a.extended names mode = a := by
      rw [extended, hform]
      cases a
      rfl
    rw [hsame]
    exact ⟨htemplate, hexpr⟩
  · have hwritten := written_classNameForm hform
    generalize hvalue : a.value = value at hwritten
    generalize hform : a.classNameForm = form at hwritten
    have hextended : (a.extended names mode).value = extend names mode form value := by
      rw [extended, hform, hvalue]
    cases hwritten with
    | literal _ => exact hbare hextended
    | literalExpression => exact hbare hextended
    | template _ =>
      rw [template?_eq_some_iff.mpr hvalue] at htemplate
      cases htemplate
    | helperCall hname =>
      have hcall := classNameForm_of_helperCall hextended hname
      refine ⟨?_, ?_⟩
      · rw [template?, hextended]
        rfl
      · rw [expression?, hcall]
        rfl
    | expression =>
      rw [expression?_eq_some_iff.mpr ⟨hform, hvalue⟩] at hexpr
      cases hexpr

end Attr

namespace Element

/-- The template in the first `className`. -/
def classTemplate? (e : Element) : Option Template := e.className?.bind Attr.template?

/-- The expression of a first `className` of form `expression`. -/
def classExpression? (e : Element) : Option Node := e.className?.bind Attr.expression?

/-- A template in the first `className` of the element is well-formed. -/
def WellFormedTemplate (e : Element) : Prop := ∀ t, e.classTemplate? = some t → t.WellFormed

instance (e : Element) : Decidable e.WellFormedTemplate :=
  match h : e.classTemplate? with
  | none => isTrue fun t ht => by rw [h] at ht; cases ht
  | some t => decidable_of_iff t.WellFormed
      ⟨fun hwf t' ht => by rw [h] at ht; cases ht; exact hwf, fun hall => hall t h⟩

variable {e : Element}

theorem not_expression_of_template {t : Template} (h : e.classTemplate? = some t)
    (ht : t.WellFormed) : e.classExpression? = none := by
  obtain ⟨a, ha, htemplate⟩ := Option.bind_eq_some_iff.mp h
  have hform := Attr.classNameForm_of_template (Attr.template?_eq_some_iff.mp htemplate)
    ht.quasis_ne_nil
  rw [classExpression?, ha, Option.bind_some, Attr.expression?, hform]
  rfl

/-! ### One addition -/

theorem className?_resolveClassName_of_empty (h : e.className? = none) (mode : Mode) :
    (e.resolveClassName "" mode).className? = none := by
  rw [resolveClassName, classNameForm_of_none h]
  exact h

variable (names : String) (mode : Mode)

theorem classTemplate?_resolveClassName_of_template {t : Template}
    (h : e.classTemplate? = some t) (ht : t.quasis ≠ []) :
    (e.resolveClassName names mode).classTemplate? = some (extendTemplate t names mode) := by
  obtain ⟨a, ha, htemplate⟩ := Option.bind_eq_some_iff.mp h
  rw [classTemplate?, className?_resolveClassName_of_some names mode ha, Option.bind_some]
  exact Attr.template?_extended_of_template htemplate ht names mode

theorem classTemplate?_resolveClassName_of_expression {x : Node}
    (h : e.classExpression? = some x) :
    (e.resolveClassName names mode).classTemplate? = some (wrapExpr x names mode) := by
  obtain ⟨a, ha, hexpr⟩ := Option.bind_eq_some_iff.mp h
  rw [classTemplate?, className?_resolveClassName_of_some names mode ha, Option.bind_some]
  exact Attr.template?_extended_of_expression hexpr names mode

theorem resolveClassName_of_neither (htemplate : e.classTemplate? = none)
    (hexpr : e.classExpression? = none) :
    (e.resolveClassName names mode).classTemplate? = none ∧
      (e.resolveClassName names mode).classExpression? = none := by
  cases ha : e.className? with
  | some a =>
    rw [classTemplate?, ha, Option.bind_some] at htemplate
    rw [classExpression?, ha, Option.bind_some] at hexpr
    rw [classTemplate?, classExpression?, className?_resolveClassName_of_some names mode ha]
    exact Attr.extended_of_neither htemplate hexpr names mode
  | none =>
    by_cases hnames : names = ""
    · subst hnames
      rw [classTemplate?, classExpression?, className?_resolveClassName_of_empty ha]
      exact ⟨rfl, rfl⟩
    · rw [classTemplate?, classExpression?,
        className?_resolveClassName_of_none names mode ha hnames]
      simp [Attr.template?, Attr.expression?, Attr.braced?]

end Element

/-! ### Runs -/

namespace Element

variable {e : Element}

/-- The `className` is a well-formed template around these expressions. -/
def SubstitutesInClass (e : Element) (exprs : List Node) : Prop :=
  ∃ t, e.classTemplate? = some t ∧ t.WellFormed ∧ t.exprs = exprs

theorem SubstitutesInClass.resolveClassName {exprs : List Node} (h : e.SubstitutesInClass exprs)
    (names : String) (mode : Mode) : (e.resolveClassName names mode).SubstitutesInClass exprs := by
  obtain ⟨t, htemplate, ht, rfl⟩ := h
  refine ⟨extendTemplate t names mode, ?_, wellFormed_extendTemplate ht names mode, ?_⟩
  · exact classTemplate?_resolveClassName_of_template names mode htemplate ht.quasis_ne_nil
  · exact exprs_extendTemplate t names mode

theorem substitutesInClass_of_expression {x : Node} (h : e.classExpression? = some x)
    (names : String) (mode : Mode) : (e.resolveClassName names mode).SubstitutesInClass [x] := by
  refine ⟨wrapExpr x names mode, ?_, wellFormed_wrapExpr x names mode, ?_⟩
  · exact classTemplate?_resolveClassName_of_expression names mode h
  · exact exprs_wrapExpr x names mode

theorem SubstitutesInClass.resolveClassNames {exprs : List Node} (h : e.SubstitutesInClass exprs)
    (additions : List (String × Mode)) :
    (e.resolveClassNames additions).SubstitutesInClass exprs := by
  refine List.foldlRecOn additions _ (motive := (SubstitutesInClass · exprs)) h ?_
  rintro later hlater ⟨names, mode⟩ -
  exact hlater.resolveClassName names mode

theorem resolveClassNames_of_neither (htemplate : e.classTemplate? = none)
    (hexpr : e.classExpression? = none) (additions : List (String × Mode)) :
    (e.resolveClassNames additions).classTemplate? = none ∧
      (e.resolveClassNames additions).classExpression? = none := by
  refine List.foldlRecOn additions _
    (motive := fun later : Element => later.classTemplate? = none ∧ later.classExpression? = none)
    ⟨htemplate, hexpr⟩ ?_
  rintro later ⟨hnoTemplate, hnoExpr⟩ ⟨names, mode⟩ -
  exact resolveClassName_of_neither names mode hnoTemplate hnoExpr

/-- The three states of an element, over a run. -/
theorem classTemplate?_resolveClassNames_cases (h : e.WellFormedTemplate)
    (additions : List (String × Mode)) :
    (∃ t, e.classTemplate? = some t ∧
      (e.resolveClassNames additions).SubstitutesInClass t.exprs) ∨
    (e.classTemplate? = none ∧ ∃ x, e.classExpression? = some x ∧ (additions ≠ [] →
      (e.resolveClassNames additions).SubstitutesInClass [x])) ∨
    (e.classTemplate? = none ∧ e.classExpression? = none ∧
      (e.resolveClassNames additions).classTemplate? = none) := by
  cases htemplate : e.classTemplate? with
  | some t =>
    left
    have hstart : e.SubstitutesInClass t.exprs := ⟨t, htemplate, h t htemplate, rfl⟩
    exact ⟨t, rfl, hstart.resolveClassNames additions⟩
  | none =>
    right
    cases hexpr : e.classExpression? with
    | some x =>
      left
      refine ⟨rfl, x, rfl, ?_⟩
      intro hadditions
      cases additions with
      | nil => exact absurd rfl hadditions
      | cons addition additions =>
        obtain ⟨names, mode⟩ := addition
        exact (substitutesInClass_of_expression hexpr names mode).resolveClassNames additions
    | none =>
      right
      exact ⟨rfl, rfl, (resolveClassNames_of_neither htemplate hexpr additions).1⟩

end Element

/-- **Templates stay well-formed.** A template is made exactly when the counts fit, and it is
    well-formed then, with the texts and the expressions that were given. A run of additions
    keeps the template of a `className` well-formed, around the expressions that it had, and
    puts one around an expression that stood there instead. -/
theorem templates_stay_wellFormed :
    (∀ (texts : List String) (exprs : List Node),
      ((Template.make? texts exprs).isSome = true ↔ texts.length = exprs.length + 1) ∧
      ∀ t, Template.make? texts exprs = some t →
        t.WellFormed ∧ t.quasis.map Quasi.raw = texts ∧
          t.quasis.map Quasi.cooked = texts.map some ∧ t.exprs = exprs) ∧
    ∀ (e : Element) (additions : List (String × Mode)), e.WellFormedTemplate →
      (∀ t, (e.resolveClassNames additions).classTemplate? = some t →
        t.WellFormed ∧
          (∀ t₀, e.classTemplate? = some t₀ → t.exprs = t₀.exprs) ∧
          (∀ x, e.classExpression? = some x → t.exprs = [x])) ∧
      (e.classTemplate?.isSome = true ∨ e.classExpression?.isSome = true ∧ additions ≠ [] →
        (e.resolveClassNames additions).classTemplate?.isSome = true) := by
  constructor
  · intro texts exprs
    constructor
    · rw [Option.isSome_iff_exists]
      constructor
      · rintro ⟨t, ht⟩
        exact (Template.make?_eq_some_iff.mp ht).1
      · intro hcount
        exact ⟨_, Template.make?_eq_some_iff.mpr ⟨hcount, rfl⟩⟩
    · intro t ht
      have hwf := Template.wellFormed_of_make? ht
      obtain ⟨-, rfl⟩ := Template.make?_eq_some_iff.mp ht
      exact ⟨hwf, Quasi.map_raw_makeAll texts, Quasi.map_cooked_makeAll texts, rfl⟩
  · intro e additions h
    rcases Element.classTemplate?_resolveClassNames_cases h additions with
      ⟨t₀, hstart, t, hlater, ht, hexprs⟩ | ⟨hnoTemplate, x, hstart, hrun⟩ |
        ⟨hnoTemplate, hnoExpr, hnone⟩
    · have hnoExpr := Element.not_expression_of_template hstart (h t₀ hstart)
      simp [hstart, hlater, ht, hexprs, hnoExpr]
    · by_cases hadditions : additions = []
      · subst hadditions
        simp [Element.resolveClassNames, hnoTemplate]
      · obtain ⟨t, hlater, ht, hexprs⟩ := hrun hadditions
        simp [hstart, hlater, ht, hexprs, hnoTemplate]
    · simp [hnoTemplate, hnoExpr, hnone]

/-- A template of one text, which is made anew at both ends and stays the tail. -/
theorem templates_stay_wellFormed_single :
    let single : Template := ⟨[], [.make "a" true]⟩
    let e : Element :=
      { tag := .ident "div"
        attrs := [.attr ⟨.plain attrName, some (.braces (.template single))⟩]
        selfClosing := true, children := [], closing := none }
    let additions := [("b", Mode.append), ("", Mode.prepend), ("c", Mode.append)]
    e.WellFormedTemplate ∧
      ∃ t, (e.resolveClassNames additions).classTemplate? = some t ∧ t.WellFormed ∧
        t.exprs = [] := by
  intro single e additions
  have hwf : e.WellFormedTemplate := by decide
  obtain ⟨hkept, hsome⟩ := templates_stay_wellFormed.2 e additions hwf
  obtain ⟨t, ht⟩ := Option.isSome_iff_exists.mp (hsome (.inl rfl))
  obtain ⟨htwf, hexprs, -⟩ := hkept t ht
  exact ⟨hwf, t, ht, htwf, hexprs single rfl⟩

end JsxEdit
