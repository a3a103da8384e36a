import JsxEdit.Attribute.Read
import JsxEdit.Proofs.ClassSteps

/-!
  **The readers of an attribute agree.**

  Three readers look at the value of an attribute, each for a purpose of its own. `Attr.read`
  gives whatever is there. `Attr.readString` wants a string, and fails on other things in braces.
  Adding class names reads the text that a `className` has so far, to merge the new names with it.

  None of them is written in terms of another. What the first two make of strings is compared by
  way of how a value is written: `Attr.HoldsString` and `Attr.HoldsComputed` have a constructor
  for each way. The third reader goes by the form of the `className`. In the two forms of literals
  the first reader sees a scalar, and the text of that scalar is the one that is merged.
-/

namespace JsxEdit

open Attribute ClassName

/-! ### Strings -/

namespace Attr

/-- The value is a string, bare or in braces. -/
inductive HoldsString (s : String) : Option Node → Prop where
  | bare {raw : Option String} : HoldsString s (some (.literal (.str ⟨s, raw⟩)))
  | braced {raw : Option String} : HoldsString s (some (.braces (.literal (.str ⟨s, raw⟩))))

/-- The value is in braces, and there is no string right inside. -/
inductive HoldsComputed : Option Node → Prop where
  | empty : HoldsComputed (some .emptyBraces)
  | expr {inner : Node} : (∀ l, inner ≠ .literal (.str l)) → HoldsComputed (some (.braces inner))

end Attr

theorem Literal.scalar?_eq_str_iff {l : Literal} {s : String} :
    l.scalar? = some (.str s) ↔ ∃ raw, l = .str ⟨s, raw⟩ := by
  constructor
  · intro h
    cases l with
    | str l =>
      obtain ⟨value, raw⟩ := l
      obtain rfl : value = s := Scalar.str.inj (Option.some.inj h)
      exact ⟨raw, rfl⟩
    | _ => cases h
  · rintro ⟨raw, rfl⟩
    rfl

namespace Attr

variable {a : Attr} {s : String}

theorem read_eq_str_iff : a.read = some (.scalar (.str s)) ↔ HoldsString s a.value := by
  constructor
  · intro h
    unfold read at h
    split at h
    · cases h
    · rename_i l hvalue
      obtain ⟨scalar, hscalar, heq⟩ := Option.map_eq_some_iff.mp h
      obtain rfl := Reading.scalar.inj heq
      obtain ⟨raw, rfl⟩ := Literal.scalar?_eq_str_iff.mp hscalar
      rw [hvalue]
      exact .bare
    · split at h <;> cases h
    · rename_i l hvalue
      split at h
      · rename_i scalar hscalar
        obtain rfl := Reading.scalar.inj (Option.some.inj h)
        obtain ⟨raw, rfl⟩ := Literal.scalar?_eq_str_iff.mp hscalar
        rw [hvalue]
        exact .braced
      · cases h
    · cases h
    · cases h
  · obtain ⟨name, value⟩ := a
    rintro (_ | _) <;> rfl

theorem readString_eq_some_iff : a.readString = .ok (some s) ↔ HoldsString s a.value := by
  constructor
  · intro h
    unfold readString at h
    split at h
    · rename_i l hvalue
      obtain rfl := Option.some.inj (Except.ok.inj h)
      rw [hvalue]
      exact .bare
    · rename_i l hvalue
      obtain rfl := Option.some.inj (Except.ok.inj h)
      rw [hvalue]
      exact .braced
    · cases h
    · cases h
    · cases h
  · obtain ⟨name, value⟩ := a
    rintro (_ | _) <;> rfl

/-- The only failure is to find a computed value. -/
theorem readString_eq_error_iff {err : EditError} :
    a.readString = .error err ↔
      err = .nonLiteralExpression a.name.label ∧ HoldsComputed a.value := by
  constructor
  · intro h
    unfold readString at h
    split at h
    · cases h
    · cases h
    · rename_i inner hnot hvalue
      obtain rfl := Except.error.inj h
      refine ⟨rfl, ?_⟩
      rw [hvalue]
      apply HoldsComputed.expr
      rintro l rfl
      exact hnot l rfl
    · rename_i hvalue
      obtain rfl := Except.error.inj h
      refine ⟨rfl, ?_⟩
      rw [hvalue]
      exact .empty
    · cases h
  · rintro ⟨rfl, hcomputed⟩
    obtain ⟨name, value⟩ := a
    cases hcomputed with
    | empty => rfl
    | @expr inner hinner =>
      cases inner with
      | literal l =>
        cases l with
        | str l => exact absurd rfl (hinner l)
        | _ => rfl
      | _ => rfl

end Attr

/-! ### Class text -/

/-- The text of a scalar among class names: null and the Booleans have none. -/
def Scalar.classText? : Scalar → Option String
  | str s => some s
  | num x => some (Number.text x)
  | null => none
  | bool _ => none

namespace Attr

variable {a : Attr}

theorem written_of_classNameForm {form : Form} (hform : a.classNameForm = form)
    (hne : form ≠ .unrecognized) : Written a.value form := by
  subst hform
  exact written_classNameForm hne

/-- A `className` that is written as a literal reads as a scalar, and the text of the scalar is
    what more class names are merged with. -/
theorem read_of_literalForm
    (hform : a.classNameForm = .literal ∨ a.classNameForm = .literalExpression) :
    ∃ scalar text, a.read = some (.scalar scalar) ∧ scalar.classText? = some text ∧
      ∀ names mode, extend names mode a.classNameForm a.value =
        some (.literal (.ofString (merge text names mode))) := by
  obtain ⟨name, value⟩ := a
  rcases hform with hform | hform
  · rw [hform]
    cases written_of_classNameForm hform nofun with
    | literal _ => exact ⟨_, _, rfl, rfl, fun _ _ => rfl⟩
  · rw [hform]
    cases written_of_classNameForm hform nofun with
    | @literalExpression l =>
      -- of the literals in braces, only strings and numbers have the form
      cases l with
      | str l => exact ⟨.str l.value, l.value, rfl, rfl, fun _ _ => rfl⟩
      | num x raw => exact ⟨.num x, Number.text x, rfl, rfl, fun _ _ => rfl⟩
      | _ => cases hform

end Attr

/-- In an element the text of the first `className` is merged with whatever class names are
    added, and the outcome stands bare in the same place. -/
theorem Element.resolveClassName_of_literalForm {e : Element}
    (hform : e.classNameForm = .literal ∨ e.classNameForm = .literalExpression) :
    ∃ before value after scalar text,
      e.attrs = before ++ .attr ⟨.plain attrName, value⟩ :: after ∧
      attrName ∉ plainNames before ∧
      Attr.read ⟨.plain attrName, value⟩ = some (.scalar scalar) ∧
      scalar.classText? = some text ∧
      ∀ names mode, e.resolveClassName names mode =
        { e with attrs := before ++ .attr ⟨.plain attrName,
            some (.literal (.ofString (merge text names mode)))⟩ :: after } := by
  have hmem : attrName ∈ plainNames e.attrs := by
    by_contra hnone
    rw [e.classNameForm_eq_absent_iff.mpr hnone] at hform
    exact hform.elim nofun nofun
  obtain ⟨before, value, after, hattrs, hbefore⟩ := exists_cut hmem
  have hcut := classNameForm_of_cut hattrs hbefore
  rw [hcut] at hform
  obtain ⟨scalar, text, hread, htext, hextend⟩ := Attr.read_of_literalForm hform
  refine ⟨before, value, after, scalar, text, hattrs, hbefore, hread, htext, ?_⟩
  intro names mode
  rw [resolveClassName_of_cut hattrs hbefore, hcut, hextend]

/-- **The readers agree.** A string is read exactly where the value reads as that string; where a
    string is wanted the only failure is a value in braces with no string right inside, and it
    carries the label of the attribute; and a `className` that is written as a literal reads as a
    string or a number, with the text that any class names are merged with. -/
theorem Attr.readers_agree :
    (∀ (a : Attr) (s : String),
      a.readString = .ok (some s) ↔ a.read = some (.scalar (.str s))) ∧
    (∀ (a : Attr) (err : EditError), a.readString = .error err ↔
      err = .nonLiteralExpression a.name.label ∧ HoldsComputed a.value) ∧
    ∀ e : Element, e.classNameForm = .literal ∨ e.classNameForm = .literalExpression →
      ∃ before value after scalar text,
        e.attrs = before ++ .attr ⟨.plain attrName, value⟩ :: after ∧
        attrName ∉ plainNames before ∧
        Attr.read ⟨.plain attrName, value⟩ = some (.scalar scalar) ∧
        scalar.classText? = some text ∧
        ∀ names mode, e.resolveClassName names mode =
          { e with attrs := before ++ .attr ⟨.plain attrName,
              some (.literal (.ofString (merge text names mode)))⟩ :: after } := by
  refine ⟨?_, ?_, ?_⟩
  · intro a s
    rw [readString_eq_some_iff, read_eq_str_iff]
  · intro a err
    exact readString_eq_error_iff
  · intro e hform
    exact e.resolveClassName_of_literalForm hform

/-- A number as class name, after an attribute that is called `className` in a namespace and
    before another `className`. -/
theorem Attr.readers_agree_number :
    let five : Binary64 := ⟨0x4014000000000000⟩
    let a : Attr := ⟨.namespaced "x" "className", some .emptyBraces⟩
    let e : Element :=
      { tag := .ident "p"
        attrs := [.attr a, .attr ⟨.plain attrName, some (.braces (.literal (.num five none)))⟩,
          .attr ⟨.plain attrName, some (.literal (.ofString "b"))⟩]
        selfClosing := true, children := [], closing := none }
    a.readString = .error (.nonLiteralExpression "x:className") ∧
      e.classNameForm = .literalExpression ∧
      ∀ names mode, (e.resolveClassName names mode).className? =
        some ⟨.plain attrName, some (.literal (.ofString (merge "5" names mode)))⟩ := by
  intro five a e
  have hform : e.classNameForm = .literalExpression := by decide
  obtain ⟨-, hfails, hclass⟩ := readers_agree
  obtain ⟨before, value, after, scalar, text, hattrs, hbefore, hread, htext, hresult⟩ :=
    hclass e (.inr hform)
  have hfirst : e.className? = some ⟨.plain attrName, value⟩ := by
    rw [Element.className?, hattrs]
    exact find?_cut hbefore value
  cases hfirst
  cases hread
  have hfive : Number.text five = "5" := by decide +kernel
  obtain rfl : Number.text five = text := Option.some.inj htext
  rw [hfive] at hresult
  refine ⟨(hfails a _).mpr ⟨rfl, .empty⟩, hform, ?_⟩
  intro names mode
  rw [hresult, Element.className?]
  exact find?_cut hbefore _

end JsxEdit
