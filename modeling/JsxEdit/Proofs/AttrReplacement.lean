import JsxEdit.Proofs.AttrOverride
import JsxEdit.Proofs.ValidNames

/-!
  **Three ways to give an attribute another value.**

  The value of an attribute can be replaced in place; an attribute with the new value can be
  made and added with overriding; or it can be made and swapped for the old one. Each way has a
  search of its own, but all three come to the first attribute of the name.

  `NewValue.WrittenAs` says, value by value, what is written for it. Replacing a value takes
  scalars and finished nodes only, and these are exactly the values the relation has; for any
  other value nothing is replaced.
-/

namespace JsxEdit

open Attribute

/-! ### What is written for a value -/

/-- What stands as the value of an attribute that is given a scalar or a finished node. -/
inductive NewValue.WrittenAs : NewValue → Option Node → Prop where
  | boolTrue : WrittenAs (.scalar (.bool true)) none
  | boolFalse : WrittenAs (.scalar (.bool false)) (some (.braces (.literal (.bool false))))
  | null : WrittenAs (.scalar .null) (some (.braces (.literal .null)))
  | finite {x : Binary64} : x.isFinite = true →
      WrittenAs (.scalar (.num x)) (some (.braces (.literal (.num x none))))
  | notFinite {x : Binary64} : x.isFinite = false →
      WrittenAs (.scalar (.num x)) (some (.braces (.literal .null)))
  | str (s : String) : WrittenAs (.scalar (.str s)) (some (.literal (.str { value := s })))
  | trueBraces : WrittenAs (.node (.braces (.literal (.bool true)))) none
  | node {n : Node} : n ≠ .braces (.literal (.bool true)) → WrittenAs (.node n) (some n)

theorem Node.isTrueBraces_iff {n : Node} :
    n.isTrueBraces = true ↔ n = .braces (.literal (.bool true)) := by
  unfold Node.isTrueBraces
  split
  · simp
  · rename_i hother
    simp only [Bool.false_eq_true, false_iff]
    intro hn
    exact hother hn

theorem NewValue.toNode?_num (x : Binary64) :
    (scalar (.num x)).toNode? =
      some (.braces (.literal (if x.isFinite then .num x none else .null))) := by
  simp only [toNode?, Scalar.writable]
  split <;> rfl

/-- The relation is the function that resolves a value, on the values that may take the place of
    another. -/
theorem NewValue.writtenAs_iff {value : NewValue} {written : Option Node} :
    value.WrittenAs written ↔ value.isReady = true ∧ value.toNode? = written := by
  constructor
  · intro h
    cases h with
    | finite hx => simp [isReady, toNode?_num, hx]
    | notFinite hx => simp [isReady, toNode?_num, hx]
    | node hn => simp [isReady, toNode?, Node.isTrueBraces_iff, hn]
    | _ => exact ⟨rfl, rfl⟩
  · rintro ⟨hready, rfl⟩
    cases value with
    | scalar s =>
      cases s with
      | null => exact .null
      | bool b =>
        cases b with
        | false => exact .boolFalse
        | true => exact .boolTrue
      | num x =>
        rw [toNode?_num]
        split <;> rename_i hx
        · exact .finite hx
        · exact .notFinite (Bool.eq_false_iff.mpr hx)
      | str s => exact .str s
    | undefined => cases hready
    | template t => cases hready
    | node n =>
      by_cases hn : n = .braces (.literal (.bool true))
      · subst hn
        exact .trueBraces
      · rw [toNode?, if_neg (mt Node.isTrueBraces_iff.mp hn)]
        exact .node hn
    | unsupported shape => cases hready

/-! ### The three ways -/

theorem Attribute.ne_empty_of_isValidName {name : String} (h : isValidName name = true) :
    name ≠ "" := by
  rintro rfl
  cases h

namespace Element

variable {e : Element} {name : String} {value : NewValue} {before after : List AttrEntry}
  {old : Option Node}

theorem setAttrValue_of_cut (hattrs : e.attrs = before ++ .attr ⟨.plain name, old⟩ :: after)
    (hbefore : name ∉ plainNames before) (hname : name ≠ "") (hready : value.isReady = true) :
    e.setAttrValue name value =
      { e with attrs := before ++ .attr ⟨.plain name, value.toNode?⟩ :: after } := by
  have hguard : (name != "" && value.isReady) = true := by simp [hname, hready]
  rw [setAttrValue_eq, if_pos hguard, hattrs, updateFirst_cut hbefore]
  rfl

theorem swapAttr_of_cut (hattrs : e.attrs = before ++ .attr ⟨.plain name, old⟩ :: after)
    (hbefore : name ∉ plainNames before) (entry : AttrEntry) :
    e.swapAttr name entry = { e with attrs := before ++ entry :: after } := by
  rw [swapAttr, hattrs, updateFirst_cut hbefore]

theorem addAttributes_of_cut (hattrs : e.attrs = before ++ .attr ⟨.plain name, old⟩ :: after)
    (hbefore : name ∉ plainNames before) {entry : AttrEntry} (hentry : entry.name? = some name) :
    e.addAttributes [entry] { overrideExisting := true } =
      { e with attrs := before ++ entry :: after } := by
  have hmem : name ∈ plainNames (before ++ .attr ⟨.plain name, old⟩ :: after) := by simp
  rw [addAttributes, List.foldl_cons, List.foldl_nil, hattrs, put_of_mem hentry hmem,
    updateFirst_cut hbefore]

theorem setAttrValue_of_not_isReady (h : value.isReady = false) (name : String) :
    e.setAttrValue name value = e := by
  rw [setAttrValue_eq, if_neg (by simp [h])]

theorem setAttrValue_of_not_mem (h : name ∉ plainNames e.attrs) (value : NewValue) :
    e.setAttrValue name value = e := by
  rw [setAttrValue_eq]
  split
  · rw [updateFirst_of_not_mem h]
    cases e
    rfl
  · rfl

/-- **The three ways leave the same element.** For a valid name that the element has, however
    often, and a scalar or a finished node, the first attribute of the name carries what is
    written for the value, in its place, and all else stays. Any other value, and a name that
    the element does not have, leave the element as it is. -/
theorem replacements_agree :
    (∀ (e : Element) (name : String) (value : NewValue), isValidName name = true →
      name ∈ plainNames e.attrs → value.isReady = true →
      ∃ (before after : List AttrEntry) (old written : Option Node),
        e.attrs = before ++ .attr ⟨.plain name, old⟩ :: after ∧ name ∉ plainNames before ∧
        value.WrittenAs written ∧ Attr.make? name value = some ⟨.plain name, written⟩ ∧
        e.setAttrValue name value =
          { e with attrs := before ++ .attr ⟨.plain name, written⟩ :: after } ∧
        e.addAttributes [.attr ⟨.plain name, written⟩] { overrideExisting := true } =
          e.setAttrValue name value ∧
        e.swapAttr name (.attr ⟨.plain name, written⟩) = e.setAttrValue name value) ∧
    ∀ (e : Element) (name : String) (value : NewValue),
      value.isReady = false ∨ name ∉ plainNames e.attrs → e.setAttrValue name value = e := by
  constructor
  · intro e name value hvalid hmem hready
    obtain ⟨before, old, after, hattrs, hbefore⟩ := exists_cut hmem
    have hset := setAttrValue_of_cut hattrs hbefore (ne_empty_of_isValidName hvalid) hready
    refine ⟨before, after, old, value.toNode?, hattrs, hbefore, ?_, ?_, hset, ?_, ?_⟩
    · exact NewValue.writtenAs_iff.mpr ⟨hready, rfl⟩
    · exact Attr.make?_eq_some_iff.mpr ⟨hvalid, rfl⟩
    · rw [hset]
      exact addAttributes_of_cut hattrs hbefore rfl
    · rw [hset]
      exact swapAttr_of_cut hattrs hbefore _
  · rintro e name value (hready | hmem)
    · exact setAttrValue_of_not_isReady hready name
    · exact setAttrValue_of_not_mem hmem value

/-- A name that comes up twice, and a number that has no literal. -/
theorem replacements_agree_repeated :
    let nan : Binary64 := ⟨0x7ff8000000000000⟩
    let e : Element :=
      { tag := .ident "input"
        attrs := [.spread (.ident "rest"), .attr ⟨.plain "max", none⟩,
          .attr ⟨.plain "id", none⟩, .attr ⟨.plain "max", none⟩]
        selfClosing := true, children := [], closing := none }
    let null : AttrEntry := .attr ⟨.plain "max", some (.braces (.literal .null))⟩
    let changed := e.setAttrValue "max" (.scalar (.num nan))
    changed.attrs = [.spread (.ident "rest"), null, .attr ⟨.plain "id", none⟩,
        .attr ⟨.plain "max", none⟩] ∧
      e.addAttributes [null] { overrideExisting := true } = changed ∧
      e.swapAttr "max" null = changed ∧ e.setAttrValue "max" .undefined = e := by
  intro nan e null changed
  have hvalid : isValidName "max" = true := by decide
  have hnan : nan.isFinite = false := by decide
  have hnode : (NewValue.scalar (.num nan)).toNode? = some (.braces (.literal .null)) := by
    simp [NewValue.toNode?_num, hnan]
  have hchanged : changed.attrs = [.spread (.ident "rest"), null, .attr ⟨.plain "id", none⟩,
      .attr ⟨.plain "max", none⟩] := by
    simp only [changed, setAttrValue_eq, hnode]
    rfl
  obtain ⟨before, after, old, written, -, -, hwritten, -, -, hadd, hswap⟩ :=
    replacements_agree.1 e "max" (.scalar (.num nan)) hvalid (by decide) rfl
  obtain rfl : written = some (.braces (.literal .null)) := by
    cases hwritten with
    | finite hfinite =>
      rw [hnan] at hfinite
      cases hfinite
    | notFinite _ => rfl
  exact ⟨hchanged, hadd, hswap, replacements_agree.2 e "max" .undefined (.inl rfl)⟩

end Element

end JsxEdit
