import JsxEdit.Attribute.Read
import JsxEdit.Proofs.AttrReplacement

/-!
  **Values that are put in are read back.**

  Writing and reading go separate ways. A new value is resolved into a node, or into none
  (`NewValue.toNode?`): a string stands bare, other scalars stand in braces, `true` is left out,
  and `undefined` is an identifier like any other. A reader sees the node only (`Attr.read`).

  `NewValue.reading` says for each kind of value what a reader should see, without a look at the
  node that is written in between; a finished node alone is read as it stands. Two kinds come
  back as something else: numbers that are not finite as null, and what cannot be written at all
  as `true`.
-/

namespace JsxEdit

open Attribute

/-! ### What a value reads as -/

/-- What is read from an attribute of the name that was made with the value. -/
def NewValue.reading (name : String) : NewValue → Option Reading
  | scalar .null => some (.scalar .null)
  | scalar (.bool b) => some (.scalar (.bool b))
  | scalar (.num x) => some (.scalar (if x.isFinite then .num x else .null))
  | scalar (.str s) => some (.scalar (.str s))
  | undefined => none
  | template t => some (.expr (.template t))
  | node n => Attr.read ⟨.plain name, some n⟩
  | unsupported _ => some (.scalar (.bool true))

variable {name : String}

/-- Data that is a scalar reads as the scalar does. -/
theorem NewValue.reading_ofValue_of_scalar {data : Value} {s : Scalar}
    (h : data.scalar? = some s) : (ofValue data).reading name = (scalar s).reading name := by
  cases data with
  | arr items => cases h
  | obj fields => cases h
  | _ =>
    obtain rfl := Option.some.inj h
    rfl

theorem NewValue.reading_ofValue_of_not_scalar {data : Value} (h : data.scalar? = none) :
    (ofValue data).reading name = some (.scalar (.bool true)) := by
  cases data with
  | arr items => rfl
  | obj fields => rfl
  | _ => cases h

/-! ### Reading what was written -/

/-- Reading undoes each way of writing a value. -/
theorem Attr.read_toNode? (name : String) (value : NewValue) :
    Attr.read ⟨.plain name, value.toNode?⟩ = value.reading name := by
  cases value with
  | scalar s =>
    cases s with
    | null => rfl
    | bool b => cases b <;> rfl
    | num x =>
      rw [NewValue.toNode?_num, NewValue.reading]
      cases x.isFinite <;> rfl
    | str s => rfl
  | undefined => rfl
  | template t => rfl
  | node n =>
    -- `{true}` is the one node that is left out, and nothing reads as it does
    by_cases hn : n = .braces (.literal (.bool true))
    · subst hn
      rfl
    · rw [NewValue.toNode?, if_neg (mt Node.isTrueBraces_iff.mp hn), NewValue.reading]
  | unsupported shape => rfl

/-- An attribute that is added with overriding is the first one of its name. -/
theorem Element.find?_addAttributes_plain (e : Element) (name : String) (value : Option Node) :
    find? name
      (e.addAttributes [.attr ⟨.plain name, value⟩] { overrideExisting := true }).attrs =
      some ⟨.plain name, value⟩ := by
  have hname : (AttrEntry.attr ⟨.plain name, value⟩).hasName name = true :=
    AttrEntry.hasName_iff.mpr rfl
  rw [addAttributes, List.foldl_cons, List.foldl_nil, find?_put, if_pos hname]
  rfl

/-- **What is put in is read back.** For a valid name and any value there is an attribute to
    add; added with overriding it is the first one of the name, whatever was there, and it reads
    as the value should. Data that is a scalar reads as the scalar, and a list or a record reads
    as `true`. -/
theorem Element.read_added (e : Element) (name : String) (hname : isValidName name = true) :
    (∀ value : NewValue, ∃ made : Attr, Attr.make? name value = some made ∧
      find? name (e.addAttributes [.attr made] { overrideExisting := true }).attrs = some made ∧
      made.read = value.reading name) ∧
    (∀ (data : Value) (s : Scalar), data.scalar? = some s →
      (NewValue.ofValue data).reading name = (NewValue.scalar s).reading name) ∧
    ∀ data : Value, data.scalar? = none →
      (NewValue.ofValue data).reading name = some (.scalar (.bool true)) := by
  refine ⟨?_, ?_, ?_⟩
  · intro value
    refine ⟨⟨.plain name, value.toNode?⟩, ?_, ?_, ?_⟩
    · exact Attr.make?_eq_some_iff.mpr ⟨hname, rfl⟩
    · exact e.find?_addAttributes_plain name value.toNode?
    · exact Attr.read_toNode? name value
  · intro data s hdata
    exact NewValue.reading_ofValue_of_scalar hdata
  · intro data hdata
    exact NewValue.reading_ofValue_of_not_scalar hdata

/-- A name that comes up twice, a number that has no literal, and an empty string that comes as
    data. -/
theorem Element.read_added_repeated :
    let nan : Binary64 := ⟨0x7ff8000000000000⟩
    let e : Element :=
      { tag := .ident "input"
        attrs := [.spread (.ident "rest"), .attr ⟨.plain "max", some (.braces (.ident "x"))⟩,
          .attr ⟨.plain "max", none⟩]
        selfClosing := true, children := [], closing := none }
    isValidName "max" = true ∧
      (∃ made : Attr, Attr.make? "max" (.scalar (.num nan)) = some made ∧
        find? "max" (e.addAttributes [.attr made] { overrideExisting := true }).attrs =
          some made ∧
        made.read = some (.scalar .null)) ∧
      (NewValue.ofValue (.str "")).reading "max" = some (.scalar (.str "")) := by
  intro nan e
  have hvalid : isValidName "max" = true := by decide
  have hnan : nan.isFinite = false := by decide
  obtain ⟨hread, hdata, -⟩ := read_added e "max" hvalid
  obtain ⟨made, hmade, hfound, hnull⟩ := hread (.scalar (.num nan))
  rw [NewValue.reading, hnan] at hnull
  exact ⟨hvalid, ⟨made, hmade, hfound, hnull⟩, hdata (.str "") (.str "") rfl⟩

end JsxEdit
