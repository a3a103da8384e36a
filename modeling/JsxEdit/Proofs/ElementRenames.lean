import JsxEdit.Make
import JsxEdit.Proofs.Retagging

/-!
  **Renaming elements.**

  Renaming hands each element of a module to a step that looks at its opening tag, replaces both
  tags if this is the old name, and counts. The step sees an element after the elements inside
  it, but never looks at them, so the order of visits does not matter:
  `Module.renameElements_eq` says that renaming is retagging by `Tags.renamed`, and that the
  count is the number of elements with the old name.

  An element is found by its opening tag alone. A closing tag that is out of step with it is put
  right when the element is renamed, and this is the one thing that renaming back does not
  restore.
-/

namespace JsxEdit

/-! ### Tags after a renaming -/

namespace Tags

/-- The tags after a renaming. An element that is opened by the old name gets the new name on
    both tags, whatever its closing tag was. -/
def renamed (old new : String) (t : Tags) : Tags :=
  if t.opening = .ident old then ⟨.ident new, t.closing.map fun _ => .ident new⟩ else t

/-- There is no closing tag, or it is the same as the opening tag. -/
def Agree (t : Tags) : Prop := ∀ closing ∈ t.closing, closing = t.opening

variable {old new a b c : String} {t : Tags}

theorem renamed_of_eq (h : t.opening = .ident old) :
    t.renamed old new = ⟨.ident new, t.closing.map fun _ => .ident new⟩ := if_pos h

theorem renamed_of_ne (h : t.opening ≠ .ident old) : t.renamed old new = t := if_neg h

/-- The old name is gone, unless it is also the new one. -/
theorem opening_renamed_ne (hne : old ≠ new) : (t.renamed old new).opening ≠ .ident old := by
  by_cases h : t.opening = .ident old
  · rw [renamed_of_eq h]
    intro heq
    exact hne (TagName.ident.inj heq).symm
  · rw [renamed_of_ne h]
    exact h

theorem Agree.renamed (h : t.Agree) (old new : String) : (t.renamed old new).Agree := by
  by_cases hold : t.opening = .ident old
  · rw [renamed_of_eq hold]
    intro closing hclosing
    simp only [Option.mem_def, Option.map_eq_some_iff] at hclosing
    obtain ⟨_, _, rfl⟩ := hclosing
    rfl
  · rw [renamed_of_ne hold]
    exact h

/-- Where no tag has the name in between, two renamings are one. -/
theorem renamed_renamed (hb : t.opening ≠ .ident b) :
    (t.renamed a b).renamed b c = t.renamed a c := by
  by_cases ha : t.opening = .ident a
  · rw [renamed_of_eq ha, renamed_of_eq rfl, renamed_of_eq ha, Option.map_map]
    rfl
  · rw [renamed_of_ne ha, renamed_of_ne hb, renamed_of_ne ha]

/-- The tags with the name in between are those that had the first name. -/
theorem opening_renamed_iff (hb : t.opening ≠ .ident b) :
    (t.renamed a b).opening = .ident b ↔ t.opening = .ident a := by
  by_cases ha : t.opening = .ident a
  · simp [renamed_of_eq ha, ha]
  · simp [renamed_of_ne ha, ha, hb]

/-- A name for itself: this can only change a closing tag that is out of step. -/
theorem renamed_self (h : t.Agree) (a : String) : t.renamed a a = t := by
  by_cases ha : t.opening = .ident a
  · obtain ⟨opening, closing⟩ := t
    obtain rfl : opening = .ident a := ha
    rw [renamed_of_eq rfl]
    cases closing with
    | none => rfl
    | some tag => rw [h tag rfl, Option.map_some]
  · exact renamed_of_ne ha

end Tags

/-! ### Renaming is retagging -/

theorem Element.name?_eq_some_iff {e : Element} {name : String} :
    e.name? = some name ↔ e.tag = .ident name := by
  unfold Element.name?
  split
  · rename_i htag
    simp [htag]
  · rename_i hother
    constructor
    · intro h
      cases h
    · intro htag
      exact absurd htag (hother name)

/-- What happens to one element: its tags are renamed, and it is counted if it had the old
    name. -/
theorem Element.renameIf_run (old new : String) (e : Element) (k : Nat) :
    (e.renameIf old new).run k =
      (e.withTags (e.tags.renamed old new), k + [e].countP (·.tag = .ident old)) := by
  by_cases h : e.tag = .ident old
  · have htags : e.tags.opening = .ident old := h
    rw [Element.renameIf, if_pos (Element.name?_eq_some_iff.mpr h), Tags.renamed_of_eq htags,
      List.countP_cons_of_pos (by simpa using h)]
    rfl
  · have htags : e.tags.opening ≠ .ident old := h
    rw [Element.renameIf, if_neg (mt Element.name?_eq_some_iff.mp h), Tags.renamed_of_ne htags,
      List.countP_cons_of_neg (by simpa using h), Element.withTags_tags]
    rfl

/-- A run over a tree retags it and adds the number of its elements with the old name. -/
def Node.RenamedCounted (old new : String) (n : Node) (k : Nat) (n' : Node) (k' : Nat) : Prop :=
  n' = n.retag (Tags.renamed old new) ∧ k' = k + n.elements.countP (·.tag = .ident old)

section

variable {old new : String}

theorem renamedCounted_of_threaded {ns ns' : List Node} {k k' : Nat}
    (h : Threaded (Node.RenamedCounted old new) ns k ns' k') :
    ns' = ns.map (Node.retag (Tags.renamed old new)) ∧
      k' = k + (ns.flatMap Node.elements).countP (·.tag = .ident old) := by
  induction h with
  | nil => exact ⟨rfl, rfl⟩
  | cons hhead _ ih =>
    obtain ⟨rfl, rfl⟩ := hhead
    obtain ⟨rfl, rfl⟩ := ih
    rw [List.map_cons, List.flatMap_cons, List.countP_append, Nat.add_assoc]
    exact ⟨rfl, rfl⟩

/-- The parts come first. A node that is no element stays around them, and an element has the
    tags that it had before. -/
theorem Node.renamedCounted_visit (n : Node) (k : Nat) (ps : List Node) (l : Nat)
    (h : Threaded (Node.RenamedCounted old new) n.parts k ps l) :
    Node.RenamedCounted old new n k
      (((elementVisitor (Element.renameIf old new)).visit (n.refill ps)).run l).1
      (((elementVisitor (Element.renameIf old new)).visit (n.refill ps)).run l).2 := by
  obtain ⟨rfl, rfl⟩ := renamedCounted_of_threaded h
  rw [Node.RenamedCounted, Node.elements_eq, List.countP_append, ← Nat.add_assoc]
  cases hn : n.element? with
  | none =>
    rw [elementVisitor_visit _ (Node.element?_refill hn _), Node.retag_of_not_element _ hn]
    exact ⟨rfl, rfl⟩
  | some e =>
    obtain rfl := Node.eq_element hn
    have hrun (l : Nat) :
        ((elementVisitor (Element.renameIf old new)).visit ((Node.element e).refill
          ((Node.element e).parts.map (Node.retag (Tags.renamed old new))))).run l =
        (.element (e.retag (Tags.renamed old new)), l + [e].countP (·.tag = .ident old)) :=
      run_bind_of_run_eq (Element.renameIf_run old new _ l)
    rw [hrun, Node.retag_element]
    exact ⟨rfl, rfl⟩

theorem Module.renameElements_eq (m : Module) (old new : String) :
    m.renameElements old new =
      (m.retag (Tags.renamed old new), m.elements.countP (·.tag = .ident old)) := by
  obtain ⟨ps, k, hthread, hrun⟩ := Module.walk_run_induction
    (elementVisitor (Element.renameIf old new)) Node.renamedCounted_visit m 0
  obtain ⟨rfl, rfl⟩ := renamedCounted_of_threaded hthread
  rw [Module.renameElements, Module.forEachElement_eq, hrun, Nat.zero_add]
  rfl

end

/-! ### What renaming does -/

namespace Module

theorem elements_renameElements (m : Module) (old new : String) :
    (m.renameElements old new).1.elements =
      m.elements.map (Element.retag (Tags.renamed old new)) := by
  rw [renameElements_eq, elements_retag]

/-- **Renaming is exact.** The count is the number of elements, at any depth, with the old name
    as their tag. These get the new name on their opening tag, and on their closing tag if they
    have one; all other tags, and all else in the module, stay. No element of the old name is
    left, unless the new name is the same, and tags that agree still agree. -/
theorem renameElements_exact (m : Module) (old new : String) :
    (m.renameElements old new).2 = m.elements.countP (·.tag = .ident old) ∧
    (m.renameElements old new).1 = m.retag (Tags.renamed old new) ∧
    (m.renameElements old new).1.elements.map Element.tags =
      m.elements.map (fun e => e.tags.renamed old new) ∧
    (old ≠ new → ∀ e ∈ (m.renameElements old new).1.elements, e.tag ≠ .ident old) ∧
    ((∀ e ∈ m.elements, e.tags.Agree) →
      ∀ e ∈ (m.renameElements old new).1.elements, e.tags.Agree) := by
  refine ⟨?_, ?_, ?_, ?_, ?_⟩
  · rw [renameElements_eq]
  · rw [renameElements_eq]
  · rw [renameElements_eq, tags_elements_retag]
  · intro hne e he
    rw [elements_renameElements] at he
    obtain ⟨before, -, rfl⟩ := List.mem_map.mp he
    exact Tags.opening_renamed_ne hne
  · intro hagree e he
    rw [elements_renameElements] at he
    obtain ⟨before, hbefore, rfl⟩ := List.mem_map.mp he
    exact (hagree before hbefore).renamed old new

/-- `<Old><svg:Old /><Old></Old></Old>`: a namespaced tag is no plain name. -/
theorem renameElements_exact_nested :
    let space : Element :=
      { tag := .namespaced "svg" "Old", attrs := [], selfClosing := true, children := []
        closing := none }
    let inner : Element := .make "Old" []
    let outer : Element := .make "Old" [.element space, .element inner]
    let m : Module := ⟨[.node (.other .expressionStatement [] [.element outer])]⟩
    m.elements = [space, inner, outer] ∧ (∀ e ∈ m.elements, e.tags.Agree) ∧
      (m.renameElements "Old" "New").2 = 2 ∧
      (∀ e ∈ (m.renameElements "Old" "New").1.elements, e.tag ≠ .ident "Old") ∧
      ∀ e ∈ (m.renameElements "Old" "New").1.elements, e.tags.Agree := by
  intro space inner outer m
  have helements : m.elements = [space, inner, outer] := by
    simp [m, outer, inner, space, Element.make, Module.elements, parts, PartView.listParts,
      Item.view, Item.parts, Node.elements_eq, Node.parts, Element.parts, Node.element?]
  have hagree : ∀ e ∈ m.elements, e.tags.Agree := by
    rw [helements]
    simp [Tags.Agree, Element.tags, outer, inner, space, Element.make]
  obtain ⟨hcount, -, -, hgone, hkept⟩ := renameElements_exact m "Old" "New"
  refine ⟨helements, hagree, ?_, hgone (by decide), hkept hagree⟩
  rw [hcount, helements]
  decide

/-- Where no element has the name in between, the second renaming finds exactly the elements
    that the first one renamed. -/
theorem renameElements_of_forall_ne {m : Module} {b : String}
    (h : ∀ e ∈ m.elements, e.tag ≠ .ident b) (a c : String) :
    (m.renameElements a b).1.renameElements b c = m.renameElements a c := by
  have htags : (m.retag (Tags.renamed a b)).retag (Tags.renamed b c) =
      m.retag (Tags.renamed a c) := by
    rw [retag_retag]
    apply retag_congr
    intro e he
    exact Tags.renamed_renamed (h e he)
  have hcount : (m.retag (Tags.renamed a b)).elements.countP (·.tag = .ident b) =
      m.elements.countP (·.tag = .ident a) := by
    rw [elements_retag, List.countP_map]
    apply List.countP_congr
    intro e he
    simp only [Function.comp_apply, decide_eq_true_eq]
    exact Tags.opening_renamed_iff (h e he)
  rw [renameElements_eq m a b, renameElements_eq, htags, hcount, renameElements_eq]

theorem renameElements_self {m : Module} (h : ∀ e ∈ m.elements, e.tags.Agree) (a : String) :
    (m.renameElements a a).1 = m := by
  rw [renameElements_eq]
  calc m.retag (Tags.renamed a a)
      = m.retag id := retag_congr fun e he => Tags.renamed_self (h e he) a
    _ = m := m.retag_id

/-- **Renamings compose.** Where no element has the name in between, two renamings are one, and
    both of them count what the one counts. So renaming there and back restores a module whose
    tags agree. -/
theorem renameElements_renameElements (m : Module) (a b c : String)
    (h : ∀ e ∈ m.elements, e.tag ≠ .ident b) :
    (m.renameElements a b).1.renameElements b c = m.renameElements a c ∧
    (m.renameElements a b).2 = (m.renameElements a c).2 ∧
    ((∀ e ∈ m.elements, e.tags.Agree) →
      ((m.renameElements a b).1.renameElements b a).1 = m) := by
  refine ⟨renameElements_of_forall_ne h a c, ?_, ?_⟩
  · rw [renameElements_eq, renameElements_eq]
  · intro hagree
    rw [renameElements_of_forall_ne h a a]
    exact renameElements_self hagree a

/-- `<Old icon={<Old />}><Old.Item /></Old>`: elements in attribute values and among children,
    and a tag that is no plain name. -/
theorem renameElements_renameElements_nested :
    let icon : Element :=
      { tag := .ident "Old", attrs := [], selfClosing := true, children := [], closing := none }
    let item : Element := { icon with tag := .member (.ident "Old") "Item" }
    let outer : Element :=
      { tag := .ident "Old", attrs := [.attr ⟨.plain "icon", some (.braces (.element icon))⟩]
        selfClosing := false, children := [.element item], closing := some (.ident "Old") }
    let m : Module := ⟨[.node (.other .expressionStatement [] [.element outer])]⟩
    (∀ e ∈ m.elements, e.tag ≠ .ident "New") ∧ (∀ e ∈ m.elements, e.tags.Agree) ∧
      (m.renameElements "Old" "New").2 = 2 ∧
      (m.renameElements "Old" "New").1.renameElements "New" "Box" =
        m.renameElements "Old" "Box" ∧
      ((m.renameElements "Old" "New").1.renameElements "New" "Old").1 = m := by
  intro icon item outer m
  have helements : m.elements = [icon, item, outer] := by
    simp [m, outer, item, icon, Module.elements, parts, PartView.listParts, Item.view, Item.parts,
      Node.elements_eq, Node.parts, Element.parts, AttrEntry.view, AttrEntry.parts, Node.element?]
  have hnew : ∀ e ∈ m.elements, e.tag ≠ .ident "New" := by
    rw [helements]
    simp [outer, item, icon]
  have hagree : ∀ e ∈ m.elements, e.tags.Agree := by
    rw [helements]
    simp [Tags.Agree, Element.tags, outer, item, icon]
  obtain ⟨htwice, -, -⟩ := renameElements_renameElements m "Old" "New" "Box" hnew
  obtain ⟨-, -, hback⟩ := renameElements_renameElements m "Old" "New" "Old" hnew
  exact ⟨hnew, hagree, by decide, htwice, hback hagree⟩

end Module

end JsxEdit
