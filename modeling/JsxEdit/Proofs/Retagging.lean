import JsxEdit.Proofs.Elements

/-!
  **Changing the tags of elements, and nothing else.**

  `Module.retag` applies one function to the pair of tags of every element of a module, at any
  depth, and leaves all else as it is. It is what a walk that looks at tags only comes to, said
  without a walk and without an order of visits.

  Retagging acts on the elements of a module one by one, in their order
  (`Module.elements_retag`). Two retaggings in a row are one (`Module.retag_retag`), and
  functions that agree on the tags that are there retag alike (`Module.retag_congr`). So a
  question about two runs over a module becomes a question about one pair of tags.
-/

namespace JsxEdit

/-! ### The tags of an element -/

/-- The opening tag of an element, and the closing tag if there is one. -/
structure Tags where
  opening : TagName
  closing : Option TagName
deriving DecidableEq, Repr

namespace Element

def tags (e : Element) : Tags := ⟨e.tag, e.closing⟩

def withTags (e : Element) (t : Tags) : Element := { e with tag := t.opening, closing := t.closing }

theorem withTags_tags (e : Element) : e.withTags e.tags = e := by
  cases e
  rfl

end Element

/-! ### Retagging a tree -/

/-- The node with other tags if it is an element; what is inside it stays. -/
def Node.retagSelf (f : Tags → Tags) : Node → Node
  | .element e => .element (e.withTags (f e.tags))
  | n => n

/-- The tree with the tags of each of its elements changed, at any depth, and nothing else. -/
def Node.retag (f : Tags → Tags) (n : Node) : Node :=
  (n.refill (n.parts.attach.map fun ⟨p, _⟩ => p.retag f)).retagSelf f
termination_by n
decreasing_by exact Node.sizeOf_lt_of_mem_parts ‹_›

/-- The element with its tags and the tags of the elements inside it changed. -/
def Element.retag (f : Tags → Tags) (e : Element) : Element :=
  (e.refill (e.parts.map (Node.retag f))).withTags (f e.tags)

def Module.retag (f : Tags → Tags) (m : Module) : Module := m.refill (m.parts.map (Node.retag f))

section

variable (f g : Tags → Tags)

theorem Node.retag_eq (n : Node) :
    n.retag f = (n.refill (n.parts.map (Node.retag f))).retagSelf f := by
  rw [Node.retag, List.map_attach_eq_pmap, List.pmap_eq_map]

theorem Node.retag_element (e : Element) : (Node.element e).retag f = .element (e.retag f) :=
  Node.retag_eq f _

theorem Node.retagSelf_of_not_element {n : Node} (h : n.element? = none) : n.retagSelf f = n := by
  cases n
  case element e => cases h
  all_goals rfl

theorem Node.retag_of_not_element {n : Node} (h : n.element? = none) :
    n.retag f = n.refill (n.parts.map (Node.retag f)) := by
  rw [Node.retag_eq, Node.retagSelf_of_not_element f (Node.element?_refill h _)]

theorem Element.tags_retag (e : Element) : (e.retag f).tags = f e.tags := rfl

theorem Element.parts_retag (e : Element) : (e.retag f).parts = e.parts.map (Node.retag f) :=
  e.parts_refill _ (List.length_map _)

theorem Node.element?_retag (n : Node) :
    (n.retag f).element? = n.element?.map (Element.retag f) := by
  cases hn : n.element? with
  | none => rw [Node.retag_of_not_element f hn, Node.element?_refill hn, Option.map_none]
  | some e => rw [Node.eq_element hn, Node.retag_element, Option.map_some, Node.element?]

theorem Node.parts_retag (n : Node) : (n.retag f).parts = n.parts.map (Node.retag f) := by
  cases hn : n.element? with
  | none => rw [Node.retag_of_not_element f hn, n.parts_refill _ (List.length_map _)]
  | some e =>
    rw [Node.eq_element hn, Node.retag_element]
    exact e.parts_retag f

theorem Module.parts_retag (m : Module) : (m.retag f).parts = m.parts.map (Node.retag f) :=
  m.parts_refill _ (List.length_map _)

/-! ### The elements of a retagged tree -/

theorem flatMap_elements_retag {ns : List Node}
    (h : ∀ n ∈ ns, (n.retag f).elements = n.elements.map (Element.retag f)) :
    (ns.map (Node.retag f)).flatMap Node.elements =
      (ns.flatMap Node.elements).map (Element.retag f) := by
  rw [List.flatMap_map, List.map_flatMap]
  apply List.flatMap_congr
  intro n hn
  exact h n hn

theorem Node.elements_retag (n : Node) :
    (n.retag f).elements = n.elements.map (Element.retag f) := by
  induction n using Node.inductionOnParts with
  | h n ih =>
    rw [Node.elements_eq, Node.parts_retag, flatMap_elements_retag f ih, Node.element?_retag,
      Option.toList_map, ← List.map_append, ← Node.elements_eq]

/-- The elements of a retagged module are those of the module, in their order, retagged. -/
theorem Module.elements_retag (m : Module) :
    (m.retag f).elements = m.elements.map (Element.retag f) := by
  rw [Module.elements, Module.parts_retag, flatMap_elements_retag f fun n _ => n.elements_retag f,
    Module.elements]

theorem Module.tags_elements_retag (m : Module) :
    (m.retag f).elements.map Element.tags = m.elements.map fun e => f e.tags := by
  rw [Module.elements_retag, List.map_map]
  apply List.map_congr_left
  intro e _
  exact e.tags_retag f

/-! ### Two retaggings in a row -/

theorem Node.refill_retagSelf (n : Node) (ps : List Node) :
    (n.retagSelf f).refill ps = (n.refill ps).retagSelf f := by
  cases hn : n.element? with
  | none =>
    rw [Node.retagSelf_of_not_element f hn,
      Node.retagSelf_of_not_element f (Node.element?_refill hn ps)]
  | some e =>
    rw [Node.eq_element hn]
    rfl

theorem Node.retagSelf_retagSelf (n : Node) :
    (n.retagSelf f).retagSelf g = n.retagSelf (g ∘ f) := by
  cases n <;> rfl

theorem Node.retag_retag (n : Node) : (n.retag f).retag g = n.retag (g ∘ f) := by
  induction n using Node.inductionOnParts with
  | h n ih =>
    have hparts : (n.retag f).parts.map (Node.retag g) = n.parts.map (Node.retag (g ∘ f)) := by
      rw [Node.parts_retag, List.map_map]
      exact List.map_congr_left ih
    calc (n.retag f).retag g
        = ((n.retag f).refill (n.parts.map (Node.retag (g ∘ f)))).retagSelf g := by
          rw [Node.retag_eq g, hparts]
      _ = ((n.refill (n.parts.map (Node.retag (g ∘ f)))).retagSelf f).retagSelf g := by
          rw [Node.retag_eq f, Node.refill_retagSelf,
            n.refill_refill _ _ (List.length_map _) (List.length_map _)]
      _ = n.retag (g ∘ f) := by rw [Node.retagSelf_retagSelf, ← Node.retag_eq]

/-- Two retaggings in a row are one. -/
theorem Module.retag_retag (m : Module) : (m.retag f).retag g = m.retag (g ∘ f) := by
  have hparts : (m.retag f).parts.map (Node.retag g) = m.parts.map (Node.retag (g ∘ f)) := by
    rw [Module.parts_retag, List.map_map]
    exact List.map_congr_left fun p _ => p.retag_retag f g
  rw [Module.retag, hparts, Module.retag, m.refill_refill _ _ (List.length_map _)
    (List.length_map _), Module.retag]

end

/-! ### Only the tags that are there matter -/

section

variable {f g : Tags → Tags}

theorem map_retag_congr {ns : List Node}
    (hns : ∀ n ∈ ns, (∀ e ∈ n.elements, f e.tags = g e.tags) → n.retag f = n.retag g)
    (h : ∀ e ∈ ns.flatMap Node.elements, f e.tags = g e.tags) :
    ns.map (Node.retag f) = ns.map (Node.retag g) := by
  apply List.map_congr_left
  intro n hn
  apply hns n hn
  intro e he
  exact h e (List.mem_flatMap.mpr ⟨n, hn, he⟩)

theorem Node.retag_congr {n : Node} (h : ∀ e ∈ n.elements, f e.tags = g e.tags) :
    n.retag f = n.retag g := by
  induction n using Node.inductionOnParts with
  | h n ih =>
    rw [Node.elements_eq] at h
    have hparts : n.parts.map (Node.retag f) = n.parts.map (Node.retag g) :=
      map_retag_congr ih fun e he => h e (List.mem_append_left _ he)
    cases hn : n.element? with
    | none => rw [Node.retag_of_not_element f hn, hparts, Node.retag_of_not_element g hn]
    | some e =>
      have htags : f e.tags = g e.tags := by
        apply h e
        simp [hn]
      obtain rfl := Node.eq_element hn
      rw [Node.retag_element, Node.retag_element, Element.retag, Element.retag, htags]
      exact congrArg (fun ps => Node.element ((e.refill ps).withTags (g e.tags))) hparts

/-- Functions that agree on the tags of all elements retag alike. -/
theorem Module.retag_congr {m : Module} (h : ∀ e ∈ m.elements, f e.tags = g e.tags) :
    m.retag f = m.retag g := by
  rw [Module.retag, map_retag_congr (fun _ _ => Node.retag_congr) h, Module.retag]

theorem Node.retag_id (n : Node) : n.retag id = n := by
  induction n using Node.inductionOnParts with
  | h n ih =>
    have hself : n.retagSelf id = n := by
      cases n
      case element e => exact congrArg Node.element e.withTags_tags
      all_goals rfl
    rw [Node.retag_eq, List.map_congr_left ih, List.map_id', n.refill_parts, hself]

theorem Module.retag_id (m : Module) : m.retag id = m := by
  rw [Module.retag, List.map_congr_left fun p _ => p.retag_id, List.map_id', m.refill_parts]

end

end JsxEdit
