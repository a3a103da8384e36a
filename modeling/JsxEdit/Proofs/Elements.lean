import JsxEdit.Proofs.Parts

/-!
  **Every element is visited once, inner elements first.**

  `Module.forEachElement` hands the elements of a module to a callback, which may keep a
  state and may answer with any element: the one it received, or one with other
  elements inside. This module says which calls are made.

  * `Module.elements` lists the elements of a module in post-order: the elements inside
    an element stand just before it.
  * There is one call for each of them, in this order, and each call starts in the
    state that the call before it left (`Performs`).
  * A call receives the element as it was, but with the answers of the earlier calls in
    the places of the elements inside it (`Visits`).
  * The module that results has the answers in the places of its outermost elements
    (`Module.replaceElements`), and is otherwise as it was.

  So elements that come in through an answer are not visited, and there are as many
  calls as elements, whatever the callback does.
-/

namespace JsxEdit

/-! ### The elements of a tree -/

def Node.element? : Node → Option Element
  | .element e => some e
  | _ => none

theorem Node.eq_element {n : Node} {e : Element} (h : n.element? = some e) : n = .element e := by
  unfold element? at h
  split at h
  · rw [Option.some.inj h]
  · cases h

/-- All elements in a tree in post-order: those inside the parts, part after part, and
    then the node itself if it is one. -/
def Node.elements (n : Node) : List Element :=
  n.parts.attach.flatMap (fun ⟨p, _⟩ => p.elements) ++ n.element?.toList
termination_by n
decreasing_by exact Node.sizeOf_lt_of_mem_parts ‹_›

/-- The elements inside an element. -/
def Element.inner (e : Element) : List Element := e.parts.flatMap Node.elements

def Module.elements (m : Module) : List Element := m.parts.flatMap Node.elements

/-- The tree with other elements in the places of its outermost ones. There is one answer
    for every element of the tree, in post-order, so that each part has its own block
    of them; of the answers for an element and those inside it the last one counts. -/
def Node.replaceElements (n : Node) (answers : List Element) : Node :=
  match n.element? with
  | some e => .element (answers.getLastD e)
  | none =>
    let takers := n.parts.attach.map fun ⟨p, _⟩ => (p.elements.length, p.replaceElements)
    n.refill (deal takers answers)
termination_by n
decreasing_by exact Node.sizeOf_lt_of_mem_parts ‹_›

def replaceAll (ns : List Node) (answers : List Element) : List Node :=
  deal (ns.map fun n => (n.elements.length, n.replaceElements)) answers

/-- The element with other elements in the places of those inside it. -/
def Element.replaceInner (e : Element) (answers : List Element) : Element :=
  e.refill (replaceAll e.parts answers)

def Module.replaceElements (m : Module) (answers : List Element) : Module :=
  m.refill (replaceAll m.parts answers)

theorem Node.elements_eq (n : Node) :
    n.elements = n.parts.flatMap Node.elements ++ n.element?.toList := by
  rw [Node.elements]
  conv_rhs => rw [← List.attach_map_subtype_val n.parts, List.flatMap_map]

theorem Node.elements_element (e : Element) : (Node.element e).elements = e.inner ++ [e] :=
  Node.elements_eq _

theorem Node.replaceElements_of_not_element {n : Node} (h : n.element? = none)
    (answers : List Element) :
    n.replaceElements answers = n.refill (replaceAll n.parts answers) := by
  rw [Node.replaceElements, h, replaceAll]
  conv_rhs => rw [← List.attach_map_subtype_val n.parts, List.map_map]
  rfl

theorem Node.replaceElements_element (e : Element) (answers : List Element) :
    (Node.element e).replaceElements answers = .element (answers.getLastD e) := by
  rw [Node.replaceElements]
  rfl

theorem replaceAll_cons_append {n : Node} {ns : List Node} {as bs : List Element}
    (h : as.length = n.elements.length) :
    replaceAll (n :: ns) (as ++ bs) = n.replaceElements as :: replaceAll ns bs :=
  deal_cons_append h

theorem Node.element?_refill {n : Node} (h : n.element? = none) (ps : List Node) :
    (n.refill ps).element? = none := by
  cases n
  case element e => cases h
  all_goals
    unfold refill
    split <;> first | rfl | contradiction

/-! ### What is around the elements -/

/-- The tree with nothing in the places of its outermost elements. -/
def Node.outline (n : Node) : Node :=
  match n.element? with
  | some _ => .absent
  | none => n.refill (n.parts.attach.map fun ⟨p, _⟩ => p.outline)
termination_by n
decreasing_by exact Node.sizeOf_lt_of_mem_parts ‹_›

def Module.outline (m : Module) : Module := m.refill (m.parts.map Node.outline)

theorem Node.outline_element (e : Element) : (Node.element e).outline = .absent := by
  rw [Node.outline]
  rfl

theorem Node.outline_of_not_element {n : Node} (h : n.element? = none) :
    n.outline = n.refill (n.parts.map Node.outline) := by
  rw [Node.outline, h]
  simp only [List.map_attach_eq_pmap, List.pmap_eq_map]

theorem length_replaceAll (ns : List Node) (answers : List Element) :
    (replaceAll ns answers).length = ns.length := by
  rw [replaceAll, length_deal, List.length_map]

/-- Other elements in the places of those of a tree leave its outline as it is. -/
theorem Node.outline_replaceElements (n : Node) (answers : List Element) :
    (n.replaceElements answers).outline = n.outline := by
  induction n using Node.inductionOnParts generalizing answers with
  | h n ih =>
    cases hn : n.element? with
    | some e =>
      rw [Node.eq_element hn, Node.replaceElements_element, Node.outline_element,
        Node.outline_element]
    | none =>
      have hlength := length_replaceAll n.parts answers
      have hrefill := Node.element?_refill hn (replaceAll n.parts answers)
      have hmap : (replaceAll n.parts answers).map Node.outline = n.parts.map Node.outline :=
        map_deal (fun p hp as => ih p hp as) answers
      rw [Node.replaceElements_of_not_element hn, Node.outline_of_not_element hrefill,
        n.parts_refill _ hlength, n.refill_refill _ _ hlength (by rw [List.length_map, hlength]),
        hmap, Node.outline_of_not_element hn]

theorem Module.outline_replaceElements (m : Module) (answers : List Element) :
    (m.replaceElements answers).outline = m.outline := by
  have hlength := length_replaceAll m.parts answers
  have hmap : (replaceAll m.parts answers).map Node.outline = m.parts.map Node.outline :=
    map_deal (fun p _ as => p.outline_replaceElements as) answers
  rw [Module.outline, Module.replaceElements, m.parts_refill _ hlength,
    m.refill_refill _ _ hlength (by rw [List.length_map, hlength]), hmap, Module.outline]

/-! ### Calls -/

/-- One call of the callback: the element it received and the one it answered with. -/
structure Call where
  received : Element
  answer : Element

def answers (calls : List Call) : List Element := calls.map (·.answer)

/-- The calls are made one after the other, from the first state to the last, and have
    the answers that the callback gives. -/
inductive Performs {σ : Type} (f : Element → StateM σ Element) : σ → List Call → σ → Prop where
  | nil {s : σ} : Performs f s [] s
  | cons {s t u : σ} {e a : Element} {calls : List Call} :
      (f e).run s = (a, t) → Performs f t calls u → Performs f s (⟨e, a⟩ :: calls) u

/-- The `k` members of a list just before place `i`. -/
def justBefore {α : Type} (k i : Nat) (xs : List α) : List α := (xs.take i).drop (i - k)

/-- The calls visit the elements of a list, one call for each, in their order. The elements
    inside an element stand just before it; the call for it receives it with the answers
    for these in their places. -/
structure Visits (es : List Element) (calls : List Call) : Prop where
  length_eq : calls.length = es.length
  call_eq : ∀ (i : Nat) (e : Element) (c : Call), es[i]? = some e → calls[i]? = some c →
    justBefore e.inner.length i es = e.inner ∧
    c.received = e.replaceInner (justBefore e.inner.length i (answers calls))

theorem answers_append (calls calls' : List Call) :
    answers (calls ++ calls') = answers calls ++ answers calls' := List.map_append

theorem length_answers (calls : List Call) : (answers calls).length = calls.length :=
  List.length_map _

theorem Performs.append {σ : Type} {f : Element → StateM σ Element} {s t u : σ}
    {calls calls' : List Call} (h : Performs f s calls t) (h' : Performs f t calls' u) :
    Performs f s (calls ++ calls') u := by
  induction h with
  | nil => exact h'
  | cons hrun _ ih => exact .cons hrun (ih h')

section

variable {α : Type} {k i : Nat} {xs ys : List α}

theorem justBefore_append_left (h : i ≤ xs.length) :
    justBefore k i (xs ++ ys) = justBefore k i xs := by
  rw [justBefore, List.take_append_of_le_length h, justBefore]

theorem justBefore_append_right (h : k ≤ i) :
    justBefore k (xs.length + i) (xs ++ ys) = justBefore k i ys := by
  rw [justBefore, List.take_length_add_append, Nat.add_sub_assoc h, List.drop_append,
    justBefore]
  simp

theorem justBefore_length : justBefore xs.length xs.length (xs ++ ys) = xs := by
  rw [justBefore, List.take_left, Nat.sub_self, List.drop_zero]

theorem length_justBefore_le : (justBefore k i xs).length ≤ i := by
  rw [justBefore, List.length_drop, List.length_take]
  omega

end

theorem Visits.nil : Visits [] [] := ⟨rfl, fun _ _ _ h => by simp at h⟩

/-- A call among the first ones is not touched by those that come after. -/
theorem Visits.call_eq_append_left {es es' : List Element} {calls calls' : List Call}
    (h : Visits es calls) {i : Nat} (hi : i < es.length) {e : Element} {c : Call}
    (he : (es ++ es')[i]? = some e) (hc : (calls ++ calls')[i]? = some c) :
    justBefore e.inner.length i (es ++ es') = e.inner ∧
    c.received = e.replaceInner (justBefore e.inner.length i (answers (calls ++ calls'))) := by
  have hanswers : i ≤ (answers calls).length := by
    rw [length_answers, h.length_eq]
    exact Nat.le_of_lt hi
  rw [List.getElem?_append_left hi] at he
  rw [List.getElem?_append_left (h.length_eq ▸ hi)] at hc
  rw [answers_append, justBefore_append_left (Nat.le_of_lt hi), justBefore_append_left hanswers]
  exact h.call_eq i e c he hc

theorem Visits.append {es es' : List Element} {calls calls' : List Call} (h : Visits es calls)
    (h' : Visits es' calls') : Visits (es ++ es') (calls ++ calls') := by
  refine ⟨by rw [List.length_append, List.length_append, h.length_eq, h'.length_eq], ?_⟩
  intro i e c he hc
  by_cases hi : i < es.length
  · exact h.call_eq_append_left hi he hc
  · obtain ⟨j, rfl⟩ := Nat.exists_eq_add_of_le (Nat.le_of_not_lt hi)
    have hj : es.length + j = (answers calls).length + j := by rw [length_answers, h.length_eq]
    rw [List.getElem?_append_right (Nat.le_add_right ..), Nat.add_sub_cancel_left] at he
    rw [← h.length_eq, List.getElem?_append_right (Nat.le_add_right ..),
      Nat.add_sub_cancel_left] at hc
    obtain ⟨hinner, hreceived⟩ := h'.call_eq j e c he hc
    -- the block of the elements inside `e` does not reach back into the first list
    have hle : e.inner.length ≤ j := by
      rw [← hinner]
      exact length_justBefore_le
    refine ⟨by rw [justBefore_append_right hle, hinner], ?_⟩
    rw [answers_append, hj, justBefore_append_right hle, hreceived]

/-- After the elements inside an element comes the call for the element itself. -/
theorem Visits.concat {e : Element} {calls : List Call} (h : Visits e.inner calls) (a : Element) :
    Visits (e.inner ++ [e]) (calls ++ [⟨e.replaceInner (answers calls), a⟩]) := by
  refine ⟨by rw [List.length_append, List.length_append, h.length_eq]; rfl, ?_⟩
  intro i e' c he' hc
  by_cases hi : i < e.inner.length
  · exact h.call_eq_append_left hi he' hc
  · have hlast : i = e.inner.length := by
      have hlt := (List.getElem?_eq_some_iff.mp he').1
      rw [List.length_append, List.length_singleton] at hlt
      omega
    subst hlast
    have hanswers : e.inner.length = (answers calls).length := by rw [length_answers, h.length_eq]
    rw [List.getElem?_concat_length, Option.some.injEq] at he'
    rw [← h.length_eq, List.getElem?_concat_length, Option.some.injEq] at hc
    subst he' hc
    refine ⟨justBefore_length, ?_⟩
    rw [answers_append, hanswers, justBefore_length]

/-! ### The walk -/

/-- The visitor that hands elements to a callback and leaves all else alone. -/
def elementVisitor {m : Type → Type} [Monad m] (f : Element → m Element) : Visitor m :=
  { node := pure, element := f }

theorem Module.forEachElement_eq {m : Type → Type} [Monad m] (x : Module)
    (f : Element → m Element) : x.forEachElement f = x.walk (elementVisitor f) := rfl

theorem elementVisitor_visit {m : Type → Type} [Monad m] (f : Element → m Element) {n : Node}
    (h : n.element? = none) : (elementVisitor f).visit n = pure n := by
  cases n
  case element e => cases h
  all_goals rfl

/-- The callback with a record of its calls, kept beside its state. -/
def recorded {σ : Type} (f : Element → StateM σ Element) (e : Element) :
    StateM (σ × List Call) Element := do
  let (s, calls) ← get
  let (answer, t) := (f e).run s
  set (t, calls ++ [Call.mk e answer])
  return answer

section

variable {σ : Type} {f : Element → StateM σ Element}

/-- A run over a tree makes calls that visit its elements, and puts the answers in the
    places of the outermost ones. The calls are those that the record shows. -/
def Node.Visited (f : Element → StateM σ Element) (n : Node) (s : σ) (n' : Node) (t : σ) : Prop :=
  ∃ calls, Performs f s calls t ∧ Visits n.elements calls ∧ n' = n.replaceElements (answers calls) ∧
    ∀ before, (n.walk (elementVisitor (recorded f))).run (s, before) = (n', t, before ++ calls)

theorem visited_of_threaded {ns ns' : List Node} {s t : σ}
    (h : Threaded (Node.Visited f) ns s ns' t) :
    ∃ calls, Performs f s calls t ∧ Visits (ns.flatMap Node.elements) calls ∧
      ns' = replaceAll ns (answers calls) ∧
      ∀ before, (ns.mapM fun n : Node => n.walk (elementVisitor (recorded f))).run (s, before) =
        (ns', t, before ++ calls) := by
  induction h with
  | nil => exact ⟨[], .nil, .nil, rfl, fun before => by rw [List.append_nil]; rfl⟩
  | @cons n n' ns ns' s t u hhead _ ih =>
    obtain ⟨calls, hperforms, hvisits, rfl, hrecord⟩ := hhead
    obtain ⟨calls', hperforms', hvisits', rfl, hrecord'⟩ := ih
    have hlength : (answers calls).length = n.elements.length := by
      rw [length_answers, hvisits.length_eq]
    refine ⟨calls ++ calls', hperforms.append hperforms', hvisits.append hvisits', ?_, ?_⟩
    · rw [answers_append, replaceAll_cons_append hlength]
    · intro before
      rw [List.mapM_cons, run_bind_of_run_eq (hrecord before), run_bind_of_run_eq (hrecord' _),
        List.append_assoc]
      rfl

/-- The parts are visited first. A node that is no element stays around them, and an
    element is handed to the callback with the answers inside it. -/
theorem Node.visited_visit (n : Node) (s : σ) (ps : List Node) (t : σ)
    (h : Threaded (Node.Visited f) n.parts s ps t) :
    Node.Visited f n s (((elementVisitor f).visit (n.refill ps)).run t).1
      (((elementVisitor f).visit (n.refill ps)).run t).2 := by
  obtain ⟨calls, hperforms, hvisits, rfl, hrecord⟩ := visited_of_threaded h
  cases hn : n.element? with
  | none =>
    have hrefill := Node.element?_refill hn (replaceAll n.parts (answers calls))
    rw [elementVisitor_visit f hrefill]
    refine ⟨calls, hperforms, ?_, ?_, ?_⟩
    · rw [Node.elements_eq, hn, Option.toList_none, List.append_nil]
      exact hvisits
    · rw [Node.replaceElements_of_not_element hn]
      rfl
    · intro before
      rw [Node.walk_eq, run_bind_of_run_eq (hrecord before), elementVisitor_visit _ hrefill]
      rfl
  | some e =>
    obtain rfl := Node.eq_element hn
    have hcall : Performs f t
        [⟨e.replaceInner (answers calls), ((f (e.replaceInner (answers calls))).run t).1⟩]
        ((f (e.replaceInner (answers calls))).run t).2 := .cons rfl .nil
    refine ⟨_, hperforms.append hcall, ?_, ?_, ?_⟩
    · rw [Node.elements_element]
      exact Visits.concat hvisits _
    · rw [answers_append, Node.replaceElements_element]
      exact congrArg Node.element List.getLastD_concat.symm
    · intro before
      rw [Node.walk_eq, run_bind_of_run_eq (hrecord before), ← List.append_assoc]
      rfl

end

/-- A callback that answers with what it received changes nothing. -/
theorem Node.walk_pure {m : Type → Type} [Monad m] [LawfulMonad m] (n : Node) :
    n.walk (elementVisitor (pure : Element → m Element)) = pure n := by
  induction n using Node.inductionOnParts with
  | h n ih =>
    rw [Node.walk_eq, mapM_eq_pure ih, pure_bind, n.refill_parts]
    cases n with
    | element e => rw [Visitor.visit, elementVisitor, pure_bind]
    | _ => rfl

theorem Module.forEachElement_pure {m : Type → Type} [Monad m] [LawfulMonad m] (x : Module) :
    x.forEachElement (pure : Element → m Element) = pure x := by
  rw [Module.forEachElement_eq, Module.walk_eq, mapM_eq_pure fun p _ => Node.walk_pure p, pure_bind,
    x.refill_parts]

/-- **Every element is visited exactly once, inner elements first.** There are calls, the
    same that a record beside the state shows, which are made one after the other, visit
    the elements of the module in post-order, and whose answers stand in the places of the
    outermost elements of the result; around these the module is as it was. The callback
    that answers with what it received leaves all of it as it was. -/
theorem Module.forEachElement_visits {σ : Type} (m : Module) (f : Element → StateM σ Element)
    (s : σ) :
    (∃ (calls : List Call) (t : σ),
      (m.forEachElement f).run s = (m.replaceElements (answers calls), t) ∧
      (m.forEachElement (recorded f)).run (s, []) = (m.replaceElements (answers calls), t, calls) ∧
      Performs f s calls t ∧ Visits m.elements calls) ∧
    ((m.forEachElement f).run s).1.outline = m.outline ∧
    m.forEachElement (pure : Element → StateM σ Element) = pure m := by
  obtain ⟨ps, t, hthread, hrun⟩ :=
    Module.walk_run_induction (elementVisitor f) Node.visited_visit m s
  obtain ⟨calls, hperforms, hvisits, rfl, hrecord⟩ := visited_of_threaded hthread
  have hresult : (m.forEachElement f).run s = (m.replaceElements (answers calls), t) := hrun
  refine ⟨⟨calls, t, hresult, ?_, hperforms, hvisits⟩, ?_, m.forEachElement_pure⟩
  · rw [Module.forEachElement_eq, Module.walk_eq, run_bind_of_run_eq (hrecord [])]
    rfl
  · rw [hresult]
    exact m.outline_replaceElements (answers calls)

end JsxEdit
