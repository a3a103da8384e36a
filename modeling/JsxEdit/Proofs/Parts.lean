import Mathlib.Data.List.Basic
import JsxEdit.Walk

/-!
  **The tree as nodes inside nodes.**

  Nodes, elements, attributes and their lists are defined through one another, and a
  walk goes through all of them. For what a walk does it is enough to know, of each
  node, which nodes stand directly inside it and how it looks with others in their
  places. `PartView` is this knowledge about a type, with the laws that make it a
  faithful one; there is a view of attribute entries, elements, nodes, module items
  and modules.

  With it the mutual recursion is dealt with once: `Node.inductionOnParts` is the
  induction over a whole tree, and `Node.walk_eq` says that a walk replaces the parts
  of a node in order, refills the node with the results and visits it. For a visitor
  with a state, `Node.walk_run_induction` is the induction over a run: it threads a
  relation between trees and states before and after through all parts of a tree.
-/

namespace JsxEdit

/-! ### Dealing out a list -/

/-- Deals a list out: each taker in turn gets as many members as it asks for. -/
def deal {α β : Type} : List (Nat × (List α → β)) → List α → List β
  | [], _ => []
  | (count, take) :: rest, xs => take (xs.take count) :: deal rest (xs.drop count)

section

variable {α β γ : Type} {count : α → Nat} {take : α → List β → γ}

theorem length_deal (takers : List (Nat × (List β → γ))) (bs : List β) :
    (deal takers bs).length = takers.length := by
  induction takers generalizing bs with
  | nil => rfl
  | cons taker rest ih => rw [deal, List.length_cons, List.length_cons, ih]

theorem deal_cons_append {x : α} {xs : List α} {bs cs : List β} (h : bs.length = count x) :
    deal ((x :: xs).map fun x => (count x, take x)) (bs ++ cs) =
      take x bs :: deal (xs.map fun x => (count x, take x)) cs := by
  simp only [List.map_cons, deal, ← h, List.take_left, List.drop_left]

/-- Dealing out the concatenated blocks gives each taker its own block. -/
theorem deal_flatMap {xs : List α} {block : α → List β} (h : ∀ x, (block x).length = count x) :
    deal (xs.map fun x => (count x, take x)) (xs.flatMap block) =
      xs.map fun x => take x (block x) := by
  induction xs with
  | nil => rfl
  | cons x xs ih => rw [List.flatMap_cons, deal_cons_append (h x), ih, List.map_cons]

/-- What every taker makes of its block, whatever the block is, it makes of a list dealt
    out. -/
theorem map_deal {δ : Type} {xs : List α} {f : γ → δ} {g : α → δ}
    (h : ∀ x ∈ xs, ∀ bs, f (take x bs) = g x) (bs : List β) :
    (deal (xs.map fun x => (count x, take x)) bs).map f = xs.map g := by
  induction xs generalizing bs with
  | nil => rfl
  | cons x xs ih =>
    simp only [List.map_cons, deal]
    rw [h x List.mem_cons_self, ih fun y hy => h y (List.mem_cons_of_mem x hy)]

end

/-! ### Views -/

/-- The nodes directly inside something, and the same thing with others in their places. -/
structure PartView (α : Type) where
  parts : α → List Node
  refill : α → List Node → α
  refill_parts : ∀ x, refill x (parts x) = x
  parts_refill : ∀ x ps, ps.length = (parts x).length → parts (refill x ps) = ps
  refill_refill : ∀ x ps qs, ps.length = (parts x).length → qs.length = (parts x).length →
    refill (refill x ps) qs = refill x qs

namespace PartView

variable {α : Type} (view : PartView α)

/-- The parts of the members of a list, one member after the other. -/
def listParts (xs : List α) : List Node := xs.flatMap view.parts

def listRefill (xs : List α) (ps : List Node) : List α :=
  deal (xs.map fun x => ((view.parts x).length, view.refill x)) ps

theorem listRefill_cons (x : α) (xs : List α) (ps : List Node) :
    view.listRefill (x :: xs) ps =
      view.refill x (ps.take (view.parts x).length) ::
        view.listRefill xs (ps.drop (view.parts x).length) := rfl

theorem listParts_cons (x : α) (xs : List α) :
    view.listParts (x :: xs) = view.parts x ++ view.listParts xs := List.flatMap_cons

theorem listRefill_listParts (xs : List α) : view.listRefill xs (view.listParts xs) = xs := by
  rw [listRefill, listParts, deal_flatMap fun _ => rfl]
  simp only [view.refill_parts, List.map_id']

theorem listParts_listRefill (xs : List α) (ps : List Node)
    (h : ps.length = (view.listParts xs).length) : view.listParts (view.listRefill xs ps) = ps := by
  induction xs generalizing ps with
  | nil => exact (List.eq_nil_of_length_eq_zero h).symm
  | cons x xs ih =>
    rw [listParts_cons, List.length_append] at h
    rw [listRefill_cons, listParts_cons, view.parts_refill, ih, List.take_append_drop]
    · rw [List.length_drop]; omega
    · rw [List.length_take]; omega

theorem listRefill_listRefill (xs : List α) (ps qs : List Node)
    (hps : ps.length = (view.listParts xs).length)
    (hqs : qs.length = (view.listParts xs).length) :
    view.listRefill (view.listRefill xs ps) qs = view.listRefill xs qs := by
  induction xs generalizing ps qs with
  | nil => rfl
  | cons x xs ih =>
    rw [listParts_cons, List.length_append] at hps hqs
    have hhead : (ps.take (view.parts x).length).length = (view.parts x).length := by
      rw [List.length_take]; omega
    simp only [listRefill_cons, view.parts_refill x _ hhead, hhead]
    rw [view.refill_refill x _ _ hhead (by rw [List.length_take]; omega),
      ih _ _ (by rw [List.length_drop]; omega) (by rw [List.length_drop]; omega)]

/-- The view of a list that looks into each of its members. -/
def list : PartView (List α) where
  parts := view.listParts
  refill := view.listRefill
  refill_parts := view.listRefill_listParts
  parts_refill := view.listParts_listRefill
  refill_refill := view.listRefill_listRefill

end PartView

/-! ### Attribute entries and elements -/

namespace AttrEntry

def parts : AttrEntry → List Node
  | attr ⟨_, none⟩ => []
  | attr ⟨_, some value⟩ => [value]
  | spread inner => [inner]

def refill : AttrEntry → List Node → AttrEntry
  | attr ⟨name, some _⟩, [value] => attr ⟨name, some value⟩
  | spread _, [inner] => spread inner
  | entry, _ => entry

def view : PartView AttrEntry where
  parts := parts
  refill := refill
  refill_parts := by rintro (⟨name, _ | value⟩ | inner) <;> rfl
  parts_refill := by
    rintro (⟨name, _ | value⟩ | inner) ps h <;>
      simp only [parts, List.length_nil, List.length_singleton, List.length_eq_zero_iff,
        List.length_eq_one_iff] at h
    · rw [h]; rfl
    · obtain ⟨p, rfl⟩ := h; rfl
    · obtain ⟨p, rfl⟩ := h; rfl
  refill_refill := by
    rintro (⟨name, _ | value⟩ | inner) ps qs hps hqs <;>
      simp only [parts, List.length_nil, List.length_singleton, List.length_eq_zero_iff,
        List.length_eq_one_iff] at hps hqs
    · rw [hps, hqs]; rfl
    · obtain ⟨p, rfl⟩ := hps; obtain ⟨q, rfl⟩ := hqs; rfl
    · obtain ⟨p, rfl⟩ := hps; obtain ⟨q, rfl⟩ := hqs; rfl

end AttrEntry

namespace Element

/-- The nodes directly inside an element: attribute values, then children. -/
def parts (e : Element) : List Node := AttrEntry.view.listParts e.attrs ++ e.children

def refill (e : Element) (ps : List Node) : Element :=
  let inAttrs := (AttrEntry.view.listParts e.attrs).length
  { e with
    attrs := AttrEntry.view.listRefill e.attrs (ps.take inAttrs)
    children := ps.drop inAttrs }

theorem refill_parts (e : Element) : e.refill e.parts = e := by
  cases e
  simp only [refill, parts, List.take_left, List.drop_left, PartView.listRefill_listParts]

theorem parts_refill (e : Element) (ps : List Node) (h : ps.length = e.parts.length) :
    (e.refill ps).parts = ps := by
  rw [parts, List.length_append] at h
  rw [refill, parts, PartView.listParts_listRefill, List.take_append_drop]
  rw [List.length_take]; omega

theorem refill_refill (e : Element) (ps qs : List Node) (hps : ps.length = e.parts.length)
    (hqs : qs.length = e.parts.length) : (e.refill ps).refill qs = e.refill qs := by
  rw [parts, List.length_append] at hps hqs
  have hattrs : (ps.take (AttrEntry.view.listParts e.attrs).length).length =
      (AttrEntry.view.listParts e.attrs).length := by
    rw [List.length_take]; omega
  simp only [refill, PartView.listParts_listRefill _ _ _ hattrs, hattrs]
  rw [PartView.listRefill_listRefill _ _ _ _ hattrs (by rw [List.length_take]; omega)]

end Element

/-! ### Nodes -/

namespace Node

/-- The nodes directly inside a node, in visiting order. Those of an element are its
    attribute values and children. -/
def parts : Node → List Node
  | .ident _ => []
  | .literal _ => []
  | .template t => t.exprs
  | .call callee args => callee :: args
  | .member base property => [base, property]
  | .object members => members
  | .keyValue key value => [key, value]
  | .paren inner => [inner]
  | .spread inner => [inner]
  | .element e => e.parts
  | .fragment children => children
  | .braces inner => [inner]
  | .emptyBraces => []
  | .text .. => []
  | .list items => items
  | .absent => []
  | .other _ _ parts => parts

/-- The node with other nodes as its parts. It stays as it is when there are too many
    or too few of them. -/
def refill : Node → List Node → Node
  | .template t, exprs => .template { t with exprs }
  | .call .., callee :: args => .call callee args
  | .member .., [base, property] => .member base property
  | .object _, members => .object members
  | .keyValue .., [key, value] => .keyValue key value
  | .paren _, [inner] => .paren inner
  | .spread _, [inner] => .spread inner
  | .element e, ps => .element (e.refill ps)
  | .fragment _, children => .fragment children
  | .braces _, [inner] => .braces inner
  | .list _, items => .list items
  | .other kind details _, parts => .other kind details parts
  | n, _ => n

theorem refill_parts (n : Node) : n.refill n.parts = n := by
  cases n
  case template t => cases t; rfl
  case element e => exact congrArg element e.refill_parts
  all_goals rfl

theorem parts_refill (n : Node) (ps : List Node) (h : ps.length = n.parts.length) :
    (n.refill ps).parts = ps := by
  cases n <;> simp only [parts] at h
  case element e => exact e.parts_refill ps h
  case call callee args =>
    obtain ⟨p, ps, rfl⟩ := List.exists_cons_of_length_eq_add_one h
    rfl
  case member | keyValue =>
    obtain ⟨p, q, rfl⟩ := List.length_eq_two.mp h
    rfl
  case paren | spread | braces =>
    obtain ⟨p, rfl⟩ := List.length_eq_one_iff.mp h
    rfl
  case ident | literal | emptyBraces | text | absent =>
    rw [List.eq_nil_of_length_eq_zero h]
    rfl
  all_goals rfl

theorem refill_refill (n : Node) (ps qs : List Node) (hps : ps.length = n.parts.length)
    (hqs : qs.length = n.parts.length) : (n.refill ps).refill qs = n.refill qs := by
  cases n <;> simp only [parts] at hps hqs
  case element e => exact congrArg element (e.refill_refill ps qs hps hqs)
  case call callee args =>
    obtain ⟨p, ps, rfl⟩ := List.exists_cons_of_length_eq_add_one hps
    obtain ⟨q, qs, rfl⟩ := List.exists_cons_of_length_eq_add_one hqs
    rfl
  case member | keyValue =>
    obtain ⟨p, p', rfl⟩ := List.length_eq_two.mp hps
    obtain ⟨q, q', rfl⟩ := List.length_eq_two.mp hqs
    rfl
  case paren | spread | braces =>
    obtain ⟨p, rfl⟩ := List.length_eq_one_iff.mp hps
    obtain ⟨q, rfl⟩ := List.length_eq_one_iff.mp hqs
    rfl
  all_goals rfl

def view : PartView Node := ⟨parts, refill, refill_parts, parts_refill, refill_refill⟩

end Node

/-! ### Items and modules -/

namespace Item

/-- The nodes directly inside an item; those of an import are the members of its
    `with` clause. -/
def parts : Item → List Node
  | importing i => i.attributes.getD []
  | node n => [n]

def refill : Item → List Node → Item
  | importing i, members => importing { i with attributes := i.attributes.map fun _ => members }
  | node _, [n] => node n
  | item, _ => item

def view : PartView Item where
  parts := parts
  refill := refill
  refill_parts := by rintro (⟨specifiers, source, typeOnly, phase, _ | members⟩ | n) <;> rfl
  parts_refill := by
    rintro (⟨specifiers, source, typeOnly, phase, _ | members⟩ | n) ps h
    · exact (List.eq_nil_of_length_eq_zero h).symm
    · rfl
    · obtain ⟨p, rfl⟩ := List.length_eq_one_iff.mp h; rfl
  refill_refill := by
    rintro (⟨specifiers, source, typeOnly, phase, _ | members⟩ | n) ps qs hps hqs
    · rfl
    · rfl
    · obtain ⟨p, rfl⟩ := List.length_eq_one_iff.mp hps
      obtain ⟨q, rfl⟩ := List.length_eq_one_iff.mp hqs
      rfl

end Item

namespace Module

/-- The nodes directly inside a module, from the first item to the last. -/
def parts (m : Module) : List Node := Item.view.listParts m.body

def refill (m : Module) (ps : List Node) : Module := ⟨Item.view.listRefill m.body ps⟩

theorem refill_parts (m : Module) : m.refill m.parts = m := by
  rw [refill, parts, PartView.listRefill_listParts]

theorem parts_refill (m : Module) (ps : List Node) (h : ps.length = m.parts.length) :
    (m.refill ps).parts = ps := by
  rw [refill, parts, PartView.listParts_listRefill _ _ _ h]

theorem refill_refill (m : Module) (ps qs : List Node) (hps : ps.length = m.parts.length)
    (hqs : qs.length = m.parts.length) : (m.refill ps).refill qs = m.refill qs := by
  rw [refill, refill, refill, PartView.listRefill_listRefill _ _ _ _ hps hqs]

def view : PartView Module := ⟨parts, refill, refill_parts, parts_refill, refill_refill⟩

end Module

/-! ### Induction over a tree -/

theorem AttrEntry.sizeOf_lt_of_mem_parts {entry : AttrEntry} {p : Node} (h : p ∈ entry.parts) :
    sizeOf p < sizeOf entry := by
  rcases entry with ⟨name, _ | value⟩ | inner
  · cases h
  · rw [List.mem_singleton.mp h]; decreasing_tactic
  · rw [List.mem_singleton.mp h]; decreasing_tactic

theorem Element.sizeOf_lt_of_mem_parts {e : Element} {p : Node} (h : p ∈ e.parts) :
    sizeOf p < sizeOf e := by
  obtain ⟨tag, attrs, selfClosing, children, closing⟩ := e
  rw [Element.mk.sizeOf_spec]
  rcases List.mem_append.mp h with hattrs | hchildren
  · obtain ⟨entry, hentry, hp⟩ := List.mem_flatMap.mp hattrs
    have h1 : sizeOf entry < sizeOf attrs := List.sizeOf_lt_of_mem hentry
    have h2 := AttrEntry.sizeOf_lt_of_mem_parts hp
    omega
  · have h1 : sizeOf p < sizeOf children := List.sizeOf_lt_of_mem hchildren
    omega

theorem Node.sizeOf_lt_of_mem_parts {n p : Node} (h : p ∈ n.parts) : sizeOf p < sizeOf n := by
  cases n <;> simp only [parts] at h
  case element e =>
    have h1 := Element.sizeOf_lt_of_mem_parts h
    rw [Node.element.sizeOf_spec]; omega
  case template t =>
    obtain ⟨exprs, quasis⟩ := t
    have h1 : sizeOf p < sizeOf exprs := List.sizeOf_lt_of_mem h
    rw [Node.template.sizeOf_spec, Template.mk.sizeOf_spec]; omega
  case call callee args =>
    rw [Node.call.sizeOf_spec]
    rcases List.mem_cons.mp h with rfl | hargs
    · omega
    · have h1 := List.sizeOf_lt_of_mem hargs
      omega
  case object | fragment | list | other =>
    have h1 := List.sizeOf_lt_of_mem h
    simp only [Node.object.sizeOf_spec, Node.fragment.sizeOf_spec, Node.list.sizeOf_spec,
      Node.other.sizeOf_spec]
    omega
  all_goals
    simp only [List.mem_cons, List.not_mem_nil, or_false] at h
  case member | keyValue =>
    rcases h with rfl | rfl <;> decreasing_tactic
  case paren | spread | braces =>
    subst h; decreasing_tactic

/-- What holds of a node as soon as it holds of its parts holds of all nodes. -/
theorem Node.inductionOnParts {P : Node → Prop} (h : ∀ n : Node, (∀ p ∈ n.parts, P p) → P n)
    (n : Node) : P n :=
  h n fun p _ => Node.inductionOnParts h p
termination_by n
decreasing_by exact Node.sizeOf_lt_of_mem_parts ‹_›

/-- `x.Within n`: the node `x` is `n`, or stands inside it at some depth. -/
inductive Node.Within (x : Node) : Node → Prop where
  | self : Within x x
  | part {n p : Node} : p ∈ n.parts → Within x p → Within x n

theorem Node.Within.trans {x y n : Node} (hxy : x.Within y) (hyn : y.Within n) : x.Within n := by
  induction hyn with
  | self => exact hxy
  | part hp _ ih => exact .part hp ih

/-- The node stands somewhere in the module. -/
def Module.Contains (m : Module) (x : Node) : Prop := ∃ p ∈ m.parts, x.Within p

/-! ### A walk, through its parts -/

/-- What a visitor does with a node whose parts are done. -/
def Visitor.visit {m : Type → Type} [Monad m] (v : Visitor m) : Node → m Node
  | .element e => do v.node (.element (← v.element e))
  | n => v.node n

section

variable {m : Type → Type} [Monad m] [LawfulMonad m]

/-- A list made by a run over another list has the length of that one. -/
theorem mapM_bind_congr {α β γ : Type} {f : α → m β} {xs : List α} {k k' : List β → m γ}
    (h : ∀ ys : List β, ys.length = xs.length → k ys = k' ys) :
    xs.mapM f >>= k = xs.mapM f >>= k' := by
  induction xs generalizing k k' with
  | nil =>
    rw [List.mapM_nil, pure_bind, pure_bind]
    exact h [] rfl
  | cons x xs ih =>
    simp only [List.mapM_cons, bind_assoc, pure_bind]
    congr 1
    funext y
    exact ih fun ys hys => h (y :: ys) (by rw [List.length_cons, List.length_cons, hys])

theorem mapM_eq_pure {α : Type} {f : α → m α} {xs : List α} (h : ∀ x ∈ xs, f x = pure x) :
    xs.mapM f = pure xs := by
  induction xs with
  | nil => rfl
  | cons x xs ih =>
    rw [List.mapM_cons, h x List.mem_cons_self, pure_bind,
      ih fun y hy => h y (List.mem_cons_of_mem x hy), pure_bind]

theorem PartView.mapM_eq {α : Type} (view : PartView α) {walk : α → m α} {f : Node → m Node}
    (h : ∀ x, walk x = (view.parts x).mapM f >>= fun ps => pure (view.refill x ps)) (xs : List α) :
    xs.mapM walk = (view.listParts xs).mapM f >>= fun ps => pure (view.listRefill xs ps) := by
  induction xs with
  | nil => simp only [listParts, List.flatMap_nil, List.mapM_nil, pure_bind]; rfl
  | cons x xs ih =>
    simp only [List.mapM_cons, listParts_cons, List.mapM_append, bind_assoc, pure_bind, h x, ih]
    refine mapM_bind_congr fun ps hps => ?_
    congr 1
    funext qs
    rw [listRefill_cons, ← hps, List.take_left, List.drop_left]

variable (v : Visitor m)

theorem walkNodes_eq (ns : List Node) : walkNodes v ns = ns.mapM (·.walk v) := by
  induction ns with
  | nil => rw [walkNodes, List.mapM_nil]
  | cons n ns ih => rw [walkNodes, List.mapM_cons, ih]

theorem walkEntries_eq (entries : List AttrEntry) :
    walkEntries v entries = entries.mapM (·.walk v) := by
  induction entries with
  | nil => rw [walkEntries, List.mapM_nil]
  | cons e entries ih => rw [walkEntries, List.mapM_cons, ih]

theorem walkItems_eq (items : List Item) : walkItems v items = items.mapM (·.walk v) := by
  induction items with
  | nil => rw [walkItems, List.mapM_nil]
  | cons item items ih => rw [walkItems, List.mapM_cons, ih]

theorem AttrEntry.walk_eq (entry : AttrEntry) :
    entry.walk v = entry.parts.mapM (·.walk v) >>= fun ps => pure (entry.refill ps) := by
  rcases entry with ⟨name, _ | value⟩ | inner <;>
    simp only [AttrEntry.walk, parts, refill, List.mapM_cons, List.mapM_nil, bind_assoc, pure_bind]

theorem Element.walk_eq (e : Element) :
    e.walk v = e.parts.mapM (·.walk v) >>= fun ps => v.element (e.refill ps) := by
  obtain ⟨tag, attrs, selfClosing, children, closing⟩ := e
  simp only [Element.walk, parts, refill, walkEntries_eq, walkNodes_eq, List.mapM_append,
    AttrEntry.view.mapM_eq (AttrEntry.walk_eq v), bind_assoc, pure_bind]
  refine mapM_bind_congr fun ps hps => ?_
  congr 1
  funext qs
  rw [← hps, List.take_left, List.drop_left]

/-- **A walk, unfolded once.** The parts are walked in order, and the node is visited
    with the results in their places. -/
theorem Node.walk_eq (n : Node) :
    n.walk v = n.parts.mapM (·.walk v) >>= fun ps => v.visit (n.refill ps) := by
  cases n
  case element e =>
    simp only [Node.walk, Node.parts, Node.refill, Visitor.visit, Element.walk_eq, bind_assoc]
  case template t =>
    obtain ⟨exprs, quasis⟩ := t
    simp only [Node.walk, Node.parts, Node.refill, Visitor.visit, walkNodes_eq]
  all_goals
    simp only [Node.walk, Node.parts, Node.refill, Visitor.visit, walkNodes_eq, List.mapM_cons,
      List.mapM_nil, bind_assoc, pure_bind]

theorem Item.walk_eq (item : Item) :
    item.walk v = item.parts.mapM (·.walk v) >>= fun ps => pure (item.refill ps) := by
  rcases item with ⟨specifiers, source, typeOnly, phase, _ | members⟩ | n <;>
    simp only [Item.walk, parts, refill, walkNodes_eq, Option.getD_some, Option.getD_none,
      Option.map_some, Option.map_none, List.mapM_cons, List.mapM_nil, bind_assoc, pure_bind]

theorem Module.walk_eq (x : Module) :
    x.walk v = x.parts.mapM (·.walk v) >>= fun ps => pure (x.refill ps) := by
  simp only [Module.walk, Module.parts, Module.refill, walkItems_eq,
    Item.view.mapM_eq (Item.walk_eq v), bind_assoc, pure_bind]

end

/-! ### Walks with a state -/

/-- Each member of a list is taken to its result in turn, starting in the state that the
    member before it left. `R x s y t`: from state `s`, `x` is taken to `y` and the
    state becomes `t`. -/
inductive Threaded {α σ : Type} (R : α → σ → α → σ → Prop) : List α → σ → List α → σ → Prop where
  | nil {s : σ} : Threaded R [] s [] s
  | cons {x y : α} {xs ys : List α} {s t u : σ} :
      R x s y t → Threaded R xs t ys u → Threaded R (x :: xs) s (y :: ys) u

section

variable {α σ : Type} {R : α → σ → α → σ → Prop}

theorem Threaded.length_eq {xs ys : List α} {s t : σ} (h : Threaded R xs s ys t) :
    ys.length = xs.length := by
  induction h with
  | nil => rfl
  | cons _ _ ih => rw [List.length_cons, List.length_cons, ih]

theorem run_bind_of_run_eq {β γ : Type} {x : StateM σ β} {k : β → StateM σ γ} {b : β} {s t : σ}
    (h : x.run s = (b, t)) : (x >>= k).run s = (k b).run t := by
  rw [StateT.run_bind, h]
  rfl

theorem threaded_mapM {f : α → StateM σ α} {xs : List α}
    (h : ∀ x ∈ xs, ∀ s, R x s ((f x).run s).1 ((f x).run s).2) (s : σ) :
    Threaded R xs s ((xs.mapM f).run s).1 ((xs.mapM f).run s).2 := by
  induction xs generalizing s with
  | nil => exact .nil
  | cons x xs ih =>
    rw [List.mapM_cons]
    refine .cons (h x List.mem_cons_self s) (ih (fun y hy => h y (List.mem_cons_of_mem x hy)) _)

end

variable {σ : Type} {R : Node → σ → Node → σ → Prop}

/-- **Induction over a run.** A relation between the tree and the state before and after
    holds of every walk if it holds of a node whenever it holds, threaded through the
    states, of its parts. -/
theorem Node.walk_run_induction (v : Visitor (StateM σ))
    (step : ∀ (n : Node) (s : σ) (ps : List Node) (t : σ), Threaded R n.parts s ps t →
      R n s ((v.visit (n.refill ps)).run t).1 ((v.visit (n.refill ps)).run t).2)
    (n : Node) : ∀ s, R n s ((n.walk v).run s).1 ((n.walk v).run s).2 := by
  induction n using Node.inductionOnParts with
  | h n ih =>
    intro s
    rw [Node.walk_eq]
    exact step n s _ _ (threaded_mapM ih s)

/-- The same induction for a module, whose parts are put back as they come. -/
theorem Module.walk_run_induction (v : Visitor (StateM σ))
    (step : ∀ (n : Node) (s : σ) (ps : List Node) (t : σ), Threaded R n.parts s ps t →
      R n s ((v.visit (n.refill ps)).run t).1 ((v.visit (n.refill ps)).run t).2)
    (m : Module) (s : σ) :
    ∃ ps t, Threaded R m.parts s ps t ∧ (m.walk v).run s = (m.refill ps, t) := by
  refine ⟨_, _, threaded_mapM (fun p _ => Node.walk_run_induction v step p) s, ?_⟩
  rw [Module.walk_eq]
  rfl

end JsxEdit
