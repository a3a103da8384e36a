import JsxEdit.Proofs.Parts

/-!
  **Unwrapping calls: every step is sound, and no call is left.**

  Unwrapping takes the calls of one function away, `f(a, …)` becoming `a`. The walk
  that does so also works in places that it gives up later, such as the second
  argument of a call, and may itself make calls: in `f(f)(x)` the inner call gives
  way to `f`, and the outer one is then a call of `f` as well.

  What it does is told by single steps: `Node.UnwrapStep` replaces one call somewhere in
  a tree by its first argument. The walk makes as many steps as it counts, and at the
  end no further step is possible. So nothing that is said about trees from the inside
  out, and gives a call the meaning of its first argument, can tell a module from its
  unwrapped form. That form is itself such a meaning (`Meaning.unwrappedForm`), and the finest:
  two modules on which all of them agree are unwrapped to the same module.

  A call is an expression `Node.call`. The call at the base of an optional chain, as in
  `f?.(x)`, is not one: it has a kind of its own and stays.
-/

universe u v

namespace JsxEdit

/-! ### Counted steps -/

/-- From one state to another in a given number of steps. -/
inductive StepsIn {α : Type} (step : α → α → Prop) : Nat → α → α → Prop where
  | refl {a : α} : StepsIn step 0 a a
  | tail {k : Nat} {a b c : α} : StepsIn step k a b → step b c → StepsIn step (k + 1) a c

/-- One member of a list makes a step and the others stay. -/
def StepAmong {α : Type} (step : α → α → Prop) (xs ys : List α) : Prop :=
  ∃ before x y after, xs = before ++ x :: after ∧ step x y ∧ ys = before ++ y :: after

section

variable {α β : Type} {step : α → α → Prop}

theorem StepsIn.trans {k l : Nat} {a b c : α} (h : StepsIn step k a b) (h' : StepsIn step l b c) :
    StepsIn step (k + l) a c := by
  induction h' with
  | refl => exact h
  | tail _ hstep ih => exact .tail (ih h) hstep

theorem StepsIn.eq_of_zero {a b : α} (h : StepsIn step 0 a b) : b = a := by
  cases h
  rfl

theorem StepsIn.map {step' : β → β → Prop} {f : α → β}
    (hf : ∀ a b, step a b → step' (f a) (f b)) {k : Nat} {a b : α} (h : StepsIn step k a b) :
    StepsIn step' k (f a) (f b) := by
  induction h with
  | refl => exact .refl
  | tail _ hstep ih => exact .tail ih (hf _ _ hstep)

/-- What no step changes is the same at the end. -/
theorem StepsIn.invariant {γ : Type u} {f : α → γ} (hf : ∀ a b, step a b → f b = f a) {k : Nat}
    {a b : α} (h : StepsIn step k a b) : f b = f a := by
  induction h with
  | refl => rfl
  | tail _ hstep ih => rw [hf _ _ hstep, ih]

theorem StepAmong.length_eq {xs ys : List α} (h : StepAmong step xs ys) :
    ys.length = xs.length := by
  obtain ⟨before, x, y, after, rfl, _, rfl⟩ := h
  simp only [List.length_append, List.length_cons]

theorem StepAmong.head {x y : α} (xs : List α) (h : step x y) :
    StepAmong step (x :: xs) (y :: xs) := ⟨[], x, y, xs, rfl, h, rfl⟩

theorem StepAmong.cons {xs ys : List α} (x : α) (h : StepAmong step xs ys) :
    StepAmong step (x :: xs) (x :: ys) := by
  obtain ⟨before, y, z, after, rfl, hstep, rfl⟩ := h
  exact ⟨x :: before, y, z, after, rfl, hstep, rfl⟩

end

/-- Steps among the parts of something are steps of the whole. -/
theorem PartView.stepsIn_refill {α : Type} (view : PartView α) {step : Node → Node → Prop}
    {step' : α → α → Prop}
    (h : ∀ x ps, StepAmong step (view.parts x) ps → step' x (view.refill x ps)) {x : α} {k : Nat}
    {ps qs : List Node} (hparts : view.parts x = ps) (hsteps : StepsIn (StepAmong step) k ps qs) :
    StepsIn step' k x (view.refill x qs) := by
  induction hsteps with
  | refl =>
    rw [← hparts, view.refill_parts]
    exact .refl
  | tail hbefore hlast ih =>
    have hlength := hbefore.invariant fun _ _ hstep => StepAmong.length_eq hstep
    rw [← hparts] at hlength
    refine .tail (ih hparts) ?_
    rw [← view.refill_refill x _ _ hlength (hlast.length_eq.trans hlength)]
    refine h _ _ ?_
    rw [view.parts_refill x _ hlength]
    exact hlast

/-! ### One call unwrapped -/

/-- The node is a call of the function with a first argument that is not spread. -/
def Node.IsUnwrappable (name : String) (n : Node) : Prop :=
  ∃ arg rest, n = .call (.ident name) (arg :: rest) ∧ arg.isSpread = false

/-- One call somewhere in a tree gives way to its first argument; all else stays. -/
inductive Node.UnwrapStep (name : String) : Node → Node → Prop where
  | call {arg : Node} {rest : List Node} : arg.isSpread = false →
      UnwrapStep name (.call (.ident name) (arg :: rest)) arg
  | inside {n p q : Node} {before after : List Node} : n.parts = before ++ p :: after →
      UnwrapStep name p q → UnwrapStep name n (n.refill (before ++ q :: after))

/-- One call somewhere in a module gives way to its first argument; all else stays. -/
def Module.UnwrapStep (name : String) (m m' : Module) : Prop :=
  ∃ ps, StepAmong (Node.UnwrapStep name) m.parts ps ∧ m' = m.refill ps

/-- A meaning of trees that is compositional, so that the meaning of a whole depends on
    the meanings of its parts only, and that gives `name(arg, …)` the meaning of
    `arg`. -/
structure Meaning (name : String) (D : Type u) (E : Type v) where
  node : Node → D
  module : Module → E
  node_refill : ∀ (n : Node) ps, ps.map node = n.parts.map node → node (n.refill ps) = node n
  module_refill : ∀ (m : Module) ps, ps.map node = m.parts.map node →
    module (m.refill ps) = module m
  node_call : ∀ arg rest, arg.isSpread = false →
    node (.call (.ident name) (arg :: rest)) = node arg

variable {name : String}

theorem Meaning.node_of_step {D : Type u} {E : Type v} (meaning : Meaning name D E) {n n' : Node}
    (h : Node.UnwrapStep name n n') : meaning.node n' = meaning.node n := by
  induction h with
  | call harg => exact (meaning.node_call _ _ harg).symm
  | inside hparts _ ih =>
    apply meaning.node_refill
    simp only [hparts, List.map_append, List.map_cons, ih]

theorem Meaning.module_of_step {D : Type u} {E : Type v} (meaning : Meaning name D E)
    (m m' : Module) (h : Module.UnwrapStep name m m') : meaning.module m' = meaning.module m := by
  obtain ⟨ps, ⟨before, p, q, after, hparts, hstep, rfl⟩, rfl⟩ := h
  apply meaning.module_refill
  simp only [hparts, List.map_append, List.map_cons, meaning.node_of_step hstep]

/-! ### The visitor -/

/-- The visitor that unwraps the calls of the named function and counts them. -/
def unwrapper (name : String) : Visitor (StateM Nat) :=
  { node := Node.unwrapIf name, element := pure }

theorem unwrapper_visit (n : Node) : (unwrapper name).visit n = n.unwrapIf name := by
  cases n <;> rfl

theorem Node.firstArg?_eq_some_iff {n arg : Node} :
    n.firstArg? = some arg ↔
      ∃ callee rest, n = .call callee (arg :: rest) ∧ arg.isSpread = false := by
  constructor
  · intro h
    unfold firstArg? at h
    split at h
    · rename_i callee first rest
      split at h
      · cases h
      · rename_i hspread
        obtain rfl := Option.some.inj h
        exact ⟨callee, rest, rfl, Bool.eq_false_iff.mpr hspread⟩
    · cases h
  · rintro ⟨callee, rest, rfl, harg⟩
    simp only [firstArg?, harg, Bool.false_eq_true, if_false]

theorem Shape.isCallOf_call_iff {callee : Node} {args : List Node} :
    (Node.call callee args).shape.isCallOf name = true ↔ callee = .ident name := by
  rw [Node.shape, isCallOf, beq_iff_eq]
  constructor
  · intro h
    unfold calleeName? at h
    split at h
    · rename_i heq
      injection heq with hcallee
      rw [hcallee, Option.some.inj h]
    · cases h
  · rintro rfl
    rfl

/-- **What a visit does.** A call that can be unwrapped gives way to its first argument
    and is counted; any other node stays. -/
theorem Node.unwrapIf_run (name : String) (n : Node) (k : Nat) :
    (∃ arg rest, n = .call (.ident name) (arg :: rest) ∧ arg.isSpread = false ∧
      (n.unwrapIf name).run k = (arg, k + 1)) ∨
    (¬ n.IsUnwrappable name ∧ (n.unwrapIf name).run k = (n, k)) := by
  by_cases hn : n.IsUnwrappable name
  · obtain ⟨arg, rest, rfl, harg⟩ := hn
    refine Or.inl ⟨arg, rest, rfl, harg, ?_⟩
    rw [unwrapIf, if_pos (Shape.isCallOf_call_iff.mpr rfl),
      firstArg?_eq_some_iff.mpr ⟨_, rest, rfl, harg⟩]
    rfl
  · refine Or.inr ⟨hn, ?_⟩
    unfold unwrapIf
    split
    · rename_i hcall
      cases hfirst : n.firstArg? with
      | none => rfl
      | some arg =>
        obtain ⟨callee, rest, rfl, harg⟩ := firstArg?_eq_some_iff.mp hfirst
        obtain rfl := Shape.isCallOf_call_iff.mp hcall
        exact absurd ⟨arg, rest, rfl, harg⟩ hn
    · rfl

/-! ### As many steps as are counted -/

/-- A run goes from tree to tree in as many steps as it adds to the count. -/
def Node.StepsCounted (name : String) (n : Node) (k : Nat) (n' : Node) (k' : Nat) : Prop :=
  ∃ c, k' = k + c ∧ StepsIn (Node.UnwrapStep name) c n n'

theorem stepsIn_of_threaded {ns ns' : List Node} {k k' : Nat}
    (h : Threaded (Node.StepsCounted name) ns k ns' k') :
    ∃ c, k' = k + c ∧ StepsIn (StepAmong (Node.UnwrapStep name)) c ns ns' := by
  induction h with
  | nil => exact ⟨0, rfl, .refl⟩
  | @cons x y xs ys _ _ _ hhead _ ih =>
    obtain ⟨c, rfl, hc⟩ := hhead
    obtain ⟨d, rfl, hd⟩ := ih
    have hfirst : StepsIn (StepAmong (Node.UnwrapStep name)) c (x :: xs) (y :: xs) :=
      hc.map fun _ _ hstep => StepAmong.head xs hstep
    exact ⟨c + d, Nat.add_assoc .., hfirst.trans (hd.map fun _ _ hstep => hstep.cons y)⟩

theorem Node.unwrapStep_refill (n : Node) (ps : List Node)
    (h : StepAmong (Node.UnwrapStep name) n.parts ps) : Node.UnwrapStep name n (n.refill ps) := by
  obtain ⟨before, p, q, after, hparts, hstep, rfl⟩ := h
  exact .inside hparts hstep

/-- The parts make their steps first; the visit adds one if it unwraps the node. -/
theorem Node.stepsCounted_visit (n : Node) (k : Nat) (ps : List Node) (l : Nat)
    (h : Threaded (Node.StepsCounted name) n.parts k ps l) :
    Node.StepsCounted name n k (((unwrapper name).visit (n.refill ps)).run l).1
      (((unwrapper name).visit (n.refill ps)).run l).2 := by
  obtain ⟨c, rfl, hc⟩ := stepsIn_of_threaded h
  have hparts : StepsIn (Node.UnwrapStep name) c n (n.refill ps) :=
    Node.view.stepsIn_refill Node.unwrapStep_refill rfl hc
  rw [unwrapper_visit]
  rcases (n.refill ps).unwrapIf_run name (k + c) with
    ⟨arg, rest, heq, harg, hrun⟩ | ⟨_, hrun⟩
  · rw [hrun]
    rw [heq] at hparts
    exact ⟨c + 1, Nat.add_assoc .., .tail hparts (.call harg)⟩
  · rw [hrun]
    exact ⟨c, rfl, hparts⟩

theorem Module.unwrapCallsOf_eq (m : Module) (hname : name ≠ "") :
    m.unwrapCallsOf name = (m.walk (unwrapper name)).run 0 := if_neg hname

theorem Module.stepsIn_unwrapCallsOf (m : Module) (name : String) :
    StepsIn (Module.UnwrapStep name) (m.unwrapCallsOf name).2 m (m.unwrapCallsOf name).1 := by
  by_cases hname : name = ""
  · rw [Module.unwrapCallsOf, if_pos hname]
    exact .refl
  · obtain ⟨ps, k, hthread, hrun⟩ :=
      Module.walk_run_induction (unwrapper name) Node.stepsCounted_visit m 0
    obtain ⟨c, rfl, hc⟩ := stepsIn_of_threaded hthread
    rw [Module.unwrapCallsOf_eq m hname, hrun, Nat.zero_add]
    exact Module.view.stepsIn_refill (fun _ ps hps => ⟨ps, hps, rfl⟩) rfl hc

theorem Meaning.module_unwrapCallsOf {D : Type u} {E : Type v} (meaning : Meaning name D E)
    (m : Module) : meaning.module (m.unwrapCallsOf name).1 = meaning.module m :=
  (m.stepsIn_unwrapCallsOf name).invariant meaning.module_of_step

/-- **Unwrapping is sound, and its count exact.** The unwrapped module is reached in
    exactly as many single steps as are counted; a count of zero means that nothing
    has changed; and no compositional meaning that gives a call the meaning of its first
    argument tells the two modules apart. -/
theorem Module.unwrapCallsOf_sound (m : Module) (name : String) :
    StepsIn (Module.UnwrapStep name) (m.unwrapCallsOf name).2 m (m.unwrapCallsOf name).1 ∧
    ((m.unwrapCallsOf name).2 = 0 → (m.unwrapCallsOf name).1 = m) ∧
    ∀ (D : Type u) (E : Type v) (meaning : Meaning name D E),
      meaning.module (m.unwrapCallsOf name).1 = meaning.module m := by
  have hsteps := m.stepsIn_unwrapCallsOf name
  refine ⟨hsteps, ?_, ?_⟩
  · intro hzero
    rw [hzero] at hsteps
    exact hsteps.eq_of_zero
  · intro D E meaning
    exact meaning.module_unwrapCallsOf m

/-! ### No call left -/

/-- Nothing in the tree can be unwrapped any more. -/
def Node.Unwrapped (name : String) (n : Node) : Prop :=
  ∀ x : Node, x.Within n → ¬ x.IsUnwrappable name

theorem Node.Unwrapped.of_mem_parts {n p : Node} (h : n.Unwrapped name) (hp : p ∈ n.parts) :
    p.Unwrapped name := fun x hx => h x (.part hp hx)

theorem Node.unwrapped_of_parts {n : Node} (hself : ¬ n.IsUnwrappable name)
    (hparts : ∀ p ∈ n.parts, p.Unwrapped name) : n.Unwrapped name := by
  intro x hx
  cases hx with
  | self => exact hself
  | part hp hxp => exact hparts _ hp x hxp

theorem unwrapped_of_threaded {ns ns' : List Node} {k k' : Nat}
    (h : Threaded (fun _ _ n' _ => n'.Unwrapped name) ns k ns' k') :
    ∀ n' ∈ ns', n'.Unwrapped name := by
  induction h with
  | nil => intro n' hn'; cases hn'
  | cons hhead _ ih =>
    intro n' hn'
    rcases List.mem_cons.mp hn' with rfl | htail
    · exact hhead
    · exact ih n' htail

/-- The visit leaves no call to unwrap where its parts have none. A call that is unwrapped
    leaves one of these parts, so no new call can show up below it. -/
theorem Node.unwrapped_visit (n : Node) (k : Nat) (ps : List Node) (l : Nat)
    (h : Threaded (fun _ _ n' _ => n'.Unwrapped name) n.parts k ps l) :
    (((unwrapper name).visit (n.refill ps)).run l).1.Unwrapped name := by
  have hps := unwrapped_of_threaded h
  have hparts : (n.refill ps).parts = ps := n.parts_refill ps h.length_eq
  rw [unwrapper_visit]
  rcases (n.refill ps).unwrapIf_run name l with ⟨arg, rest, heq, _, hrun⟩ | ⟨hself, hrun⟩
  · rw [hrun]
    apply hps
    rw [← hparts, heq]
    exact List.mem_cons_of_mem _ List.mem_cons_self
  · rw [hrun]
    refine Node.unwrapped_of_parts hself ?_
    rw [hparts]
    exact hps

theorem Module.unwrapped_unwrapCallsOf (m : Module) (hname : name ≠ "") :
    ∀ p ∈ (m.unwrapCallsOf name).1.parts, p.Unwrapped name := by
  obtain ⟨ps, k, hthread, hrun⟩ :=
    Module.walk_run_induction (unwrapper name) Node.unwrapped_visit m 0
  rw [Module.unwrapCallsOf_eq m hname, hrun, m.parts_refill ps hthread.length_eq]
  exact unwrapped_of_threaded hthread

/-! ### Nothing to do -/

/-- A tree with nothing to unwrap stays, and nothing is counted. -/
def Node.Stays (name : String) (n : Node) (k : Nat) (n' : Node) (k' : Nat) : Prop :=
  n.Unwrapped name → n' = n ∧ k' = k

theorem stays_of_threaded {ns ns' : List Node} {k k' : Nat}
    (h : Threaded (Node.Stays name) ns k ns' k') (hns : ∀ n ∈ ns, n.Unwrapped name) :
    ns' = ns ∧ k' = k := by
  induction h with
  | nil => exact ⟨rfl, rfl⟩
  | cons hhead _ ih =>
    obtain ⟨rfl, rfl⟩ := hhead (hns _ List.mem_cons_self)
    obtain ⟨rfl, rfl⟩ := ih fun n hn => hns n (List.mem_cons_of_mem _ hn)
    exact ⟨rfl, rfl⟩

theorem Node.stays_visit (n : Node) (k : Nat) (ps : List Node) (l : Nat)
    (h : Threaded (Node.Stays name) n.parts k ps l) :
    Node.Stays name n k (((unwrapper name).visit (n.refill ps)).run l).1
      (((unwrapper name).visit (n.refill ps)).run l).2 := by
  intro hn
  obtain ⟨rfl, rfl⟩ := stays_of_threaded h fun p hp => hn.of_mem_parts hp
  rw [unwrapper_visit, n.refill_parts]
  rcases n.unwrapIf_run name l with ⟨arg, rest, heq, harg, _⟩ | ⟨_, hrun⟩
  · exact absurd ⟨arg, rest, heq, harg⟩ (hn n .self)
  · rw [hrun]
    exact ⟨rfl, rfl⟩

theorem Module.unwrapCallsOf_of_unwrapped (m : Module) (h : ∀ p ∈ m.parts, p.Unwrapped name) :
    m.unwrapCallsOf name = (m, 0) := by
  by_cases hname : name = ""
  · exact if_pos hname
  · obtain ⟨ps, k, hthread, hrun⟩ :=
      Module.walk_run_induction (unwrapper name) Node.stays_visit m 0
    obtain ⟨rfl, rfl⟩ := stays_of_threaded hthread h
    rw [Module.unwrapCallsOf_eq m hname, hrun, m.refill_parts]

/-- **Unwrapping is complete.** Nowhere in the unwrapped module is there a call that could
    be unwrapped, so unwrapping it once more changes nothing and counts nothing. -/
theorem Module.unwrapCallsOf_complete (m : Module) (name : String) (hname : name ≠ "") :
    (∀ x : Node, (m.unwrapCallsOf name).1.Contains x → ¬ x.IsUnwrappable name) ∧
    (m.unwrapCallsOf name).1.unwrapCallsOf name = ((m.unwrapCallsOf name).1, 0) := by
  have hparts := m.unwrapped_unwrapCallsOf hname
  refine ⟨?_, Module.unwrapCallsOf_of_unwrapped _ hparts⟩
  rintro x ⟨p, hp, hx⟩
  exact hparts p hp x hx

/-- `f(f)(x, f(y)); (f(...xs));`: the inner call makes the outer one a call of `f`, and the
    call with a spread argument stays. -/
theorem Module.unwrapCallsOf_complete_curried :
    let m : Module :=
      ⟨[.node (.other .expressionStatement [] [.call (.call (.ident "f") [.ident "f"])
          [.ident "x", .call (.ident "f") [.ident "y"]]]),
        .node (.other .expressionStatement []
          [.paren (.call (.ident "f") [.spread (.ident "xs")])])]⟩
    (m.unwrapCallsOf "f").2 = 3 ∧
    (∀ x : Node, (m.unwrapCallsOf "f").1.Contains x → ¬ x.IsUnwrappable "f") ∧
    (m.unwrapCallsOf "f").1.unwrapCallsOf "f" = ((m.unwrapCallsOf "f").1, 0) := by
  intro m
  exact ⟨by decide, Module.unwrapCallsOf_complete m "f" (by decide)⟩

/-! ### The unwrapped form as a meaning -/

/-- The first argument in the place of a call that can be unwrapped, and any other node as it
    is. -/
def Node.unwrapSelf (name : String) (n : Node) : Node :=
  match n with
  | .call (.ident callee) (arg :: _) => if callee = name ∧ arg.isSpread = false then arg else n
  | _ => n

/-- The tree with every call unwrapped, its parts first. -/
def Node.unwrappedForm (name : String) (n : Node) : Node :=
  (n.refill (n.parts.attach.map fun ⟨p, _⟩ => p.unwrappedForm name)).unwrapSelf name
termination_by n
decreasing_by exact Node.sizeOf_lt_of_mem_parts ‹_›

def Module.unwrappedForm (name : String) (m : Module) : Module :=
  m.refill (m.parts.map (Node.unwrappedForm name))

theorem Node.unwrapSelf_call {arg : Node} (rest : List Node) (h : arg.isSpread = false) :
    (Node.call (.ident name) (arg :: rest)).unwrapSelf name = arg :=
  if_pos ⟨rfl, h⟩

theorem Node.unwrapSelf_of_not_isUnwrappable {n : Node} (h : ¬ n.IsUnwrappable name) :
    n.unwrapSelf name = n := by
  unfold unwrapSelf
  split
  · rename_i callee arg rest
    rw [if_neg]
    rintro ⟨rfl, harg⟩
    exact h ⟨arg, rest, rfl, harg⟩
  · rfl

theorem Node.fst_unwrapIf_run (n : Node) (k : Nat) :
    ((n.unwrapIf name).run k).1 = n.unwrapSelf name := by
  rcases n.unwrapIf_run name k with ⟨arg, rest, rfl, harg, hrun⟩ | ⟨hself, hrun⟩
  · rw [hrun, Node.unwrapSelf_call rest harg]
  · rw [hrun, Node.unwrapSelf_of_not_isUnwrappable hself]

theorem Node.unwrappedForm_eq (n : Node) :
    n.unwrappedForm name =
      (n.refill (n.parts.map (Node.unwrappedForm name))).unwrapSelf name := by
  rw [Node.unwrappedForm, List.map_attach_eq_pmap, List.pmap_eq_map]

theorem Node.isSpread_refill (n : Node) (ps : List Node) :
    (n.refill ps).isSpread = n.isSpread := by
  unfold refill
  split <;> rfl

/-- A node that is not spread has no spread form: what takes the place of a call is not spread
    either. -/
theorem Node.isSpread_unwrappedForm {n : Node} (h : n.isSpread = false) :
    (n.unwrappedForm name).isSpread = false := by
  rw [Node.unwrappedForm_eq]
  by_cases hself : (n.refill (n.parts.map (Node.unwrappedForm name))).IsUnwrappable name
  · obtain ⟨arg, rest, heq, harg⟩ := hself
    rw [heq, Node.unwrapSelf_call rest harg]
    exact harg
  · rw [Node.unwrapSelf_of_not_isUnwrappable hself, Node.isSpread_refill]
    exact h

/-- Parts that `f` takes to the same results give the same whole once `f` is applied. -/
theorem PartView.refill_map_refill {α : Type} (view : PartView α) (f : Node → Node) (x : α)
    (ps : List Node) (h : ps.map f = (view.parts x).map f) :
    view.refill (view.refill x ps) ((view.parts (view.refill x ps)).map f) =
      view.refill x ((view.parts x).map f) := by
  have hlength : ps.length = (view.parts x).length := by simpa using congrArg List.length h
  rw [view.parts_refill x ps hlength, h, view.refill_refill x _ _ hlength (List.length_map _)]

/-- The unwrapped form is compositional, and a call has the form of its first argument. -/
def Meaning.unwrappedForm (name : String) : Meaning name Node Module where
  node := Node.unwrappedForm name
  module := Module.unwrappedForm name
  node_refill := by
    intro n ps hps
    have hparts := Node.view.refill_map_refill (Node.unwrappedForm name) n ps hps
    rw [Node.unwrappedForm_eq, Node.unwrappedForm_eq n]
    exact congrArg (Node.unwrapSelf name) hparts
  module_refill := Module.view.refill_map_refill (Node.unwrappedForm name)
  node_call := by
    intro arg rest harg
    have hident : (Node.ident name).unwrappedForm name = .ident name := Node.unwrappedForm_eq _
    rw [Node.unwrappedForm_eq]
    simp only [Node.parts, List.map_cons, hident, Node.refill]
    exact Node.unwrapSelf_call _ (Node.isSpread_unwrappedForm harg)

theorem unwrappedForms_of_threaded {ns ns' : List Node} {k k' : Nat}
    (h : Threaded (fun n _ n' _ => n' = n.unwrappedForm name) ns k ns' k') :
    ns' = ns.map (Node.unwrappedForm name) := by
  induction h with
  | nil => rfl
  | cons hhead _ ih => rw [List.map_cons, hhead, ih]

theorem Node.unwrappedForm_visit (n : Node) (k : Nat) (ps : List Node) (l : Nat)
    (h : Threaded (fun n _ n' _ => n' = n.unwrappedForm name) n.parts k ps l) :
    (((unwrapper name).visit (n.refill ps)).run l).1 = n.unwrappedForm name := by
  rw [unwrappedForms_of_threaded h, unwrapper_visit, Node.fst_unwrapIf_run,
    ← Node.unwrappedForm_eq]

theorem Module.fst_unwrapCallsOf (m : Module) (hname : name ≠ "") :
    (m.unwrapCallsOf name).1 = m.unwrappedForm name := by
  obtain ⟨ps, k, hthread, hrun⟩ :=
    Module.walk_run_induction (unwrapper name) Node.unwrappedForm_visit m 0
  rw [Module.unwrapCallsOf_eq m hname, hrun, unwrappedForms_of_threaded hthread,
    Module.unwrappedForm]

/-- **Unwrapping decides whether two modules mean the same.** They are unwrapped to one module
    exactly if every compositional meaning that gives a call the meaning of its first argument
    agrees on them. -/
theorem Module.unwrapCallsOf_eq_iff_meaning (m m' : Module) (hname : name ≠ "") :
    (m.unwrapCallsOf name).1 = (m'.unwrapCallsOf name).1 ↔
      ∀ (D E : Type) (meaning : Meaning name D E), meaning.module m = meaning.module m' := by
  constructor
  · intro heq D E meaning
    rw [← meaning.module_unwrapCallsOf m, heq, meaning.module_unwrapCallsOf]
  · intro hsame
    rw [m.fst_unwrapCallsOf hname, m'.fst_unwrapCallsOf hname]
    exact hsame Node Module (Meaning.unwrappedForm name)

end JsxEdit
