import JsxEdit.Proofs.Unwrap

/-!
  **The query for calls and the rewriting of calls.**

  Whether a node is a call of some function is asked of its shape, and the shape is that of what
  stands inside parentheses, however many there are. A call is unwrapped where it stands: the
  rewrite goes by the node itself. So the query also recognises nodes that the rewrite leaves
  alone, `(f(x))` for one.

  `Node.Shows` has a constructor for each thing that a query looks through. In its terms the query
  and the rewrite agree on a node if and only if the node is the recognised call, and not
  something around it. The walk over a module makes up for the difference, as it comes to every
  call by itself: in what it leaves, the query finds no call that could be unwrapped.
-/

namespace JsxEdit

namespace Node

variable {n core arg : Node}

/-! ### What a query looks at -/

/-- A query about the first node looks at the second one, which is the first one itself or stands
    inside it with nothing but parentheses around, or the statement that it makes. -/
inductive Shows : Node → Node → Prop where
  | self {n : Node} : Shows n n
  | paren {inner core : Node} : Shows inner core → Shows (.paren inner) core
  | statement {details : List (String × Detail)} {inner core : Node} : Shows inner core →
      Shows (.other .expressionStatement details [inner]) core

theorem Shows.shape_eq (h : n.Shows core) : n.shape = core.shape := by
  induction h with
  | self => rfl
  | paren _ ih => rw [shape, ih]
  | statement _ ih => rw [shape, ih]

theorem Shows.within (h : n.Shows core) : core.Within n := by
  induction h with
  | self => exact .self
  | paren _ ih => exact .part List.mem_cons_self ih
  | statement _ ih => exact .part List.mem_cons_self ih

/-- A node has the shape of a call exactly if a query about it looks at this call. -/
theorem shape_eq_call_iff {callee : Node} {args : List Node} :
    n.shape = .callExpression callee args ↔ n.Shows (.call callee args) := by
  constructor
  · intro hshape
    -- calls, parentheses and statements; no other node has the shape
    fun_induction shape n with
    | case4 =>
      injection hshape with hcallee hargs
      rw [hcallee, hargs]
      exact .self
    | case7 inner ih => exact .paren (ih hshape)
    | case14 details inner ih => exact .statement (ih hshape)
    | _ => cases hshape
  · intro hshows
    rw [hshows.shape_eq]
    rfl

theorem callee_of_isCallOf {name : String} {callee : Node} {args : List Node}
    (hcall : n.shape.isCallOf name = true) (hshape : n.shape = .callExpression callee args) :
    callee = .ident name := by
  rw [hshape] at hcall
  exact Shape.isCallOf_call_iff.mp hcall

/-! ### What the rewrite does -/

theorem unwrapCall_eq_true_iff : n.unwrapCall = (arg, true) ↔ n.firstArg? = some arg := by
  unfold unwrapCall
  cases n.firstArg? with
  | none => simp
  | some first => simp

theorem unwrapCall_of_firstArg?_eq_none (h : n.firstArg? = none) : n.unwrapCall = (n, false) := by
  rw [unwrapCall, h]

/-- A rewrite that says it did nothing has done nothing. -/
theorem fst_unwrapCall_of_eq_false (h : n.unwrapCall.2 = false) : n.unwrapCall.1 = n := by
  cases hfirst : n.firstArg? with
  | none => rw [unwrapCall_of_firstArg?_eq_none hfirst]
  | some arg =>
    rw [unwrapCall_eq_true_iff.mpr hfirst] at h
    cases h

/-- What stands around a call has no arguments of its own. -/
theorem Shows.firstArg?_eq_none (h : n.Shows core) (hne : n ≠ core) : n.firstArg? = none := by
  cases h with
  | self => exact absurd rfl hne
  | paren _ => rfl
  | statement _ => rfl

/-- **The query and the rewrite.** Where the query recognises a call whose first argument is not
    spread, the rewrite replaces this call by the argument. Handed the node that the query was
    asked about, it does so if and only if the node is the call itself; on parentheses around the
    call it does nothing. And whenever it says that it did nothing, the node is what it was. -/
theorem unwrapCall_agrees_iff (n : Node) :
    (∀ name callee arg rest, n.shape.isCallOf name = true →
      n.shape = .callExpression callee (arg :: rest) → arg.isSpread = false →
      callee = .ident name ∧ n.Shows (.call callee (arg :: rest)) ∧
      (Node.call callee (arg :: rest)).unwrapCall = (arg, true) ∧
      (n.unwrapCall = (arg, true) ↔ n = .call callee (arg :: rest)) ∧
      (n ≠ .call callee (arg :: rest) → n.unwrapCall = (n, false))) ∧
    (n.unwrapCall.2 = false → n.unwrapCall.1 = n) := by
  refine ⟨?_, fst_unwrapCall_of_eq_false⟩
  intro name callee arg rest hcall hshape harg
  have hshows : n.Shows (.call callee (arg :: rest)) := shape_eq_call_iff.mp hshape
  have hunwrap : (Node.call callee (arg :: rest)).unwrapCall = (arg, true) :=
    unwrapCall_eq_true_iff.mpr (firstArg?_eq_some_iff.mpr ⟨callee, rest, rfl, harg⟩)
  have haround : n ≠ .call callee (arg :: rest) → n.unwrapCall = (n, false) := by
    intro hne
    exact unwrapCall_of_firstArg?_eq_none (hshows.firstArg?_eq_none hne)
  refine ⟨callee_of_isCallOf hcall hshape, hshows, hunwrap, ?_, haround⟩
  constructor
  · intro hdone
    by_contra hne
    rw [haround hne] at hdone
    cases hdone
  · rintro rfl
    exact hunwrap

/-- `((f(x, ...xs)))` is recognised as a call of `f` and stays; the call inside gives way to `x`. -/
theorem unwrapCall_agrees_iff_nested :
    let call : Node := .call (.ident "f") [.ident "x", .spread (.ident "xs")]
    let n : Node := .paren (.paren call)
    n.shape.isCallOf "f" = true ∧
      n.shape = .callExpression (.ident "f") [.ident "x", .spread (.ident "xs")] ∧
      call.unwrapCall = (.ident "x", true) ∧ n.unwrapCall = (n, false) := by
  intro call n
  have hcall : n.shape.isCallOf "f" = true := by decide
  obtain ⟨-, -, hunwrap, -, haround⟩ :=
    (unwrapCall_agrees_iff n).1 "f" (.ident "f") (.ident "x") [.spread (.ident "xs")] hcall rfl rfl
  exact ⟨hcall, rfl, hunwrap, haround nofun⟩

/-- `(f(x))` is recognised as a call of `f` with `x` as its first argument, and is left alone. -/
theorem not_unwrapCall_parenthesized :
    ¬ ∀ (n : Node) (name : String) (callee arg : Node) (rest : List Node),
      n.shape.isCallOf name = true → n.shape = .callExpression callee (arg :: rest) →
      arg.isSpread = false → n.unwrapCall = (arg, true) := by
  intro hagree
  have hunwrap := hagree (.paren (.call (.ident "f") [.ident "x"])) "f" (.ident "f") (.ident "x") []
    (by decide) rfl rfl
  cases hunwrap

end Node

/-! ### What the walk leaves -/

/-- In an unwrapped module the query recognises no call that could be unwrapped, in parentheses or
    not: if there is a first argument, it is spread. -/
theorem Module.isSpread_of_isCallOf_unwrapCallsOf {m : Module} {name : String} (hname : name ≠ "")
    {x callee arg : Node} {rest : List Node} (hx : (m.unwrapCallsOf name).1.Contains x)
    (hcall : x.shape.isCallOf name = true)
    (hshape : x.shape = .callExpression callee (arg :: rest)) : arg.isSpread = true := by
  have hshows : x.Shows (.call callee (arg :: rest)) := Node.shape_eq_call_iff.mp hshape
  obtain rfl : callee = .ident name := Node.callee_of_isCallOf hcall hshape
  obtain ⟨p, hp, hxp⟩ := hx
  by_contra hplain
  apply m.unwrapped_unwrapCallsOf hname p hp _ (hshows.within.trans hxp)
  exact ⟨arg, rest, rfl, Bool.eq_false_iff.mpr hplain⟩

end JsxEdit
