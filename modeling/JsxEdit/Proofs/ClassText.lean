import JsxEdit.Proofs.ClassForm
import JsxEdit.Proofs.Words

/-!
  **Adding class names adds words to the class text.**

  The forms of `className` differ, but all of them stand for a text once each expression
  in them has one. `Element.classText` is this text, for any choice of the texts of
  expressions. Adding class names may change the form: a literal in braces comes out
  bare, and an expression goes into a template. The words of the class text never
  notice: the new names join them at one end, and over any run of additions what was
  prepended stands in front, the latest first, and what was appended at the back.
-/

namespace JsxEdit

open ClassName

/-! ### The class text -/

/-- One more text than expressions, as in every template that is written down. -/
def Template.Balanced (t : Template) : Prop := t.quasis.length = t.exprs.length + 1

namespace ClassName

variable (textOf : Node → String)

/-- Texts with the texts of expressions between them; there is one more of the first. -/
def interleave : List Quasi → List Node → String
  | q :: quasis, e :: exprs => q.raw ++ textOf e ++ interleave quasis exprs
  | [q], [] => q.raw
  | _, _ => ""

def templateText (t : Template) : String := interleave textOf t.quasis t.exprs

/-- An argument of a helper call: a string stands for itself, and all else, a spread
    argument included, has the text that is chosen for it. -/
def argText : Node → String
  | .literal (.str l) => l.value
  | arg => textOf arg

def callText (args : List Node) : String := " ".intercalate (args.map (argText textOf))

/-- The class text of a value of the given form. -/
def valueText (form : Form) (value : Option Node) : String :=
  match form, value with
  | .literal, some (.literal l) => literalText l
  | .literalExpression, some (.braces (.literal l)) => literalText l
  | .templateLiteral, some (.braces (.template t)) => templateText textOf t
  | .classNamesCall, some (.braces (.call _ args)) => callText textOf args
  | .expression, some (.braces e) => textOf e
  | _, _ => ""

end ClassName

/-- The text that the first `className` of an element stands for, when each expression
    has the text that `textOf` gives it. -/
def Element.classText (textOf : Node → String) (e : Element) : String :=
  match e.className? with
  | none => ""
  | some a => valueText textOf a.classNameForm a.value

/-- A template in the first `className` of the element is balanced. -/
def Element.BalancedClassName (e : Element) : Prop :=
  ∀ a t, e.className? = some a → a.value = some (.braces (.template t)) → t.Balanced

/-! ### Each form -/

namespace ClassName

variable {textOf : Node → String}

theorem interleave_appendToLast (names : String) (quasis : List Quasi) (exprs : List Node)
    (h : quasis.length = exprs.length + 1) :
    interleave textOf (appendToLast names quasis) exprs =
      interleave textOf quasis exprs ++ " " ++ names := by
  induction quasis generalizing exprs with
  | nil => cases h
  | cons q rest ih =>
    cases exprs with
    | nil =>
      obtain rfl : rest = [] := List.eq_nil_of_length_eq_zero (Nat.succ.inj h)
      rfl
    | cons e exprs =>
      cases rest with
      | nil => cases h
      | cons q' rest =>
        have hrest : appendToLast names (q :: q' :: rest) = q :: appendToLast names (q' :: rest) :=
          rfl
        rw [hrest, interleave, ih exprs (Nat.succ.inj h), interleave]
        simp only [String.append_assoc]

theorem interleave_prependToFirst (names : String) (quasis : List Quasi) (exprs : List Node)
    (h : quasis.length = exprs.length + 1) :
    interleave textOf (prependToFirst names quasis) exprs =
      names ++ " " ++ interleave textOf quasis exprs := by
  cases quasis with
  | nil => cases h
  | cons q rest =>
    cases exprs with
    | nil =>
      obtain rfl : rest = [] := List.eq_nil_of_length_eq_zero (Nat.succ.inj h)
      rfl
    | cons e exprs =>
      simp only [prependToFirst, interleave, Quasi.make, String.append_assoc]

theorem words_extendTemplate {t : Template} (ht : t.Balanced) (names : String) (mode : Mode) :
    Text.words (templateText textOf (extendTemplate t names mode)) =
      mode.join (Text.words (templateText textOf t)) (Text.words names) := by
  cases mode with
  | append =>
    rw [templateText, extendTemplate, interleave_appendToLast names _ _ ht,
      Text.words_append_space]
    rfl
  | prepend =>
    rw [templateText, extendTemplate, interleave_prependToFirst names _ _ ht,
      Text.words_append_space]
    rfl

theorem balanced_extendTemplate {t : Template} (ht : t.Balanced) (names : String) (mode : Mode) :
    (extendTemplate t names mode).Balanced := by
  cases mode with
  | append => exact (length_appendToLast names t.quasis).trans ht
  | prepend => exact (length_prependToFirst names t.quasis).trans ht

theorem words_wrapExpr (e : Node) (names : String) (mode : Mode) :
    Text.words (templateText textOf (wrapExpr e names mode)) =
      mode.join (Text.words (textOf e)) (Text.words names) := by
  cases mode with
  | append =>
    have htext : templateText textOf (wrapExpr e names .append) = textOf e ++ " " ++ names := by
      simp only [templateText, wrapExpr, interleave, Quasi.make, String.empty_append,
        String.append_assoc]
    rw [htext, Text.words_append_space, Mode.join]
  | prepend =>
    have htext : templateText textOf (wrapExpr e names .prepend) = names ++ " " ++ textOf e := by
      simp only [templateText, wrapExpr, interleave, Quasi.make, String.append_empty]
    rw [htext, Text.words_append_space, Mode.join]

theorem balanced_wrapExpr (e : Node) (names : String) (mode : Mode) :
    (wrapExpr e names mode).Balanced := by
  cases mode <;> rfl

/-- A helper call joins the words of its arguments. -/
theorem words_callText (args : List Node) :
    Text.words (callText textOf args) =
      args.flatMap fun arg => Text.words (argText textOf arg) := by
  rw [callText, Text.words_intercalate_space, List.flatMap_map]

theorem words_extendArgs (args : List Node) (names : String) (mode : Mode) :
    Text.words (callText textOf (extendArgs args names mode)) =
      mode.join (Text.words (callText textOf args)) (Text.words names) := by
  cases mode with
  | append =>
    rw [words_callText, words_callText, extendArgs, List.flatMap_append, List.flatMap_singleton]
    rfl
  | prepend =>
    rw [words_callText, words_callText, extendArgs, List.flatMap_cons]
    rfl

/-- In every form the words of the class text are joined by those of the new names. -/
theorem Written.words_extend {value : Option Node} {form : Form} (hwritten : Written value form)
    (hbalanced : ∀ t, value = some (.braces (.template t)) → t.Balanced) (names : String)
    (mode : Mode) :
    Text.words (valueText textOf form.afterAddition (extend names mode form value)) =
      mode.join (Text.words (valueText textOf form value)) (Text.words names) := by
  cases hwritten with
  | literal _ => exact words_merge _ names mode
  | literalExpression => exact words_merge _ names mode
  | template _ => exact words_extendTemplate (hbalanced _ rfl) names mode
  | helperCall _ => exact words_extendArgs _ names mode
  | expression => exact words_wrapExpr _ names mode

theorem Written.balanced_extend {value : Option Node} {form : Form} (hwritten : Written value form)
    (hbalanced : ∀ t, value = some (.braces (.template t)) → t.Balanced) {names : String}
    {mode : Mode} {t : Template}
    (ht : extend names mode form value = some (.braces (.template t))) : t.Balanced := by
  cases hwritten with
  | literal _ => cases ht
  | literalExpression => cases ht
  | template _ =>
    cases ht
    exact balanced_extendTemplate (hbalanced _ rfl) names mode
  | helperCall _ => cases ht
  | expression =>
    cases ht
    exact balanced_wrapExpr _ names mode

end ClassName

/-! ### One addition -/

/-- The element has a class text, and stays so: its `className`, if it has one, is of a form
    that class names can be added to. -/
structure Element.HasClassText (e : Element) : Prop where
  recognized : e.classNameForm ≠ .unrecognized
  balanced : e.BalancedClassName

namespace Element

variable {e : Element} {names : String} {mode : Mode} {textOf : Node → String}

theorem classText_of_some {a : Attr} (h : e.className? = some a) :
    e.classText textOf = valueText textOf a.classNameForm a.value := by
  rw [classText, h]

theorem classText_of_none (h : e.className? = none) : e.classText textOf = "" := by
  rw [classText, h]

theorem HasClassText.written (h : e.HasClassText) {a : Attr} (ha : e.className? = some a) :
    Written a.value a.classNameForm := by
  apply Attr.written_classNameForm
  rw [← classNameForm_of_some ha]
  exact h.recognized

theorem HasClassText.resolveClassName (h : e.HasClassText)
    (hnames : Text.isAllBlank names = false) : (e.resolveClassName names mode).HasClassText := by
  cases ha : e.className? with
  | none =>
    have hne : names ≠ "" := Text.ne_empty_of_isAllBlank_eq_false hnames
    have hfound := className?_resolveClassName_of_none names mode ha hne
    refine ⟨?_, ?_⟩
    · rw [classNameForm_of_some hfound, Attr.classNameForm_of_literal rfl hne]
      exact nofun
    · intro b t hb ht
      rw [hfound, Option.some.injEq] at hb
      subst hb
      cases ht
  | some a =>
    have hfound := className?_resolveClassName_of_some names mode ha
    have hwritten := h.written ha
    refine ⟨?_, ?_⟩
    · rw [classNameForm_of_some hfound, hwritten.classNameForm_extend hnames rfl]
      exact hwritten.afterAddition_ne
    · intro b t hb ht
      rw [hfound, Option.some.injEq] at hb
      subst hb
      exact hwritten.balanced_extend (fun t ht => h.balanced a t ha ht) ht

/-- **One addition.** The words of the new names join the words of the class text at the
    end that is asked for. -/
theorem words_classText_resolveClassName (h : e.HasClassText)
    (hnames : Text.isAllBlank names = false) :
    Text.words ((e.resolveClassName names mode).classText textOf) =
      mode.join (Text.words (e.classText textOf)) (Text.words names) := by
  cases ha : e.className? with
  | none =>
    have hne : names ≠ "" := Text.ne_empty_of_isAllBlank_eq_false hnames
    have hfound := className?_resolveClassName_of_none names mode ha hne
    rw [classText_of_some hfound, classText_of_none ha, Attr.classNameForm_of_literal rfl hne,
      Text.words_empty]
    cases mode with
    | append => rfl
    | prepend => exact (List.append_nil _).symm
  | some a =>
    have hfound := className?_resolveClassName_of_some names mode ha
    have hwritten := h.written ha
    rw [classText_of_some hfound, classText_of_some ha, hwritten.classNameForm_extend hnames rfl]
    exact hwritten.words_extend (fun t ht => h.balanced a t ha ht) names mode

end Element

/-! ### Runs -/

/-- One addition after the other. -/
def Element.resolveClassNames (e : Element) (additions : List (String × Mode)) : Element :=
  additions.foldl (fun e (names, mode) => e.resolveClassName names mode) e

/-- The names that are added at the given end, in the order of the additions. -/
def namesAt (mode : Mode) (additions : List (String × Mode)) : List String :=
  (additions.filter (·.2 = mode)).map Prod.fst

/-- **The class text over a run of additions.** Its words are those that were prepended, the
    latest addition first, then those that were there, then those that were appended in
    the order of the additions. -/
theorem Element.words_classText_resolveClassNames (textOf : Node → String) (e : Element)
    (additions : List (String × Mode)) (hform : e.classNameForm ≠ .unrecognized)
    (hbalanced : e.BalancedClassName)
    (hnames : ∀ addition ∈ additions, Text.isAllBlank addition.1 = false) :
    Text.words ((e.resolveClassNames additions).classText textOf) =
      (namesAt .prepend additions).reverse.flatMap Text.words ++
        Text.words (e.classText textOf) ++ (namesAt .append additions).flatMap Text.words := by
  have h : e.HasClassText := ⟨hform, hbalanced⟩
  clear hform hbalanced
  induction additions generalizing e with
  | nil => simp only [resolveClassNames, List.foldl_nil, namesAt, List.filter_nil, List.map_nil,
      List.reverse_nil, List.flatMap_nil, List.nil_append, List.append_nil]
  | cons addition additions ih =>
    obtain ⟨names, mode⟩ := addition
    have hfirst : Text.isAllBlank names = false := hnames _ List.mem_cons_self
    have hrest := ih (e.resolveClassName names mode)
      (fun addition h => hnames addition (List.mem_cons_of_mem _ h)) (h.resolveClassName hfirst)
    rw [words_classText_resolveClassName h hfirst] at hrest
    rw [resolveClassNames, List.foldl_cons, ← resolveClassNames, hrest]
    cases mode with
    | append =>
      simp [namesAt, Mode.join]
    | prepend =>
      simp [namesAt, Mode.join]

/-- A template whose expression has two words, extended at both ends. -/
theorem Element.words_classText_resolveClassNames_template :
    let e : Element :=
      { tag := .ident "div"
        attrs := [.attr ⟨.plain "className",
          some (.braces (.template ⟨[.ident "x"], [.make "a " false, .make "" true]⟩))⟩]
        selfClosing := true, children := [], closing := none }
    let additions := [("b", Mode.append), (" c d", Mode.prepend), ("e", Mode.prepend)]
    Text.words ((e.resolveClassNames additions).classText fun _ => "x1 x2") =
      ["e", "c", "d", "a", "x1", "x2", "b"] := by
  intro e additions
  have hform : e.classNameForm ≠ .unrecognized := by decide
  have hbalanced : e.BalancedClassName := by
    intro a t ha ht
    obtain rfl := Option.some.inj ha
    cases ht
    rfl
  have hnames : ∀ addition ∈ additions, Text.isAllBlank addition.1 = false := by decide
  rw [Element.words_classText_resolveClassNames _ e additions hform hbalanced hnames]
  decide

end JsxEdit
