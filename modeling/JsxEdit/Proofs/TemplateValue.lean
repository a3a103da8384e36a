import JsxEdit.Proofs.ClassTemplate

/-!
  **What a `className` template evaluates to, when class names are added.**

  A template keeps each of its texts in two forms, as it is written and as what it means. The
  two differ as soon as the text has an escape. The template evaluates to what its texts mean,
  with the values of its expressions between them.

  Adding class names takes the written form of the text at one end, joins the names to it, and
  takes the result for the meaning as well. So the value afterwards is that of a template whose
  text at this end means what is written there. It is the old value joined by the names if and
  only if the two forms of this text are the same.
-/

namespace JsxEdit

open ClassName

/-! ### The value of a template -/

section Value

variable (textOf : Node → String)

/-- What the texts mean, with the texts of expressions between them. There is no value if a
    text has no meaning, or if there is not exactly one more text than expressions. -/
def cookedText? : List Quasi → List Node → Option String
  | [q], [] => q.cooked
  | q :: quasis, x :: exprs =>
    q.cooked.bind fun text => (cookedText? quasis exprs).map (text ++ textOf x ++ ·)
  | _, _ => none

def Template.value? (t : Template) : Option String := cookedText? textOf t.quasis t.exprs

/-- The value of the template in the first `className`. -/
def Element.classValue? (e : Element) : Option String :=
  e.classTemplate?.bind (Template.value? textOf)

end Value

/-! ### The end that class names are joined to -/

namespace ClassName.Mode

/-- The text that class names are joined to. -/
def endText? : Mode → List Quasi → Option Quasi
  | .append, quasis => quasis.getLast?
  | .prepend, quasis => quasis.head?

/-- Two texts with one space between them, the new one at the end that `mode` asks for. -/
def spaced (mode : Mode) (old new : String) : String :=
  match mode with
  | .append => old ++ " " ++ new
  | .prepend => new ++ " " ++ old

theorem spaced_left_inj (mode : Mode) {old other : String} (new : String) :
    mode.spaced old new = mode.spaced other new ↔ old = other := by
  cases mode with
  | append => simp only [spaced, String.append_left_inj]
  | prepend => simp only [spaced, String.append_right_inj]

end ClassName.Mode

/-! ### One text in its place -/

section Place

variable (textOf : Node → String)

/-- The last text stands behind a text that does not depend on it. -/
theorem exists_text_before {init : List Quasi} {exprs : List Node}
    (hcount : init.length = exprs.length) (hcooked : ∀ q ∈ init, q.cooked.isSome = true) :
    ∃ before, ∀ last : Quasi,
      cookedText? textOf (init ++ [last]) exprs = last.cooked.map (before ++ ·) := by
  induction init generalizing exprs with
  | nil =>
    obtain rfl : exprs = [] := List.eq_nil_of_length_eq_zero hcount.symm
    refine ⟨"", ?_⟩
    intro last
    simp [cookedText?]
  | cons q init ih =>
    cases exprs with
    | nil => cases hcount
    | cons x exprs =>
      obtain ⟨text, htext⟩ := Option.isSome_iff_exists.mp (hcooked q List.mem_cons_self)
      obtain ⟨before, hbefore⟩ := ih (Nat.succ.inj hcount)
        (fun later hlater => hcooked later (List.mem_cons_of_mem q hlater))
      refine ⟨text ++ textOf x ++ before, ?_⟩
      intro last
      rw [List.cons_append, cookedText?, htext, Option.bind_some, hbefore, Option.map_map]
      simp only [Function.comp_def, String.append_assoc]

/-- A template with the right counts, all of whose texts mean something, has a value. -/
theorem exists_cookedText {quasis : List Quasi} {exprs : List Node}
    (hcount : quasis.length = exprs.length + 1)
    (hcooked : ∀ q ∈ quasis, q.cooked.isSome = true) :
    ∃ value, cookedText? textOf quasis exprs = some value := by
  rcases List.eq_nil_or_concat' quasis with rfl | ⟨init, last, rfl⟩
  · cases hcount
  · have hinit : init.length = exprs.length := by simpa using hcount
    obtain ⟨before, hbefore⟩ := exists_text_before textOf hinit
      (fun q hq => hcooked q (List.mem_append_left _ hq))
    obtain ⟨text, htext⟩ := Option.isSome_iff_exists.mp (hcooked last (by simp))
    refine ⟨before ++ text, ?_⟩
    rw [hbefore, htext, Option.map_some]

/-- The first text stands in front of a text that does not depend on it. -/
theorem exists_text_after {rest : List Quasi} {exprs : List Node}
    (hcount : rest.length = exprs.length) (hcooked : ∀ q ∈ rest, q.cooked.isSome = true) :
    ∃ after, ∀ first : Quasi,
      cookedText? textOf (first :: rest) exprs = first.cooked.map (· ++ after) := by
  cases exprs with
  | nil =>
    obtain rfl : rest = [] := List.eq_nil_of_length_eq_zero hcount
    refine ⟨"", ?_⟩
    intro first
    simp [cookedText?]
  | cons x exprs =>
    obtain ⟨value, hvalue⟩ := exists_cookedText textOf hcount hcooked
    refine ⟨textOf x ++ value, ?_⟩
    intro first
    rw [cookedText?, hvalue]
    cases first.cooked with
    | none => rfl
    | some text => simp only [Option.bind_some, Option.map_some, String.append_assoc]

end Place

/-! ### Adding class names -/

namespace ClassName

variable (textOf : Node → String) {t : Template}

/-- The value before and after: the text at the end that is extended stands in the same place,
    first with its meaning and then with what is written. -/
theorem value?_extendTemplate (hbalanced : t.Balanced)
    (hcooked : ∀ q ∈ t.quasis, q.cooked.isSome = true) (names : String) (mode : Mode) :
    ∃ (q : Quasi) (text before after : String),
      mode.endText? t.quasis = some q ∧ q.cooked = some text ∧
      t.value? textOf = some (before ++ text ++ after) ∧
      (extendTemplate t names mode).value? textOf =
        some (mode.spaced (before ++ q.raw ++ after) names) := by
  obtain ⟨exprs, quasis⟩ := t
  have hcount : quasis.length = exprs.length + 1 := hbalanced
  cases mode with
  | append =>
    rcases List.eq_nil_or_concat' quasis with rfl | ⟨init, last, rfl⟩
    · cases hcount
    · have hinit : init.length = exprs.length := by simpa using hcount
      obtain ⟨before, hbefore⟩ := exists_text_before textOf hinit
        (fun q hq => hcooked q (List.mem_append_left _ hq))
      obtain ⟨text, htext⟩ := Option.isSome_iff_exists.mp (hcooked last (by simp))
      refine ⟨last, text, before, "", ?_, htext, ?_, ?_⟩
      · simp [Mode.endText?]
      · rw [Template.value?, hbefore, htext, Option.map_some, String.append_empty]
      · rw [extendTemplate, Template.value?, appendToLast_concat, hbefore]
        simp only [Quasi.make, Option.map_some, Mode.spaced, String.append_empty,
          String.append_assoc]
  | prepend =>
    cases quasis with
    | nil => cases hcount
    | cons first rest =>
      have hrest : rest.length = exprs.length := Nat.succ.inj hcount
      obtain ⟨after, hafter⟩ := exists_text_after textOf hrest
        (fun q hq => hcooked q (List.mem_cons_of_mem first hq))
      obtain ⟨text, htext⟩ := Option.isSome_iff_exists.mp (hcooked first List.mem_cons_self)
      refine ⟨first, text, "", after, rfl, htext, ?_, ?_⟩
      · rw [Template.value?, hafter, htext, Option.map_some, String.empty_append]
      · rw [extendTemplate, Template.value?, prependToFirst, hafter]
        simp only [Quasi.make, Option.map_some, Mode.spaced, String.empty_append,
          String.append_assoc]

end ClassName

namespace Element

/-- **What adding class names does to the value of a template.** The text at the end that is
    extended is taken as it is written; all else of the value stays. The value is the old one
    and the names with one space between them if and only if this text means what is written
    there. -/
theorem classValue?_resolveClassName_iff (textOf : Node → String) (e : Element) (names : String)
    (mode : Mode) {t : Template} (htemplate : e.classTemplate? = some t) (hbalanced : t.Balanced)
    (hcooked : ∀ q ∈ t.quasis, q.cooked.isSome = true) :
    ∃ (q : Quasi) (text before after : String),
      mode.endText? t.quasis = some q ∧ q.cooked = some text ∧
      e.classValue? textOf = some (before ++ text ++ after) ∧
      (e.resolveClassName names mode).classValue? textOf =
        some (mode.spaced (before ++ q.raw ++ after) names) ∧
      ((e.resolveClassName names mode).classValue? textOf =
        (e.classValue? textOf).map (mode.spaced · names) ↔ q.cooked = some q.raw) := by
  have hquasis : t.quasis ≠ [] := by
    intro hnil
    rw [Template.Balanced, hnil] at hbalanced
    cases hbalanced
  obtain ⟨q, text, before, after, hend, htext, hvalue, hextended⟩ :=
    value?_extendTemplate textOf hbalanced hcooked names mode
  have hlater : (e.resolveClassName names mode).classValue? textOf =
      some (mode.spaced (before ++ q.raw ++ after) names) := by
    rw [classValue?, classTemplate?_resolveClassName_of_template names mode htemplate hquasis,
      Option.bind_some, hextended]
  have hearlier : e.classValue? textOf = some (before ++ text ++ after) := by
    rw [classValue?, htemplate, Option.bind_some, hvalue]
  refine ⟨q, text, before, after, hend, htext, hearlier, hlater, ?_⟩
  rw [hlater, hearlier, htext, Option.map_some, Option.some.injEq, Option.some.injEq,
    Mode.spaced_left_inj, String.append_left_inj, String.append_right_inj, eq_comm]

/-- A tab in the first text of a template. What is appended joins a text without an escape. -/
theorem classValue?_resolveClassName_iff_tab :
    let tab : Quasi := { tail := false, cooked := some "a\tb ", raw := "a\\tb " }
    let e : Element :=
      { tag := .ident "div"
        attrs := [.attr ⟨.plain attrName,
          some (.braces (.template ⟨[.ident "x"], [tab, .make " c" true]⟩))⟩]
        selfClosing := true, children := [], closing := none }
    (∀ q ∈ [tab, .make " c" true], q.cooked.isSome = true) ∧
      (e.resolveClassName "d" .append).classValue? (fun _ => "x1") = some "a\tb x1 c d" := by
  intro tab e
  have hcooked : ∀ q ∈ [tab, .make " c" true], q.cooked.isSome = true := by decide
  obtain ⟨q, -, -, -, hend, -, -, -, hiff⟩ :=
    classValue?_resolveClassName_iff (fun _ => "x1") e "d" .append rfl rfl hcooked
  obtain rfl : .make " c" true = q := Option.some.inj hend
  exact ⟨hcooked, hiff.mpr rfl⟩

/-- A tab in the text that the names are joined to: afterwards the template means a backslash
    and a letter where it meant the tab. -/
theorem not_classValue?_resolveClassName_tab :
    let tab : Quasi := { tail := true, cooked := some "a\tb", raw := "a\\tb" }
    let e : Element :=
      { tag := .ident "div"
        attrs := [.attr ⟨.plain attrName, some (.braces (.template ⟨[], [tab]⟩))⟩]
        selfClosing := true, children := [], closing := none }
    (∃ t, e.classTemplate? = some t ∧ t.Balanced ∧ ∀ q ∈ t.quasis, q.cooked.isSome = true) ∧
      ∀ textOf, (e.resolveClassName "c" .append).classValue? textOf ≠
        (e.classValue? textOf).map (Mode.spaced .append · "c") := by
  intro tab e
  refine ⟨⟨_, rfl, rfl, by decide⟩, ?_⟩
  intro textOf
  have hlater : (e.resolveClassName "c" .append).classValue? textOf = some "a\\tb c" := rfl
  have hexpected : (e.classValue? textOf).map (Mode.spaced .append · "c") = some "a\tb c" := rfl
  rw [hlater, hexpected]
  decide

end Element

end JsxEdit
