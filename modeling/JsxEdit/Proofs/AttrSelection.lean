import JsxEdit.Proofs.AttrFrame

/-!
  **Reading attributes by name and removing them take the two sides of one cut.**

  Both take a list of names and pass over the empty ones, but each has exceptions of its own:
  without a name to look for, reading gives all attributes and removing takes none; and reading
  may give all attributes where it finds none. `AttrEntry.IsAsked` is what the two have in
  common. It says which entries a list of names asks for: plain attributes only, so that spreads
  and namespaced attributes are always on the side that stays.
-/

namespace JsxEdit

open Attribute

/-! ### What names ask for -/

/-- The entry is a plain attribute with one of the names. The empty name asks for nothing. -/
def AttrEntry.IsAsked (names : List String) (entry : AttrEntry) : Prop :=
  ∃ name ∈ names, name ≠ "" ∧ entry.name? = some name

instance (names : List String) (entry : AttrEntry) : Decidable (entry.IsAsked names) :=
  inferInstanceAs (Decidable (∃ name ∈ names, name ≠ "" ∧ entry.name? = some name))

variable {names : List String}

theorem AttrEntry.isAsked_append {more : List String} {entry : AttrEntry} :
    entry.IsAsked (names ++ more) ↔ entry.IsAsked names ∨ entry.IsAsked more := by
  simp only [IsAsked, List.mem_append, or_and_right, exists_or]

theorem Attribute.isNamedIn_eq (names : List String) (entry : AttrEntry) :
    isNamedIn names entry = decide (entry.IsAsked names) := by
  rw [Bool.eq_iff_iff, decide_eq_true_iff, isNamedIn, AttrEntry.IsAsked]
  cases entry.name? with
  | none => simp
  | some found =>
    simp only [Option.any_some, Bool.and_eq_true, bne_iff_ne, List.contains_iff_mem,
      Option.some.injEq]
    constructor
    · rintro ⟨hne, hmem⟩
      exact ⟨found, hmem, hne, rfl⟩
    · rintro ⟨name, hmem, hne, rfl⟩
      exact ⟨hne, hmem⟩

theorem AttrEntry.not_isAsked_of_isUnnamed {entry : AttrEntry} (h : entry.isUnnamed = true) :
    ¬ entry.IsAsked names := by
  rintro ⟨name, -, -, hname⟩
  rw [AttrEntry.isUnnamed_iff.mp h] at hname
  cases hname

/-! ### The two operations -/

namespace Element

variable {e : Element}

theorem getAttributes_of_exists (h : ∃ name ∈ names, name ≠ "") (all : Bool) :
    e.getAttributes { wantedNames := names, allOnNoMatch := all } =
      if (e.attrs.filter fun entry => decide (entry.IsAsked names)).isEmpty && all then e.attrs
      else e.attrs.filter fun entry => decide (entry.IsAsked names) := by
  have hnames : ¬ names.all (· == "") = true := by
    rw [List.all_eq_true]
    intro hall
    obtain ⟨name, hmem, hname⟩ := h
    exact hname (by simpa using hall name hmem)
  have hfilter : e.attrs.filter (isNamedIn names) =
      e.attrs.filter fun entry => decide (entry.IsAsked names) :=
    List.filter_congr fun entry _ => isNamedIn_eq names entry
  simp only [getAttributes, if_neg hnames, hfilter]

theorem removeAttrs_eq (e : Element) (names : List String) :
    e.removeAttrs names =
      { e with attrs := e.attrs.filter fun entry => !decide (entry.IsAsked names) } := by
  simp only [removeAttrs, isNamedIn_eq]

/-- What is removed is not found again. -/
theorem filter_isAsked_removeAttrs (e : Element) (names : List String) :
    ((e.removeAttrs names).attrs.filter fun entry => decide (entry.IsAsked names)) = [] := by
  rw [removeAttrs_eq, List.filter_eq_nil_iff]
  intro entry hentry
  have hleft := (List.mem_filter.mp hentry).2
  simpa using hleft

theorem removeAttrs_removeAttrs (e : Element) (names more : List String) :
    (e.removeAttrs names).removeAttrs more = e.removeAttrs (names ++ more) := by
  simp only [removeAttrs_eq, List.filter_filter]
  congr 1
  apply List.filter_congr
  intro entry _
  rw [Bool.eq_iff_iff]
  simp [AttrEntry.isAsked_append, and_comm]

/-- **What reading selects is what removing drops.** If one of the names is not empty, the
    attributes that are read by the names and those that are left without them are the two sides
    of one cut of the list, each in its order. All spreads and namespaced attributes are left.
    Read by the same names, the rest gives nothing, or all of itself if this is what is asked
    for. Removing twice is removing by all the names at once, whatever the names. -/
theorem removeAttrs_complements_getAttributes (e : Element) :
    (∀ names : List String, (∃ name ∈ names, name ≠ "") → ∃ found left : List AttrEntry,
      e.attrs.partition (fun entry => decide (entry.IsAsked names)) = (found, left) ∧
      (Shape.element e).attributes? { wantedNames := names } = some found ∧
      e.removeAttrs names = { e with attrs := left } ∧
      unnamedEntries left = unnamedEntries e.attrs ∧
      (Shape.element (e.removeAttrs names)).attributes? { wantedNames := names } = some [] ∧
      (Shape.element (e.removeAttrs names)).attributes?
        { wantedNames := names, allOnNoMatch := true } = some left) ∧
    ∀ names more : List String,
      (e.removeAttrs names).removeAttrs more = e.removeAttrs (names ++ more) := by
  refine ⟨?_, e.removeAttrs_removeAttrs⟩
  intro names hnames
  refine ⟨_, _, List.partition_eq_filter_filter, ?_, e.removeAttrs_eq names, ?_, ?_, ?_⟩
  · rw [Shape.attributes?, getAttributes_of_exists hnames, Bool.and_false, if_neg nofun]
  · apply unnamedEntries_filter
    intro entry hentry
    exact decide_eq_false (AttrEntry.not_isAsked_of_isUnnamed hentry)
  · rw [Shape.attributes?, getAttributes_of_exists hnames, filter_isAsked_removeAttrs]
    rfl
  · rw [Shape.attributes?, getAttributes_of_exists hnames, filter_isAsked_removeAttrs,
      removeAttrs_eq]
    rfl

/-- A repeated name and an empty one, beside a spread and a namespaced attribute. -/
theorem removeAttrs_complements_getAttributes_repeated :
    let href : AttrEntry := .attr ⟨.namespaced "xlink" "href", none⟩
    let rest : AttrEntry := .spread (.ident "rest")
    let id : AttrEntry := .attr ⟨.plain "id", none⟩
    let title : AttrEntry := .attr ⟨.plain "title", none⟩
    let e : Element :=
      { tag := .ident "a", attrs := [id, rest, title, href, id], selfClosing := true
        children := [], closing := none }
    (∃ name ∈ ["", "id", "href"], name ≠ "") ∧
      (Shape.element e).attributes? { wantedNames := ["", "id", "href"] } = some [id, id] ∧
      (e.removeAttrs ["", "id", "href"]).attrs = [rest, title, href] ∧
      (Shape.element (e.removeAttrs ["", "id", "href"])).attributes?
        { wantedNames := ["", "id", "href"], allOnNoMatch := true } =
          some [rest, title, href] := by
  intro href rest id title e
  have hnames : ∃ name ∈ ["", "id", "href"], name ≠ "" := ⟨"id", by decide, by decide⟩
  obtain ⟨found, left, hcut, hfound, hleft, -, -, hall⟩ :=
    e.removeAttrs_complements_getAttributes.1 ["", "id", "href"] hnames
  have hsides : (found, left) = ([id, id], [rest, title, href]) := by
    rw [← hcut]
    rfl
  obtain ⟨rfl, rfl⟩ := Prod.mk.inj hsides
  refine ⟨hnames, hfound, ?_, hall⟩
  rw [hleft]

end Element

end JsxEdit
