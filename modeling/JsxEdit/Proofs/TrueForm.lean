import JsxEdit.Proofs.ValidNames

/-!
  **`true` is written by leaving the value out.**

  `disabled` and `disabled={true}` mean the same, and the library writes the first. There
  are three places where the value of an attribute is decided: where it is made, where it
  is replaced, and where class names are added to it. The first two resolve the value they
  are given by `NewValue.toNode?`, which never answers `{true}`, and the third leaves a
  string, a template or a call. All else moves entries about or renames them.

  So an element without `{true}` stays without it. Appending entries whatever their names
  and swapping one entry for another belong to the edits here.
-/

namespace JsxEdit

open Attribute

/-! ### All edits of the attribute list -/

inductive AttrListEdit where
  | byName (change : AttrEdit)
  | append (entries : List AttrEntry)
  | swap (name : String) (entry : AttrEntry)

/-- All entries that the edit brings in are attributes made in the given way. -/
def AttrListEdit.AddsOnly (made : Attr → Prop) : AttrListEdit → Prop
  | byName change => change.AddsOnly made
  | append entries => ∀ entry ∈ entries, ∃ a, made a ∧ entry = .attr a
  | swap _ entry => ∃ a, made a ∧ entry = .attr a

namespace Element

def editList (e : Element) : AttrListEdit → Element
  | .byName change => e.edit change
  | .append entries => e.appendAttrs entries
  | .swap name entry => e.swapAttr name entry

/-- The element after one edit after the other. -/
def applyListEdits (e : Element) (edits : List AttrListEdit) : Element := edits.foldl editList e

end Element

/-! ### `{true}` as a value -/

/-- An attribute that the library has made, in one of the three ways it has. -/
inductive Attr.Made : Attr → Prop where
  | checked {a : Attr} : a.Checked → Made a
  | strict {name : String} {value : NewValue} {a : Attr} :
      Attr.makeStrict name value = .ok a → Made a
  | literal (name : String) (value : Option String) : Made (.ofLiteral name value)

/-- `name={true}` -/
def Attr.spellsTrue (a : Attr) : Bool := a.value.any Node.isTrueBraces

def AttrEntry.spellsTrue : AttrEntry → Bool
  | .attr a => a.spellsTrue
  | .spread _ => false

theorem Attr.make?_of_makeStrict {name : String} {value : NewValue} {a : Attr}
    (h : Attr.makeStrict name value = .ok a) : Attr.make? name value = some a := by
  unfold Attr.makeStrict at h
  split at h
  · cases h
  · cases h
  · rename_i hmake
    cases h
    exact hmake

theorem Attr.Checked.not_spellsTrue {a : Attr} (h : a.Checked) : a.spellsTrue = false := by
  obtain ⟨name, value, hmake⟩ := h
  obtain ⟨-, rfl⟩ := Attr.make?_eq_some_iff.mp hmake
  exact value.not_isTrueBraces_toNode?

theorem Attr.Made.not_spellsTrue {a : Attr} (h : a.Made) : a.spellsTrue = false := by
  cases h with
  | checked hchecked => exact hchecked.not_spellsTrue
  | strict hmake =>
    exact Attr.Checked.not_spellsTrue ⟨_, _, Attr.make?_of_makeStrict hmake⟩
  | literal name value =>
    rw [Attr.spellsTrue, Attr.ofLiteral]
    cases value.filter (· != "") <;> rfl

theorem ClassName.not_isTrueBraces_extend {value : Option Node}
    (h : value.any Node.isTrueBraces = false) (names : String) (mode : Mode) (form : Form) :
    (extend names mode form value).any Node.isTrueBraces = false := by
  unfold extend
  split
  · rfl
  · rfl
  · rfl
  · rfl
  · rfl
  · exact h

/-! ### What holds of every entry -/

namespace Attribute

variable {P : AttrEntry → Prop} {name : String} {entries : List AttrEntry}

theorem forall_mem_updateFirst (h : ∀ entry ∈ entries, P entry) {f : AttrEntry → AttrEntry}
    (hf : ∀ entry, P entry → P (f entry)) : ∀ entry ∈ updateFirst name f entries, P entry := by
  by_cases hname : name ∈ plainNames entries
  · obtain ⟨before, value, after, rfl, hbefore⟩ := exists_cut hname
    rw [updateFirst_cut hbefore]
    intro entry hentry
    rcases List.mem_append.mp hentry with hentry | hentry
    · exact h entry (List.mem_append_left _ hentry)
    · rcases List.mem_cons.mp hentry with rfl | hentry
      · exact hf _ (h _ (List.mem_append_right _ List.mem_cons_self))
      · exact h entry (List.mem_append_right _ (List.mem_cons_of_mem _ hentry))
  · rw [updateFirst_of_not_mem hname]
    exact h

theorem forall_mem_put (h : ∀ entry ∈ entries, P entry) (override : Bool) {added : AttrEntry}
    (hadded : P added) : ∀ entry ∈ put override entries added, P entry := by
  unfold put
  split
  · exact h
  · split
    · split
      · exact forall_mem_updateFirst h fun _ _ => hadded
      · exact h
    · intro entry hentry
      rcases List.mem_append.mp hentry with hentry | hentry
      · exact h entry hentry
      · rw [List.mem_singleton.mp hentry]
        exact hadded

theorem forall_mem_foldl_put (h : ∀ entry ∈ entries, P entry) (override : Bool)
    {added : List AttrEntry} (hadded : ∀ entry ∈ added, P entry) :
    ∀ entry ∈ added.foldl (put override) entries, P entry := by
  refine List.foldlRecOn added (put override) (motive := fun entries => ∀ entry ∈ entries, P entry)
    h ?_
  intro entries hentries entry hentry
  exact forall_mem_put hentries override (hadded entry hentry)

end Attribute

namespace Element

/-- No attribute is written `name={true}`. -/
def SpellsNoTrue (e : Element) : Prop := ∀ entry ∈ e.attrs, entry.spellsTrue = false

instance (e : Element) : Decidable e.SpellsNoTrue :=
  inferInstanceAs (Decidable (∀ entry ∈ e.attrs, entry.spellsTrue = false))

theorem not_spellsTrue_of_made {entries : List AttrEntry}
    (h : ∀ entry ∈ entries, ∃ a, Attr.Made a ∧ entry = .attr a) :
    ∀ entry ∈ entries, entry.spellsTrue = false := by
  intro entry hentry
  obtain ⟨a, hmade, rfl⟩ := h entry hentry
  exact hmade.not_spellsTrue

namespace SpellsNoTrue

variable {e : Element} (h : e.SpellsNoTrue)
include h

theorem addAttributes {entries : List AttrEntry}
    (hentries : ∀ entry ∈ entries, entry.spellsTrue = false) (options : AddOptions) :
    (e.addAttributes entries options).SpellsNoTrue :=
  forall_mem_foldl_put h _ hentries

theorem removeAttrs (names : List String) : (e.removeAttrs names).SpellsNoTrue := by
  intro entry hentry
  exact h entry (List.mem_filter.mp hentry).1

theorem renameAttr {old new : String} {renamed : Element}
    (hrename : e.renameAttr old new = .ok renamed) : renamed.SpellsNoTrue := by
  unfold Element.renameAttr at hrename
  split at hrename
  · cases hrename
    exact h
  · split at hrename
    · cases hrename
      refine forall_mem_updateFirst h ?_
      intro entry hentry
      cases entry with
      | attr a => exact hentry
      | spread inner => rfl
    · cases hrename

theorem setAttrValue (name : String) (value : NewValue) :
    (e.setAttrValue name value).SpellsNoTrue := by
  rw [Element.setAttrValue_eq]
  split
  · refine forall_mem_updateFirst h ?_
    intro entry _
    cases entry with
    | attr a => exact value.not_isTrueBraces_toNode?
    | spread inner => rfl
  · exact h

theorem spreadObjectProp (name : String) (options : SpreadOptions) :
    (e.spreadObjectProp name options).SpellsNoTrue := by
  unfold Element.spreadObjectProp
  split
  · exact h
  · have hadded (members : List Node) :
        (e.addAttributes ((members.filterMap ofMember?).map .attr) {}).SpellsNoTrue := by
      refine h.addAttributes ?_ {}
      intro entry hentry
      obtain ⟨a, hchecked, rfl⟩ := checked_of_members members entry hentry
      exact hchecked.not_spellsTrue
    dsimp only
    split
    · exact (hadded _).removeAttrs [name]
    · exact hadded _

theorem resolveClassName (names : String) (mode : ClassName.Mode) :
    (e.resolveClassName names mode).SpellsNoTrue := by
  unfold Element.resolveClassName
  split
  · split
    · exact h
    · intro entry hentry
      rcases List.mem_append.mp hentry with hentry | hentry
      · exact h entry hentry
      · rw [ClassName.make?_attrName] at hentry
        rw [List.mem_singleton.mp hentry]
        rfl
  · refine forall_mem_updateFirst h ?_
    intro entry hentry
    cases entry with
    | attr a => exact ClassName.not_isTrueBraces_extend hentry names mode a.classNameForm
    | spread inner => rfl

theorem edit {change : AttrEdit} (hadds : change.AddsOnly Attr.Made) :
    (e.edit change).SpellsNoTrue := by
  cases change with
  | add entries options => exact h.addAttributes (not_spellsTrue_of_made hadds) options
  | remove names => exact h.removeAttrs names
  | rename old new =>
    simp only [Element.edit]
    split
    · rename_i hrename
      exact h.renameAttr hrename
    · exact h
  | setValue name value => exact h.setAttrValue name value
  | spreadObject name options => exact h.spreadObjectProp name options
  | addClassNames names mode => exact h.resolveClassName names mode

theorem appendAttrs {entries : List AttrEntry}
    (hentries : ∀ entry ∈ entries, entry.spellsTrue = false) :
    (e.appendAttrs entries).SpellsNoTrue := by
  intro entry hentry
  rcases List.mem_append.mp hentry with hentry | hentry
  · exact h entry hentry
  · exact hentries entry (List.mem_filter.mp hentry).1

theorem swapAttr (name : String) {entry : AttrEntry} (hentry : entry.spellsTrue = false) :
    (e.swapAttr name entry).SpellsNoTrue :=
  forall_mem_updateFirst h fun _ _ => hentry

theorem editList {change : AttrListEdit} (hadds : change.AddsOnly Attr.Made) :
    (e.editList change).SpellsNoTrue := by
  cases change with
  | byName change => exact h.edit hadds
  | append entries => exact h.appendAttrs (not_spellsTrue_of_made hadds)
  | swap name entry =>
    obtain ⟨a, hmade, rfl⟩ := hadds
    exact h.swapAttr name hmade.not_spellsTrue

end SpellsNoTrue

/-- **`{true}` never comes up.** Over any run of edits that bring in made attributes only,
    an element without `name={true}` stays without it. -/
theorem spellsNoTrue_applyListEdits (e : Element) (edits : List AttrListEdit)
    (hadds : ∀ change ∈ edits, change.AddsOnly Attr.Made) (h : e.SpellsNoTrue) :
    (e.applyListEdits edits).SpellsNoTrue := by
  refine List.foldlRecOn edits editList (motive := SpellsNoTrue) h ?_
  intro e he change hchange
  exact he.editList (hadds change hchange)

/-- `true` and `{true}`, handed over in each of the ways there are. -/
theorem spellsNoTrue_applyListEdits_handed :
    let trueBraces : Node := .braces (.literal (.bool true))
    let e : Element :=
      { tag := .ident "a"
        attrs := [.attr ⟨.plain "open", some (.literal (.ofString "x"))⟩,
          .attr ⟨.plain "props",
            some (.braces (.object [.keyValue (.ident "flag") (.literal (.bool true))]))⟩]
        selfClosing := true, children := [], closing := none }
    let edits : List AttrListEdit :=
      [.byName (.setValue "open" (.node trueBraces)),
        .byName (.add ((Attr.make? "on" (.node trueBraces)).toList.map .attr) {}),
        .swap "open" (.attr ⟨.plain "shut", none⟩), .append [.attr (.ofLiteral "id" (some "true"))],
        .byName (.spreadObject "props" { cleanup := true }), .byName (.rename "on" "off")]
    e.SpellsNoTrue ∧ (e.applyListEdits edits).SpellsNoTrue := by
  intro trueBraces e edits
  have hnone : e.SpellsNoTrue := by decide
  have hstrict : Attr.Made ⟨.plain "shut", none⟩ := by
    have hmake : Attr.makeStrict "shut" (.scalar (.bool true)) = .ok ⟨.plain "shut", none⟩ := rfl
    exact .strict hmake
  have hchecked (a : Attr) (ha : Attr.make? "on" (.node trueBraces) = some a) : a.Made :=
    .checked ⟨_, _, ha⟩
  have hliteral : Attr.Made (.ofLiteral "id" (some "true")) := .literal "id" (some "true")
  have hadds : ∀ change ∈ edits, change.AddsOnly Attr.Made := by
    simpa [edits, AttrListEdit.AddsOnly, AttrEdit.AddsOnly, hstrict, hliteral] using hchecked
  exact ⟨hnone, spellsNoTrue_applyListEdits e edits hadds hnone⟩

end Element

end JsxEdit
