import JsxEdit.Proofs.RemoveNames

/-!
  **Imports that can be written down.**

  `* as x` and `{ y }` cannot stand in one import. The edits that add names see to this: a
  named specifier joins only an import without `* as x`. The one that adds `Fragment` does
  not ask, and so `import * as React from "react"` comes out as an import that nobody can
  read back.

  This is all that can go wrong. No edit makes an import with `* as x`, takes one away or
  changes its source (`Module.namespaceHeads_edit`). So whether a run of edits goes wrong
  can be told before it starts: it does if it adds `Fragment` while a value import from
  `react` has `* as x`, and not otherwise.
-/

namespace JsxEdit

/-! ### Edits and runs of edits -/

/-- An edit of the imports of a module. -/
inductive ImportEdit where
  | addFragment
  | addNamed (path : Matcher) (names : List String)
  | removeNamed (name path : Matcher)
  | removeDefault (name path : Matcher)

namespace Module

def edit (m : Module) : ImportEdit → Module
  | .addFragment => m.importFragment.1
  | .addNamed path names => m.addNamedImports path names
  | .removeNamed name path => (m.removeNamedImports name path).1
  | .removeDefault name path => (m.removeDefaultImports name path).1

/-- The module after one edit after the other. -/
def applyEdits (m : Module) (edits : List ImportEdit) : Module := edits.foldl edit m

end Module

/-! ### Grammatical imports -/

def Import.hasNamespace (i : Import) : Bool := i.specifiers.any Specifier.isNamespace

/-- `* as x` and a named specifier do not stand together. -/
def Import.isGrammatical (i : Import) : Bool :=
  !(i.hasNamespace && i.specifiers.any Specifier.isNamed)

def Module.Grammatical (m : Module) : Prop := ∀ i ∈ m.imports, i.isGrammatical = true

instance (m : Module) : Decidable m.Grammatical :=
  inferInstanceAs (Decidable (∀ i ∈ m.imports, i.isGrammatical = true))

namespace Import

variable {i j : Import}

theorem isGrammatical_iff :
    i.isGrammatical = true ↔
      (i.hasNamespace = true → ∀ s ∈ i.specifiers, s.isNamed = false) := by
  cases h : i.hasNamespace <;> simp [isGrammatical, h]

theorem isGrammatical_of_not_hasNamespace (h : i.hasNamespace = false) :
    i.isGrammatical = true := by
  rw [isGrammatical, h]
  rfl

theorem hasNamespace_of_subset (hsub : j.specifiers ⊆ i.specifiers) (h : j.hasNamespace = true) :
    i.hasNamespace = true := by
  obtain ⟨s, hs, hnamespace⟩ := List.any_eq_true.mp h
  exact List.any_eq_true.mpr ⟨s, hsub hs, hnamespace⟩

/-- Taking specifiers away does no harm. -/
theorem isGrammatical_of_subset (hsub : j.specifiers ⊆ i.specifiers)
    (h : i.isGrammatical = true) : j.isGrammatical = true := by
  rw [isGrammatical_iff] at h ⊢
  intro hnamespace s hs
  exact h (hasNamespace_of_subset hsub hnamespace) s (hsub hs)

/-- A named specifier at the end does not make `* as x`. -/
theorem hasNamespace_withFragment (i : Import) : i.withFragment.hasNamespace = i.hasNamespace := by
  have hnew : (Specifier.make "Fragment" (some "F")).isNamespace = false := by decide
  simp only [hasNamespace, withFragment, List.any_append, List.any_cons, List.any_nil, hnew,
    Bool.or_false]

theorem not_isGrammatical_withFragment (h : i.hasNamespace = true) :
    i.withFragment.isGrammatical = false := by
  have hnew : (Specifier.make "Fragment" (some "F")).isNamed = true := by decide
  rw [isGrammatical, hasNamespace_withFragment, h, withFragment, List.any_append, List.any_cons,
    hnew, Bool.true_or, Bool.or_true]
  rfl

theorem hasNamespace_withoutNamed (i : Import) (name : Matcher) :
    (i.withoutNamed name).hasNamespace = i.hasNamespace := by
  rw [Bool.eq_iff_iff]
  constructor
  · exact hasNamespace_of_subset List.filter_sublist.subset
  · intro h
    obtain ⟨s, hs, hnamespace⟩ := List.any_eq_true.mp h
    have hkept : (!s.isNamedBy name) = true := by
      cases s with
      | namespaceAs binding => rfl
      | defaultAs binding => cases hnamespace
      | named binding imported typeOnly => cases hnamespace
    exact List.any_eq_true.mpr ⟨s, List.mem_filter.mpr ⟨hs, hkept⟩, hnamespace⟩

theorem not_hasNamespace_of_takesNames {path : Matcher} (h : i.takesNames path = true) :
    i.hasNamespace = false := by
  simp only [takesNames, acceptsNamed, Bool.and_eq_true, Bool.not_eq_true'] at h
  exact h.2.2

theorem not_hasNamespace_of_isExclusivelyDefault (h : i.isExclusivelyDefault = true) :
    i.hasNamespace = false := by
  obtain ⟨binding, honly⟩ := specifiers_of_isExclusivelyDefault h
  rw [hasNamespace, honly]
  rfl

/-- An import with `* as x` that is grammatical cannot have `Fragment`. -/
theorem not_hasFragment_of_hasNamespace (h : i.isGrammatical = true)
    (hnamespace : i.hasNamespace = true) : i.hasFragment = false := by
  rw [isGrammatical_iff] at h
  refine List.any_eq_false.mpr fun s hs himported => ?_
  have hnamed := h hnamespace s hs
  cases s with
  | named binding imported typeOnly => cases hnamed
  | defaultAs binding => cases himported
  | namespaceAs binding => cases himported

end Import

/-! ### Imports with `* as x` are neither made nor lost -/

/-- The source of an import with `* as x`, and whether it is a type import. -/
def Import.namespaceHead? (i : Import) : Option (StringLiteral × Bool) :=
  if i.hasNamespace then some (i.source, i.typeOnly) else none

def Item.namespaceHead? (item : Item) : Option (StringLiteral × Bool) :=
  item.import?.bind Import.namespaceHead?

def Module.namespaceHeads (m : Module) : List (StringLiteral × Bool) :=
  m.body.filterMap Item.namespaceHead?

namespace Item

theorem namespaceHead?_withFragment (item : Item) :
    item.withFragment.namespaceHead? = item.namespaceHead? := by
  cases item with
  | node n => rfl
  | importing i =>
    rw [withFragment]
    split
    · simp only [namespaceHead?, import?, Option.bind_some, Import.namespaceHead?,
        Import.hasNamespace_withFragment]
      rfl
    · rfl

/-- An import that goes with its last specifier had no `* as x`. -/
theorem namespaceHead?_removeNamed (name path : Matcher) (item : Item) :
    (item.removeNamed name path).1.bind namespaceHead? = item.namespaceHead? := by
  cases item with
  | node n => rfl
  | importing i =>
    have hsame := i.hasNamespace_withoutNamed name
    rw [removeNamed_importing]
    split
    · split
      · rename_i hgone
        have hempty : (i.withoutNamed name).specifiers = [] :=
          List.isEmpty_iff.mp (Bool.and_eq_true_iff.mp hgone).2
        rw [Import.hasNamespace, hempty] at hsame
        simp only [namespaceHead?, import?, Option.bind_some, Import.namespaceHead?, ← hsame]
        rfl
      · simp only [namespaceHead?, import?, Option.bind_some, Import.namespaceHead?, hsame]
        rfl
    · rfl

theorem namespaceHead?_of_isDefaultImportOf {name path : Matcher} {item : Item}
    (h : item.isDefaultImportOf name path = true) : item.namespaceHead? = none := by
  cases item with
  | node n => cases h
  | importing i =>
    have hdefault : i.isExclusivelyDefault = true := by
      simp only [isDefaultImportOf, import?, Option.any_some, Import.isDefaultImportOf,
        Bool.and_eq_true] at h
      exact h.1.1
    simp only [namespaceHead?, import?, Option.bind_some, Import.namespaceHead?,
      Import.not_hasNamespace_of_isExclusivelyDefault hdefault, Bool.false_eq_true, if_false]

end Item

/-- The import that names join does not count here, and so it does not matter whether it was
    there before. -/
theorem ImportPlace.filterMap_namespaceHead? {path : Matcher} {body before after : List Item}
    {base : Import} (h : ImportPlace path body before base after) :
    body.filterMap Item.namespaceHead? =
      before.filterMap Item.namespaceHead? ++ after.filterMap Item.namespaceHead? := by
  have hbase : (Item.importing base).namespaceHead? = none := by
    have hnamespace := Import.not_hasNamespace_of_takesNames h.takesNames_base
    simp only [Item.namespaceHead?, Item.import?, Option.bind_some, Import.namespaceHead?,
      hnamespace, Bool.false_eq_true, if_false]
  cases h with
  | existing hbody _ _ =>
    rw [hbody, List.filterMap_append, List.filterMap_cons_none hbase]
  | new _ _ _ hbody _ _ => rw [hbody, List.filterMap_append]

namespace Module

variable {m : Module}

theorem namespaceHeads_importFragment (m : Module) :
    m.importFragment.1.namespaceHeads = m.namespaceHeads := by
  rw [namespaceHeads, importFragment, List.filterMap_map, namespaceHeads]
  exact congrArg (List.filterMap · m.body) (funext Item.namespaceHead?_withFragment)

theorem namespaceHeads_removeNamedImports (m : Module) (name path : Matcher) :
    (m.removeNamedImports name path).1.namespaceHeads = m.namespaceHeads := by
  rw [namespaceHeads, removeNamedImports, List.filterMap_map, List.filterMap_filterMap,
    namespaceHeads]
  exact congrArg (List.filterMap · m.body) (funext (Item.namespaceHead?_removeNamed name path))

theorem namespaceHeads_removeDefaultImports (m : Module) (name path : Matcher) :
    (m.removeDefaultImports name path).1.namespaceHeads = m.namespaceHeads := by
  rw [namespaceHeads, removeDefaultImports, List.filterMap_filter, namespaceHeads]
  refine congrArg (List.filterMap · m.body) (funext fun item => ?_)
  cases h : item.isDefaultImportOf name path with
  | true => rw [Bool.not_true, if_neg Bool.false_ne_true, Item.namespaceHead?_of_isDefaultImportOf h]
  | false => rw [Bool.not_false, if_pos rfl]

theorem namespaceHeads_addNamedImports (m : Module) (path : Matcher) (names : List String) :
    (m.addNamedImports path names).namespaceHeads = m.namespaceHeads := by
  rcases m.addNamedImports_cases path names with hsame | ⟨before, base, after, missing, hplace, hadd⟩
  · rw [hsame]
  · rw [hadd, namespaceHeads, namespaceHeads, hplace.filterMap_namespaceHead?,
      (hplace.withNames missing).filterMap_namespaceHead?]

/-- **No edit makes or loses an import with `* as x`.** -/
theorem namespaceHeads_edit (m : Module) (change : ImportEdit) :
    (m.edit change).namespaceHeads = m.namespaceHeads := by
  cases change with
  | addFragment => exact m.namespaceHeads_importFragment
  | addNamed path names => exact m.namespaceHeads_addNamedImports path names
  | removeNamed name path => exact m.namespaceHeads_removeNamedImports name path
  | removeDefault name path => exact m.namespaceHeads_removeDefaultImports name path

end Module

/-! ### Which edits keep a module grammatical -/

namespace Module

variable {m : Module}

theorem grammatical_iff_body :
    m.Grammatical ↔ ∀ i, .importing i ∈ m.body → i.isGrammatical = true := by
  simp only [Grammatical, mem_imports]

theorem Grammatical.removeNamedImports (h : m.Grammatical) (name path : Matcher) :
    (m.removeNamedImports name path).1.Grammatical := by
  rw [grammatical_iff_body] at h ⊢
  intro j hj
  rw [Module.removeNamedImports, List.filterMap_map] at hj
  obtain ⟨item, hitem, hkept⟩ := List.mem_filterMap.mp hj
  cases item with
  | node n => cases hkept
  | importing i =>
    rw [Function.comp_apply, Item.removeNamed_importing] at hkept
    split at hkept
    · split at hkept
      · cases hkept
      · cases hkept
        exact Import.isGrammatical_of_subset List.filter_sublist.subset (h i hitem)
    · cases hkept
      exact h _ hitem

theorem Grammatical.removeDefaultImports (h : m.Grammatical) (name path : Matcher) :
    (m.removeDefaultImports name path).1.Grammatical := by
  rw [grammatical_iff_body] at h ⊢
  exact fun i hi => h i (List.mem_filter.mp hi).1

theorem Grammatical.addNamedImports (h : m.Grammatical) (path : Matcher) (names : List String) :
    (m.addNamedImports path names).Grammatical := by
  rcases m.addNamedImports_cases path names with hsame | ⟨before, base, after, missing, hplace, hadd⟩
  · rw [hsame]
    exact h
  · rw [grammatical_iff_body] at h ⊢
    rw [hadd]
    intro i hi
    have hcut : .importing i ∈ before ++ after ∨ i = base.withNames missing := by
      simp only [List.mem_append, List.mem_cons, Item.importing.injEq] at hi ⊢
      tauto
    rcases hcut with hold | rfl
    · exact h i (hplace.mem_body hold)
    · exact Import.isGrammatical_of_not_hasNamespace
        (Import.not_hasNamespace_of_takesNames (hplace.withNames missing).takesNames_base)

/-- Some value import from `react` has `* as x`. -/
def HasReactNamespace (m : Module) : Prop :=
  ∃ i ∈ m.imports, i.source.value = "react" ∧ i.typeOnly = false ∧ i.hasNamespace = true

instance (m : Module) : Decidable m.HasReactNamespace :=
  inferInstanceAs (Decidable (∃ i ∈ m.imports,
    i.source.value = "react" ∧ i.typeOnly = false ∧ i.hasNamespace = true))

theorem hasReactNamespace_iff_heads :
    m.HasReactNamespace ↔ ∃ head ∈ m.namespaceHeads, head.1.value = "react" ∧ head.2 = false := by
  have hheads : m.namespaceHeads = m.imports.filterMap Import.namespaceHead? :=
    List.filterMap_filterMap.symm
  rw [hheads]
  constructor
  · rintro ⟨i, hi, hsource, hvalue, hnamespace⟩
    refine ⟨(i.source, i.typeOnly), List.mem_filterMap.mpr ⟨i, hi, ?_⟩, hsource, hvalue⟩
    rw [Import.namespaceHead?, if_pos hnamespace]
  · rintro ⟨head, hhead, hsource, hvalue⟩
    obtain ⟨i, hi, hsome⟩ := List.mem_filterMap.mp hhead
    unfold Import.namespaceHead? at hsome
    split at hsome
    · rename_i hnamespace
      cases hsome
      exact ⟨i, hi, hsource, hvalue, hnamespace⟩
    · cases hsome

theorem hasReactNamespace_edit (m : Module) (change : ImportEdit) :
    (m.edit change).HasReactNamespace ↔ m.HasReactNamespace := by
  rw [hasReactNamespace_iff_heads, namespaceHeads_edit, hasReactNamespace_iff_heads]

/-- **Adding `Fragment` asks no question.** It breaks a module that has `* as x` among the
    imports it adds to, and no other. -/
theorem Grammatical.importFragment_iff (h : m.Grammatical) :
    m.importFragment.1.Grammatical ↔ ¬ m.HasReactNamespace := by
  constructor
  · rintro hafter ⟨i, hi, hsource, hvalue, hnamespace⟩
    have hlacks : i.lacksFragment = true := by
      simp [Import.lacksFragment, hsource, hvalue,
        Import.not_hasFragment_of_hasNamespace (h i hi) hnamespace]
    have hextended : i.withFragment ∈ m.importFragment.1.imports := by
      refine mem_imports.mpr (List.mem_map.mpr ⟨.importing i, mem_imports.mp hi, ?_⟩)
      rw [Item.withFragment, if_pos hlacks]
    have hgood := hafter _ hextended
    rw [Import.not_isGrammatical_withFragment hnamespace] at hgood
    cases hgood
  · intro hnone
    rw [grammatical_iff_body]
    intro j hj
    obtain ⟨item, hitem, hchanged⟩ := List.mem_map.mp hj
    cases item with
    | node n => cases hchanged
    | importing i =>
      have hi : i ∈ m.imports := mem_imports.mpr hitem
      rw [Item.withFragment, Item.importing.injEq] at hchanged
      subst hchanged
      split
      · rename_i hlacks
        simp only [Import.lacksFragment, Bool.and_eq_true, beq_iff_eq, Bool.not_eq_true'] at hlacks
        refine Import.isGrammatical_of_not_hasNamespace ?_
        rw [Import.hasNamespace_withFragment, ← Bool.not_eq_true]
        exact fun hnamespace => hnone ⟨i, hi, hlacks.1.1, hlacks.1.2, hnamespace⟩
      · exact h i hi

theorem Grammatical.edit_iff (h : m.Grammatical) (change : ImportEdit) :
    (m.edit change).Grammatical ↔ (change = .addFragment → ¬ m.HasReactNamespace) := by
  cases change with
  | addFragment => simpa [edit] using h.importFragment_iff
  | addNamed path names => simpa [edit] using h.addNamedImports path names
  | removeNamed name path => simpa [edit] using h.removeNamedImports name path
  | removeDefault name path => simpa [edit] using h.removeDefaultImports name path

/-- **Runs of edits.** A module that is grammatical stays so at every stage of a run, unless
    the run adds `Fragment` and a value import from `react` has `* as x`. Then it does not. -/
theorem grammatical_stages_iff (m : Module) (edits : List ImportEdit) (h : m.Grammatical) :
    (∀ k, (m.applyEdits (edits.take k)).Grammatical) ↔
      (.addFragment ∈ edits → ¬ m.HasReactNamespace) := by
  -- The condition speaks of the module at the start: no edit of the run changes it.
  induction edits generalizing m with
  | nil =>
    constructor
    · exact fun _ => nofun
    · intro _ k
      rw [List.take_nil]
      exact h
  | cons change edits ih =>
    constructor
    · intro hstages hmem
      have hfirst : (m.edit change).Grammatical := hstages 1
      rcases List.mem_cons.mp hmem with hhead | htail
      · exact (h.edit_iff change).mp hfirst hhead.symm
      · rw [← hasReactNamespace_edit m change]
        exact (ih (m.edit change) hfirst).mp (fun k => hstages (k + 1)) htail
    · intro hsafe k
      have hfirst : (m.edit change).Grammatical :=
        (h.edit_iff change).mpr fun hhead => hsafe (hhead ▸ List.mem_cons_self)
      cases k with
      | zero => exact h
      | succ k =>
        refine (ih (m.edit change) hfirst).mpr (fun htail => ?_) k
        rw [hasReactNamespace_edit]
        exact hsafe (List.mem_cons_of_mem _ htail)

/-- A run with all four edits, on a module that imports `* as ui` from another source. -/
theorem grammatical_stages_iff_mixed :
    let m : Module :=
      ⟨[.importing { Import.bare "ui" with specifiers := [.namespaceAs "ui"] },
        .importing { Import.bare "react" with specifiers := [.defaultAs "React"] }]⟩
    let edits : List ImportEdit :=
      [.addNamed (.exact "ui") ["Button"], .addFragment, .removeDefault .any .any,
        .removeNamed .any .any]
    m.Grammatical ∧ ∀ k, (m.applyEdits (edits.take k)).Grammatical := by
  intro m edits
  have hgrammatical : m.Grammatical := by decide
  have hreact : ¬ m.HasReactNamespace := by decide
  exact ⟨hgrammatical, (grammatical_stages_iff m edits hgrammatical).mpr fun _ => hreact⟩

/-- `import * as React from "react"` comes out as `import * as React, { Fragment as F }`. -/
theorem not_grammatical_addFragment :
    let m : Module := ⟨[.importing { Import.bare "react" with
      specifiers := [.namespaceAs "React"] }]⟩
    m.Grammatical ∧ ¬ (m.applyEdits [.addFragment]).Grammatical := by
  decide

end Module

end JsxEdit
