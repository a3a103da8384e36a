import JsxEdit.Proofs.Pruning

/-!
  **Looking for named imports, and removing them.**

  Whether a name is imported from a path, and what a removal of that name takes, is decided by
  the same questions about an import, except for one. Asked for anything at all, a query does
  not look for a named specifier. It then takes `import * as x` and `import "x"` for named
  imports (`Import.isNameless`), and a removal finds nothing in them to take.

  This is the only difference (`Import.isNamedImportOf_eq`). For an exact name or a pattern the
  query holds if and only if the removal takes something, and it holds no more afterwards. For
  anything at all it holds before and after, if there is such an import from the path.
-/

namespace JsxEdit

/-! ### What a query asks of an import -/

/-- An import without named specifiers that is not just a default name: it binds `* as x`, or
    it binds nothing. -/
def Import.isNameless (i : Import) : Bool :=
  !i.isExclusivelyDefault && !i.specifiers.any Specifier.isNamed

theorem Matcher.eq_any_of_isAny {m : Matcher} (h : m.isAny = true) : m = .any := by
  cases m with
  | any => rfl
  | exact text => cases h
  | pattern p => cases h

/-- Asked for every name, each named specifier answers and no other. -/
theorem Specifier.importsAsked_any : Specifier.importsAsked Matcher.any.accepts = isNamed := by
  funext s
  rw [← any_imported?]
  cases s <;> rfl

namespace Import

variable {i : Import} {name path : Matcher}

theorem not_importsAsked_of_isExclusivelyDefault (h : i.isExclusivelyDefault = true)
    (asked : String → Bool) : i.importsAsked asked = false := by
  obtain ⟨binding, honly⟩ := specifiers_of_isExclusivelyDefault h
  simp [importsAsked, honly, Specifier.importsAsked]

theorem hasNamed_eq (i : Import) (name : Matcher) :
    i.hasNamed name = (name.isAny || i.importsAsked name.accepts) := by
  simp only [hasNamed, importsAsked, Specifier.any_imported?]

/-- **What a query asks**, without its exceptions: a matching source, and a named specifier that
    matches. Asked for anything, it does with an import that has no name at all. -/
theorem isNamedImportOf_eq (i : Import) (name path : Matcher) :
    i.isNamedImportOf name path =
      (path.accepts i.source.value &&
        (i.importsAsked name.accepts || name.isAny && i.isNameless)) := by
  rw [isNamedImportOf, hasNamed_eq, isFrom, isNameless]
  cases hdefault : i.isExclusivelyDefault with
  | true => simp [not_importsAsked_of_isExclusivelyDefault hdefault]
  | false =>
    cases hany : name.isAny with
    | false => simp [Bool.and_comm]
    | true =>
      have hnamed : i.importsAsked name.accepts = i.specifiers.any Specifier.isNamed := by
        rw [importsAsked, Matcher.eq_any_of_isAny hany, Specifier.importsAsked_any]
      simp [hnamed]

end Import

/-! ### What a removal finds -/

namespace Module

variable {m : Module} {name path : Matcher}

theorem prune_count_pos_iff {gone : String → Specifier → Bool} :
    0 < (m.prune gone).2 ↔ ∃ i ∈ m.imports, ∃ s ∈ i.specifiers, gone i.source.value s = true := by
  rw [prune, List.length_pos_iff_exists_mem]
  constructor
  · rintro ⟨s, hs⟩
    obtain ⟨item, hitem, hpruned⟩ := List.mem_flatMap.mp hs
    cases item with
    | node n => cases hpruned
    | importing i =>
      obtain ⟨hmem, hgone⟩ := List.mem_filter.mp hpruned
      exact ⟨i, mem_imports.mpr hitem, s, hmem, hgone⟩
  · rintro ⟨i, hi, s, hs, hgone⟩
    refine ⟨s, List.mem_flatMap.mpr ⟨.importing i, mem_imports.mp hi, ?_⟩⟩
    exact List.mem_filter.mpr ⟨hs, hgone⟩

theorem mem_imports_prune {gone : String → Specifier → Bool} {j : Import} :
    j ∈ (m.prune gone).1.imports ↔
      ∃ i ∈ m.imports, i.prune? (gone i.source.value) = some j := by
  rw [mem_imports, prune, List.mem_filterMap]
  constructor
  · rintro ⟨item, hitem, hkept⟩
    cases item with
    | node n => cases hkept
    | importing i =>
      obtain ⟨kept, hprune, hsame⟩ := Option.map_eq_some_iff.mp hkept
      cases hsame
      exact ⟨i, mem_imports.mpr hitem, hprune⟩
  · rintro ⟨i, hi, hprune⟩
    refine ⟨.importing i, mem_imports.mp hi, ?_⟩
    rw [Item.prune?, hprune, Option.map_some]

/-- A removal takes something if and only if a named specifier from the path matches. -/
theorem removeNamedImports_pos_iff :
    0 < (m.removeNamedImports name path).2 ↔
      ∃ i ∈ m.imports, path.accepts i.source.value = true ∧ i.importsAsked name.accepts = true := by
  rw [removeNamedImports_eq, prune_count_pos_iff]
  simp only [removalOf, Bool.and_eq_true, Import.importsAsked, List.any_eq_true]
  constructor
  · rintro ⟨i, hi, s, hs, hpath, hname⟩
    exact ⟨i, hi, hpath, s, hs, hname⟩
  · rintro ⟨i, hi, hpath, s, hs, hname⟩
    exact ⟨i, hi, s, hs, hpath, hname⟩

/-! ### Query and removal -/

theorem hasNamedImport_iff :
    m.hasNamedImport name path = true ↔
      ∃ i ∈ m.imports, path.accepts i.source.value = true ∧
        (i.importsAsked name.accepts = true ∨ name.isAny = true ∧ i.isNameless = true) := by
  rw [hasNamedImport, Bool.not_eq_true', List.isEmpty_eq_false_iff_exists_mem]
  simp only [namedImports, List.mem_filter, Import.isNamedImportOf_eq, Bool.and_eq_true,
    Bool.or_eq_true]

/-- A query finds what a removal takes, and the nameless imports if it is asked for anything. -/
theorem hasNamedImport_iff_removeNamedImports :
    m.hasNamedImport name path = true ↔
      0 < (m.removeNamedImports name path).2 ∨
        name.isAny = true ∧
          ∃ i ∈ m.imports, path.accepts i.source.value = true ∧ i.isNameless = true := by
  rw [hasNamedImport_iff, removeNamedImports_pos_iff]
  constructor
  · rintro ⟨i, hi, hpath, hnamed | ⟨hany, hnameless⟩⟩
    · exact Or.inl ⟨i, hi, hpath, hnamed⟩
    · exact Or.inr ⟨hany, i, hi, hpath, hnameless⟩
  · rintro (⟨i, hi, hpath, hnamed⟩ | ⟨hany, i, hi, hpath, hnameless⟩)
    · exact ⟨i, hi, hpath, Or.inl hnamed⟩
    · exact ⟨i, hi, hpath, Or.inr ⟨hany, hnameless⟩⟩

/-- After a removal of anything, an import from the path has what it had besides names. -/
theorem mem_imports_removeNamedImports_any {j : Import} (hpath : path.accepts j.source.value = true) :
    j ∈ (m.removeNamedImports .any path).1.imports ↔
      ∃ i ∈ m.imports, path.accepts i.source.value = true ∧
        i.prune? Specifier.isNamed = some j := by
  have hgone : ∀ i : Import, path.accepts i.source.value = true →
      removalOf Matcher.any.accepts path.accepts i.source.value = Specifier.isNamed := by
    intro i hi
    funext s
    rw [removalOf, hi, Bool.true_and, Specifier.importsAsked_any]
  rw [removeNamedImports_eq, mem_imports_prune]
  constructor
  · rintro ⟨i, hi, hprune⟩
    rw [Import.source_prune? hprune] at hpath
    rw [hgone i hpath] at hprune
    exact ⟨i, hi, hpath, hprune⟩
  · rintro ⟨i, hi, hfrom, hprune⟩
    rw [← hgone i hfrom] at hprune
    exact ⟨i, hi, hprune⟩

/-- After the removal a query finds only what has no name. -/
theorem hasNamedImport_removeNamedImports_iff :
    (m.removeNamedImports name path).1.hasNamedImport name path = true ↔
      name.isAny = true ∧
        ∃ i ∈ m.imports, path.accepts i.source.value = true ∧
          ∃ j, i.prune? Specifier.isNamed = some j ∧ j.isNameless = true := by
  have hagain : ((m.removeNamedImports name path).1.removeNamedImports name path).2 = 0 := by
    simp only [removeNamedImports_eq, prune_idem]
  rw [hasNamedImport_iff_removeNamedImports, hagain]
  constructor
  · rintro (hpos | ⟨hany, j, hj, hpath, hnameless⟩)
    · exact absurd hpos (Nat.lt_irrefl 0)
    · rw [Matcher.eq_any_of_isAny hany, mem_imports_removeNamedImports_any hpath] at hj
      obtain ⟨i, hi, hfrom, hprune⟩ := hj
      exact ⟨hany, i, hi, hfrom, j, hprune, hnameless⟩
  · rintro ⟨hany, i, hi, hfrom, j, hprune, hnameless⟩
    have hpath : path.accepts j.source.value = true := by
      rw [Import.source_prune? hprune]
      exact hfrom
    refine Or.inr ⟨hany, j, ?_, hpath, hnameless⟩
    rw [Matcher.eq_any_of_isAny hany, mem_imports_removeNamedImports_any hpath]
    exact ⟨i, hi, hfrom, hprune⟩

/-- **Query and removal agree but for nameless imports.** A query returns, in order, the imports
    from the path with a named specifier that matches, and, asked for anything, also those that
    have no name. So it holds if the removal takes something or if there is such an import, and
    after the removal it holds only if one is left. -/
theorem namedImports_and_removal (m : Module) (name path : Matcher) :
    (m.namedImports name path = m.imports.filter fun i =>
      path.accepts i.source.value &&
        (i.importsAsked name.accepts || name.isAny && i.isNameless)) ∧
    (m.hasNamedImport name path = true ↔
      0 < (m.removeNamedImports name path).2 ∨
        name.isAny = true ∧
          ∃ i ∈ m.imports, path.accepts i.source.value = true ∧ i.isNameless = true) ∧
    ((m.removeNamedImports name path).1.hasNamedImport name path = true ↔
      name.isAny = true ∧
        ∃ i ∈ m.imports, path.accepts i.source.value = true ∧
          ∃ j, i.prune? Specifier.isNamed = some j ∧ j.isNameless = true) := by
  refine ⟨?_, hasNamedImport_iff_removeNamedImports, hasNamedImport_removeNamedImports_iff⟩
  simp only [namedImports, Import.isNamedImportOf_eq]

/-- `import "styles.css"` answers to the question for any named import, before and after a
    removal that takes nothing from it. -/
theorem not_hasNamedImport_iff_sideEffect :
    let m : Module := ⟨[.importing (.bare "styles.css")]⟩
    ¬ (m.hasNamedImport .any .any = true ↔ 0 < (m.removeNamedImports .any .any).2) ∧
      (m.removeNamedImports .any .any).1.hasNamedImport .any .any = true := by
  decide

end Module

end JsxEdit
