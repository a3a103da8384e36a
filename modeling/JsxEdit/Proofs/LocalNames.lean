import Mathlib.Data.List.Nodup
import JsxEdit.Proofs.AddNames

/-!
  **When adding names makes a local name twice.**

  A name that an import from the path has already, as imported or as local name, should not
  be added again. But what the imports have is read off their tables, and a table has one
  entry for each key: of `{ a as x, a as y }` it lists `a` and `y`, and `x` is overlooked.
  Asked for `x`, the module gets `{ a as x, a as y, x }`, which binds `x` twice.

  `Module.overlookedNames` are the local names for which this happens, found without any
  table: those of specifiers whose key comes up again later in the same import, unless the
  name stands somewhere else too. The local names after an addition are those from before and
  the names that were missing (`Module.localNames_addNamedImports`), so an overlooked name that
  is asked for is all that can go wrong.
-/

namespace JsxEdit

theorem Import.bindings_withNames (i : Import) (names : List String) :
    (i.withNames names).specifiers.map Specifier.binding =
      i.specifiers.map Specifier.binding ++ names := by
  have hnew : (names.map fun n => Specifier.make n none).map Specifier.binding = names := by
    simp [Function.comp_def, Specifier.make_none, Specifier.binding]
  rw [withNames, List.map_append, hnew]

namespace Module

/-! ### Local names, listed names, overlooked names -/

/-- The specifiers of all imports from the path. -/
def specifiersFrom (m : Module) (path : Matcher) : List Specifier :=
  (m.imports.filter (·.isFrom path)).flatMap Import.specifiers

/-- The local names of all specifiers from the path. -/
def localNames (m : Module) (path : Matcher) : List String :=
  (m.specifiersFrom path).map Specifier.binding

/-- The keys and local names of the specifiers from the path, without those whose keys come
    up again later in their import. -/
def listedNames (m : Module) (path : Matcher) : List String :=
  (m.imports.filter (·.isFrom path)).flatMap fun i =>
    (SpecifierTable.unrepeated i.specifiers).flatMap fun s => [s.key, s.binding]

/-- The local names from the path that are not listed. -/
def overlookedNames (m : Module) (path : Matcher) : List String :=
  (m.localNames path).filter fun n => !(m.listedNames path).contains n

variable {m : Module} {path : Matcher} {names : List String} {n : String}

theorem mem_overlookedNames :
    n ∈ m.overlookedNames path ↔ n ∈ m.localNames path ∧ n ∉ m.listedNames path := by
  simp [overlookedNames]

theorem mem_specifiersFrom {s : Specifier} :
    s ∈ m.specifiersFrom path ↔ ∃ i ∈ m.imports, i.isFrom path = true ∧ s ∈ i.specifiers := by
  simp [specifiersFrom, and_assoc]

theorem mem_listedNames :
    n ∈ m.listedNames path ↔ ∃ i ∈ m.imports, i.isFrom path = true ∧
      ∃ s ∈ SpecifierTable.unrepeated i.specifiers, n = s.key ∨ n = s.binding := by
  simp [listedNames, and_assoc]

theorem mem_boundNames : n ∈ m.boundNames path ↔ n ∈ m.listedNames path := by
  have hbound : m.boundNames path =
      (m.imports.filter (·.isFrom path)).flatMap Import.tableNames := rfl
  rw [hbound, mem_listedNames]
  simp [Import.mem_tableNames, and_assoc]

/-- The names that are added: those that are asked for and not listed. -/
theorem mem_missingNames_iff :
    n ∈ m.missingNames path names ↔ (n ≠ "" ∧ n ∈ names) ∧ n ∉ m.listedNames path := by
  rw [mem_missingNames, mem_distinctNames, mem_boundNames]

/-- An overlooked name that is asked for is added. -/
theorem mem_missingNames_and_localNames :
    n ∈ m.missingNames path names ∧ n ∈ m.localNames path ↔
      n ∈ names ∧ n ≠ "" ∧ n ∈ m.overlookedNames path := by
  rw [mem_missingNames_iff, mem_overlookedNames]
  tauto

/-! ### Local names after an addition -/

theorem localNames_eq_flatMap (m : Module) (path : Matcher) :
    m.localNames path =
      m.body.flatMap (Item.collectFrom path fun i => i.specifiers.map Specifier.binding) := by
  rw [← flatMap_importsFrom, localNames, specifiersFrom, List.map_flatMap]

/-- Names that are put into their place join the local names. -/
theorem localNames_of_place {before after : List Item} {base : Import}
    (hplace : ImportPlace path m.body before base after) (names : List String) :
    ((⟨before ++ .importing (base.withNames names) :: after⟩ : Module).localNames path).Perm
      (m.localNames path ++ names) := by
  have hbare : ∀ source, (Import.bare source).specifiers.map Specifier.binding = [] :=
    fun _ => rfl
  rw [localNames_eq_flatMap, localNames_eq_flatMap, hplace.flatMap_collectFrom hbare,
    (hplace.withNames names).flatMap_collectFrom hbare, Import.bindings_withNames]
  simp only [List.append_assoc]
  -- They stand before what the imports after the place bind, and not at the end.
  exact (List.perm_append_comm.append_left _).append_left _

/-- **What an addition does to the local names**: it adds the missing names to them. -/
theorem localNames_addNamedImports (hcan : m.canTakeNames path = true) (names : List String) :
    ((m.addNamedImports path names).localNames path).Perm
      (m.localNames path ++ m.missingNames path names) := by
  by_cases hnil : m.missingNames path names = []
  · rw [addNamedImports_of_missing_nil hnil, hnil, List.append_nil]
  · obtain ⟨hany, before, base, after, hplace⟩ := exists_place_of_canTakeNames hcan
    rw [addNamedImports_of_place hany hplace hnil]
    exact localNames_of_place hplace _

/-- **Distinct local names stay distinct** if and only if no overlooked name is asked for, or
    there is no import to put it in. -/
theorem nodup_localNames_addNamedImports_iff (m : Module) (path : Matcher) (names : List String)
    (h : (m.localNames path).Nodup) :
    ((m.addNamedImports path names).localNames path).Nodup ↔
      (m.canTakeNames path = true → ∀ n ∈ names, n ≠ "" → n ∉ m.overlookedNames path) := by
  cases hcan : m.canTakeNames path with
  | false =>
    rw [addNamedImports_of_not_canTakeNames hcan]
    exact ⟨fun _ => nofun, fun _ => h⟩
  | true =>
    rw [(localNames_addNamedImports hcan names).nodup_iff, List.nodup_append]
    constructor
    · rintro ⟨-, -, hdisjoint⟩ - n hn hempty hover
      obtain ⟨hmissing, hlocal⟩ := mem_missingNames_and_localNames.mpr ⟨hn, hempty, hover⟩
      exact hdisjoint n hlocal n hmissing rfl
    · intro hsafe
      refine ⟨h, nodup_missingNames m path names, ?_⟩
      rintro n hlocal _ hmissing rfl
      obtain ⟨hn, hempty, hover⟩ := mem_missingNames_and_localNames.mp ⟨hmissing, hlocal⟩
      exact hsafe rfl n hn hempty hover

/-- A name that is overlooked does no harm to those who ask for others. -/
theorem nodup_localNames_addNamedImports_iff_other :
    let m : Module := ⟨[.importing { Import.bare "ui" with specifiers :=
      [.named "x" (some (.ident "a")) false, .named "y" (some (.ident "a")) false] }]⟩
    (m.localNames (.exact "ui")).Nodup ∧ m.overlookedNames (.exact "ui") = ["x"] ∧
      ((m.addNamedImports (.exact "ui") ["a", "y", "", "b", "b"]).localNames (.exact "ui")).Nodup := by
  intro m
  have hnodup : (m.localNames (.exact "ui")).Nodup := by decide
  have hover : m.overlookedNames (.exact "ui") = ["x"] := by decide
  refine ⟨hnodup, hover, ?_⟩
  refine (nodup_localNames_addNamedImports_iff m _ _ hnodup).mpr fun _ => ?_
  rw [hover]
  decide

/-- `{ a as x, a as y }`, asked for `x`, comes out as `{ a as x, a as y, x }`. -/
theorem not_nodup_localNames_repeated :
    let m : Module := ⟨[.importing { Import.bare "ui" with specifiers :=
      [.named "x" (some (.ident "a")) false, .named "y" (some (.ident "a")) false] }]⟩
    (m.localNames (.exact "ui")).Nodup ∧
      ¬ ((m.addNamedImports (.exact "ui") ["x"]).localNames (.exact "ui")).Nodup := by
  decide

end Module

end JsxEdit
