import Mathlib.Data.List.Induction
import JsxEdit.Proofs.LocalNames

/-!
  **Which names are put where.**

  `NamesPut` says what may come of names that are to be added to a module: nothing, or they
  stand at the end of the first import that is open to them, or they make up a new import
  where the imports end. It speaks of the two modules only, and not of how the second was
  found.

  An addition puts the names that are asked for and not listed (`Module.unlistedNames`). That
  is more than the names that are absent, which no import from the path has as imported or as
  local name: an overlooked local name is put as well. Where there is none, both lists are the
  same. In every case the names that are asked for are there afterwards, if the path is exact.
-/

namespace JsxEdit

/-! ### The names that are asked for -/

/-- Without the empty name, and each at its first place only. -/
def askedNames (names : List String) : List String := (names.filter (· != "")).eraseDups

theorem distinctNames_concat (names : List String) (n : String) :
    distinctNames (names ++ [n]) = addDistinct (distinctNames names) n := by
  rw [distinctNames_eq_foldl, List.foldl_append, ← distinctNames_eq_foldl]
  rfl

theorem distinctNames_eq_askedNames (names : List String) :
    distinctNames names = askedNames names := by
  induction names using List.reverseRecOn with
  | nil => rfl
  | append_singleton names n ih =>
    rw [distinctNames_concat, ih, askedNames, askedNames, List.filter_append, List.eraseDups_append]
    by_cases hempty : n = ""
    · simp [hempty, addDistinct]
    · by_cases hseen : n ∈ names
      · have hasked : n ∈ (names.filter (· != "")).eraseDups := by simp [hseen, hempty]
        rw [addDistinct_of_mem hasked]
        simp [hempty, hseen, List.removeAll]
      · have hasked : n ∉ (names.filter (· != "")).eraseDups := by simp [hseen]
        rw [addDistinct_of_not_mem hempty hasked]
        simp [hempty, hseen, List.removeAll, List.eraseDups_cons]

/-! ### The names that are there -/

namespace Specifier

/-- The imported and the local name; the former may be written as an identifier or as a
    string, and without it both are the same. -/
def names : Specifier → List String
  | named binding (some (.ident name)) _ => [name, binding]
  | named binding (some (.str literal)) _ => [literal.value, binding]
  | named binding none _ => [binding]
  | defaultAs binding => [binding]
  | namespaceAs binding => [binding]

theorem mem_names {s : Specifier} {n : String} : n ∈ s.names ↔ n = s.key ∨ n = s.binding := by
  cases s with
  | defaultAs binding => simp [names, key, imported?, Specifier.binding]
  | namespaceAs binding => simp [names, key, imported?, Specifier.binding]
  | named binding imported typeOnly =>
    cases imported with
    | none => simp [names, key, imported?, Specifier.binding]
    | some written =>
      cases written <;> simp [names, key, imported?, Specifier.binding, ImportedName.text]

/-- `{ n }` -/
def plain (n : String) : Specifier := .named n none false

end Specifier

namespace Module

/-- The imported and local names of all specifiers from the path. -/
def usedNames (m : Module) (path : Matcher) : List String :=
  (m.specifiersFrom path).flatMap Specifier.names

/-- The names that are asked for and that no specifier from the path has. -/
def absentNames (m : Module) (path : Matcher) (names : List String) : List String :=
  (askedNames names).filter fun n => !(m.usedNames path).contains n

/-- The names that are asked for and not listed. -/
def unlistedNames (m : Module) (path : Matcher) (names : List String) : List String :=
  (askedNames names).filter fun n => !(m.listedNames path).contains n

variable {m : Module} {path : Matcher} {names : List String} {n : String}

theorem missingNames_eq_unlistedNames (m : Module) (path : Matcher) (names : List String) :
    m.missingNames path names = m.unlistedNames path names := by
  rw [missingNames, unlistedNames, distinctNames_eq_askedNames]
  refine List.filter_congr fun n _ => ?_
  have hsame : n ∈ m.boundNames path ↔ n ∈ m.listedNames path := mem_boundNames
  simp [hsame]

/-- An imported name is always listed, and a local name is listed or overlooked. -/
theorem mem_usedNames :
    n ∈ m.usedNames path ↔ n ∈ m.listedNames path ∨ n ∈ m.overlookedNames path := by
  have hlocal : n ∈ m.localNames path ↔ ∃ s ∈ m.specifiersFrom path, s.binding = n := List.mem_map
  rw [usedNames, List.mem_flatMap, mem_overlookedNames]
  constructor
  · rintro ⟨s, hs, hn⟩
    rcases Specifier.mem_names.mp hn with hkey | hbinding
    · obtain ⟨i, hi, hfrom, hs⟩ := mem_specifiersFrom.mp hs
      obtain ⟨t, ht, hsame⟩ := SpecifierTable.exists_unrepeated_key hs
      exact Or.inl (mem_listedNames.mpr ⟨i, hi, hfrom, t, ht, Or.inl (hkey.trans hsame.symm)⟩)
    · by_cases hlisted : n ∈ m.listedNames path
      · exact Or.inl hlisted
      · exact Or.inr ⟨hlocal.mpr ⟨s, hs, hbinding.symm⟩, hlisted⟩
  · rintro (hlisted | ⟨hover, -⟩)
    · obtain ⟨i, hi, hfrom, s, hs, hn⟩ := mem_listedNames.mp hlisted
      have hmem := mem_specifiersFrom.mpr ⟨i, hi, hfrom, SpecifierTable.unrepeated_subset _ hs⟩
      exact ⟨s, hmem, Specifier.mem_names.mpr hn⟩
    · obtain ⟨s, hs, hbinding⟩ := hlocal.mp hover
      exact ⟨s, hs, Specifier.mem_names.mpr (Or.inr hbinding.symm)⟩

theorem mem_askedNames : n ∈ askedNames names ↔ n ∈ names ∧ n ≠ "" := by
  simp [askedNames]

/-- What is put beyond the absent names is what is overlooked. -/
theorem unlistedNames_eq_absentNames
    (h : ∀ n ∈ names, n ≠ "" → n ∉ m.overlookedNames path) :
    m.unlistedNames path names = m.absentNames path names := by
  refine List.filter_congr fun n hn => ?_
  obtain ⟨hn, hempty⟩ := mem_askedNames.mp hn
  have hused : n ∈ m.usedNames path ↔ n ∈ m.listedNames path := by
    rw [mem_usedNames, or_iff_left (h n hn hempty)]
  simp [hused]

end Module

/-! ### Where names are put -/

/-- A value import from the path without `* as x`. -/
def Import.IsOpenTo (i : Import) (path : Matcher) : Prop :=
  path.accepts i.source.value = true ∧ i.typeOnly = false ∧
    ∀ binding, .namespaceAs binding ∉ i.specifiers

theorem Import.takesNames_iff {i : Import} {path : Matcher} :
    i.takesNames path = true ↔ i.IsOpenTo path := by
  have hnamespace : i.specifiers.any Specifier.isNamespace = false ↔
      ∀ binding, .namespaceAs binding ∉ i.specifiers := by
    rw [List.any_eq_false]
    constructor
    · intro h binding hmem
      exact h _ hmem rfl
    · intro h s hs his
      cases s with
      | namespaceAs binding => exact h binding hs
      | defaultAs binding => cases his
      | named binding imported typeOnly => cases his
  rw [takesNames, acceptsNamed, Bool.and_eq_true, Bool.and_eq_true, Bool.not_eq_true',
    Bool.not_eq_true', hnamespace]
  rfl

theorem forall_not_takesNames_iff {path : Matcher} {items : List Item} :
    (∀ item ∈ items, ¬ item.takesNames path = true) ↔
      ∀ j, .importing j ∈ items → ¬ j.IsOpenTo path := by
  constructor
  · intro h j hj hopen
    exact h _ hj (Import.takesNames_iff.mpr hopen)
  · intro h item hitem htakes
    cases item with
    | node n => cases htakes
    | importing j => exact h j hitem (Import.takesNames_iff.mp htakes)

/-- What may come of names from a path that are to be put into a module. -/
inductive NamesPut (path : Matcher) (names : List String) (m : Module) : Module → Prop where
  | unchanged : NamesPut path names m m
  | joined (before : List Item) (i : Import) (after : List Item)
      (hbody : m.body = before ++ .importing i :: after) (hopen : i.IsOpenTo path)
      (hfirst : ∀ j, .importing j ∈ before → ¬ j.IsOpenTo path) :
      NamesPut path names m
        ⟨before ++ .importing { i with specifiers := i.specifiers ++ names.map .plain } :: after⟩
  | created (source : String) (before after : List Item) (hpath : path = .exact source)
      (hnone : ∀ j, .importing j ∈ m.body → ¬ j.IsOpenTo path)
      (hend : EndOfImports m.body before after) :
      NamesPut path names m
        ⟨before ++ .importing { Import.bare source with specifiers := names.map .plain } :: after⟩

theorem Import.withNames_eq (i : Import) (names : List String) :
    i.withNames names = { i with specifiers := i.specifiers ++ names.map .plain } := by
  have hplain : (fun n => Specifier.make n none) = Specifier.plain := funext Specifier.make_none
  rw [withNames, hplain]

namespace NamesPut

variable {path : Matcher} {names : List String} {m m' : Module}

/-- Names that were put somewhere went to a place for them. -/
theorem exists_place (h : NamesPut path names m m') :
    m' = m ∨ ∃ before base after, ImportPlace path m.body before base after ∧
      m' = ⟨before ++ .importing (base.withNames names) :: after⟩ := by
  cases h with
  | unchanged => exact Or.inl rfl
  | joined before i after hbody hopen hfirst =>
    have hplace := ImportPlace.existing hbody (Import.takesNames_iff.mpr hopen)
      (forall_not_takesNames_iff.mpr hfirst)
    refine Or.inr ⟨before, i, after, hplace, ?_⟩
    rw [Import.withNames_eq]
  | created source before after hpath hnone hend =>
    have hplace := ImportPlace.new source hpath rfl hend.body_eq
      (forall_not_takesNames_iff.mpr hnone) hend.insertImport_eq
    refine Or.inr ⟨before, .bare source, after, hplace, ?_⟩
    rw [Import.withNames_eq]
    rfl

/-- Which names were put can be told from the local names. -/
theorem localNames (h : NamesPut path names m m') :
    m' = m ∨ (m'.localNames path).Perm (m.localNames path ++ names) := by
  rcases h.exists_place with hsame | ⟨before, base, after, hplace, rfl⟩
  · exact Or.inl hsame
  · exact Or.inr (Module.localNames_of_place hplace names)

end NamesPut

namespace Module

variable {m : Module} {path : Matcher} {names : List String} {n : String}

/-- **What an addition puts, and where.** -/
theorem namesPut_unlistedNames (m : Module) (path : Matcher) (names : List String) :
    NamesPut path (m.unlistedNames path names) m (m.addNamedImports path names) := by
  rw [← missingNames_eq_unlistedNames]
  cases hcan : m.canTakeNames path with
  | false =>
    rw [addNamedImports_of_not_canTakeNames hcan]
    exact .unchanged
  | true =>
    by_cases hnil : m.missingNames path names = []
    · rw [addNamedImports_of_missing_nil hnil]
      exact .unchanged
    · obtain ⟨hany, before, base, after, hplace⟩ := exists_place_of_canTakeNames hcan
      cases hplace with
      | existing hbody hbase hbefore =>
        rw [addNamedImports_of_place hany (.existing hbody hbase hbefore) hnil, Import.withNames_eq]
        exact .joined before base after hbody (Import.takesNames_iff.mp hbase)
          (forall_not_takesNames_iff.mp hbefore)
      | new source hpath hbase hbody hnone hinsert =>
        -- The place says how the import is inserted; the cut says where that is.
        obtain ⟨before, after, hend⟩ := exists_endOfImports m.body
        rw [addNamedImports_of_place hany
          (.new source hpath rfl hend.body_eq hnone hend.insertImport_eq) hnil, Import.withNames_eq]
        exact .created source before after hpath (forall_not_takesNames_iff.mp hnone) hend

/-- Nothing is done only if there is nothing to put, or no place to put it. -/
theorem addNamedImports_eq_self_iff :
    m.addNamedImports path names = m ↔
      m.canTakeNames path = false ∨ m.unlistedNames path names = [] := by
  rw [← missingNames_eq_unlistedNames]
  constructor
  · intro hsame
    cases hcan : m.canTakeNames path with
    | false => exact Or.inl rfl
    | true =>
      have hlength := (localNames_addNamedImports hcan names).length_eq
      rw [hsame, List.length_append] at hlength
      exact Or.inr (List.length_eq_zero_iff.mp (by omega))
  · rintro (hcan | hnil)
    · exact addNamedImports_of_not_canTakeNames hcan names
    · exact addNamedImports_of_missing_nil hnil

/-- The names that are put are the absent ones, unless one that is asked for is overlooked. -/
theorem namesPut_absentNames_iff :
    NamesPut path (m.absentNames path names) m (m.addNamedImports path names) ↔
      (m.canTakeNames path = true → ∀ n ∈ names, n ≠ "" → n ∉ m.overlookedNames path) := by
  constructor
  · intro hput hcan n hn hempty hover
    -- The local names show that `n` was put, and no absent name is a local name.
    have hmissing := (mem_missingNames_and_localNames.mpr ⟨hn, hempty, hover⟩).1
    rcases hput.localNames with hsame | habsent
    · rcases addNamedImports_eq_self_iff.mp hsame with hnone | hnil
      · rw [hcan] at hnone
        cases hnone
      · rw [missingNames_eq_unlistedNames, hnil] at hmissing
        cases hmissing
    · have hlocal := localNames_addNamedImports hcan names
      have hperm := (List.perm_append_left_iff _).mp (hlocal.symm.trans habsent)
      have hused : n ∈ m.usedNames path := mem_usedNames.mpr (Or.inr hover)
      have hmem := hperm.mem_iff.mp hmissing
      simp [absentNames, hused] at hmem
  · intro hsafe
    cases hcan : m.canTakeNames path with
    | false =>
      rw [addNamedImports_of_not_canTakeNames hcan]
      exact .unchanged
    | true =>
      rw [← unlistedNames_eq_absentNames (hsafe hcan)]
      exact m.namesPut_unlistedNames path names

theorem exists_specifier_of_asked (m : Module) (source : String) (hn : n ∈ names)
    (hempty : n ≠ "") :
    ∃ i ∈ (m.addNamedImports (.exact source) names).imports,
      i.source.value = source ∧ ∃ s ∈ i.specifiers, n ∈ s.names := by
  obtain ⟨before, base, after, hplace⟩ := exists_place_exact m.body source
  have hbound := (mem_boundNames_addNamedImports rfl hplace names n).mpr
    (Or.inr (mem_distinctNames.mpr ⟨hempty, hn⟩))
  obtain ⟨i, hi, hfrom, s, hs, hname⟩ := mem_listedNames.mp (mem_boundNames.mp hbound)
  refine ⟨i, hi, (beq_iff_eq.mp hfrom).symm, s, SpecifierTable.unrepeated_subset _ hs, ?_⟩
  exact Specifier.mem_names.mpr hname

/-- **Adding names touches one place and brings every name.** What is put there are the names
    that are asked for and not listed, in the order in which they are first asked for, and if
    there are any and a place for them, they are put. They are the absent names if and only if
    no overlooked name is asked for, or none can be put. From an exact source every name is
    there afterwards, and without a path nothing is done. -/
theorem addNamedImports_puts (m : Module) (path : Matcher) (names : List String) :
    NamesPut path (m.unlistedNames path names) m (m.addNamedImports path names) ∧
    (m.addNamedImports path names = m ↔
      m.canTakeNames path = false ∨ m.unlistedNames path names = []) ∧
    (NamesPut path (m.absentNames path names) m (m.addNamedImports path names) ↔
      (m.canTakeNames path = true → ∀ n ∈ names, n ≠ "" → n ∉ m.overlookedNames path)) ∧
    (∀ source, ∀ n ∈ names, n ≠ "" →
      ∃ i ∈ (m.addNamedImports (.exact source) names).imports,
        i.source.value = source ∧ ∃ s ∈ i.specifiers, n ∈ s.names) ∧
    m.addNamedImports .any names = m := by
  refine ⟨m.namesPut_unlistedNames path names, addNamedImports_eq_self_iff,
    namesPut_absentNames_iff, ?_, rfl⟩
  intro source n hn hempty
  exact m.exists_specifier_of_asked source hn hempty

/-- No name is absent from `{ a as x, a as y }` that is asked for `x`, and yet it changes. -/
theorem not_namesPut_absentNames_repeated :
    let m : Module := ⟨[.importing { Import.bare "ui" with specifiers :=
      [.named "x" (some (.ident "a")) false, .named "y" (some (.ident "a")) false] }]⟩
    m.absentNames (.exact "ui") ["x"] = [] ∧
      ¬ NamesPut (.exact "ui") (m.absentNames (.exact "ui") ["x"]) m
        (m.addNamedImports (.exact "ui") ["x"]) := by
  intro m
  have habsent : m.absentNames (.exact "ui") ["x"] = [] := by decide
  have hbefore : (m.localNames (.exact "ui")).length = 2 := by decide
  have hafter : ((m.addNamedImports (.exact "ui") ["x"]).localNames (.exact "ui")).length = 3 := by
    decide
  refine ⟨habsent, fun hput => ?_⟩
  rw [habsent] at hput
  rcases hput.localNames with hsame | hperm
  · rw [hsame] at hafter
    omega
  · have hlength := hperm.length_eq
    rw [List.append_nil] at hlength
    omega

end Module

end JsxEdit
