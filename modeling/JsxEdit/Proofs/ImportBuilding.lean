import JsxEdit.Proofs.LocalNames
import JsxEdit.Proofs.SpecifierTables

/-!
  **Building an import and reading it back.**

  A named specifier is built from a name and maybe an alias. The name is written only where it is
  not the local name as well, and the readers have to put it back: the table of the import lists
  each specifier under the name that it was built from. The local name is `boundAs`, which is the
  alias unless that is missing or empty.

  Local names can coincide, with each other and with the names of other specifiers, as in
  `{ a as b, b }`. Only the names are keys, so distinct names are all that a table needs to show
  every specifier in its place. What it shows is also enough to build the same import again.
-/

namespace JsxEdit

/-- The local name of what is imported under an alias, or without one. -/
def boundAs (name : String) : Option String → String
  | some other => if other = "" then name else other
  | none => name

/-- The local name can be given for an alias itself. -/
theorem boundAs_boundAs (name : String) (alias? : Option String) :
    boundAs name (some (boundAs name alias?)) = boundAs name alias? := by
  cases alias? with
  | none => exact ite_self name
  | some other => by_cases hempty : other = "" <;> simp [boundAs, hempty]

/-! ### One specifier -/

namespace Specifier

theorem make_eq (name : String) (alias? : Option String) :
    make name alias? =
      .named (boundAs name alias?)
        (if boundAs name alias? = name then none else some (.ident name)) false := by
  have hlocal : (alias?.filter (· != "")).getD name = boundAs name alias? := by
    cases alias? with
    | none => rfl
    | some other => by_cases hempty : other = "" <;> simp [boundAs, Option.filter, hempty]
  rw [make, hlocal]

/-- A specifier is the same when it is built with its local name for an alias. -/
theorem make_boundAs (name : String) (alias? : Option String) :
    make name (some (boundAs name alias?)) = make name alias? := by
  rw [make_eq, make_eq, boundAs_boundAs]

theorem binding_make (name : String) (alias? : Option String) :
    (make name alias?).binding = boundAs name alias? := by
  rw [make_eq]
  rfl

theorem entry_make (name : String) (alias? : Option String) :
    SpecifierTable.entry (make name alias?) =
      (name, ⟨boundAs name alias?, .namedSpecifier⟩) := by
  rw [SpecifierTable.entry, key_make, binding_make]
  rfl

theorem isValid_eq_not_isNamespace (s : Specifier) : s.isValid = !s.isNamespace := by
  cases s <;> rfl

end Specifier

/-! ### The import -/

namespace Import

/-- The import of the names from the path, each with its alias. -/
def ofNames (path : String) (pairs : List (String × Option String)) : Import :=
  { bare path with specifiers := pairs.map fun p => .make p.1 p.2 }

variable {pairs : List (String × Option String)} {specifiers : List Specifier}

/-- Namespace specifiers are left out of what is built, wherever they stand. -/
theorem make?_of_mixed (hne : pairs ≠ [])
    (hmixed : specifiers.filter (!·.isNamespace) = pairs.map fun p => .make p.1 p.2)
    (path : String) : make? specifiers path = some (ofNames path pairs) := by
  have hvalid : specifiers.filter Specifier.isValid = pairs.map fun p => .make p.1 p.2 := by
    rw [← hmixed]
    exact List.filter_congr fun s _ => s.isValid_eq_not_isNamespace
  rw [make?_eq_some_iff, hvalid]
  exact ⟨mt List.map_eq_nil_iff.mp hne, rfl⟩

theorem make?_specifiers_ofNames (hne : pairs ≠ []) (path : String) :
    make? (ofNames path pairs).specifiers path = some (ofNames path pairs) := by
  apply make?_of_mixed hne
  apply List.filter_eq_self.mpr
  intro s hs
  obtain ⟨p, -, rfl⟩ := List.mem_map.mp hs
  rfl

theorem isFrom_ofNames (path : String) (pairs : List (String × Option String)) :
    (ofNames path pairs).isFrom (.exact path) = true := beq_self_eq_true path

theorem bindings_ofNames (path : String) (pairs : List (String × Option String)) :
    (ofNames path pairs).specifiers.map Specifier.binding = pairs.map fun p => boundAs p.1 p.2 := by
  simp [ofNames, Function.comp_def, Specifier.binding_make]

/-- The table of an import of distinct names has an entry for each of them. -/
theorem specifierTable_ofNames (path : String) (hnames : (pairs.map (·.1)).Nodup) :
    (ofNames path pairs).specifierTable none =
      pairs.map fun p => (p.1, ⟨boundAs p.1 p.2, .namedSpecifier⟩) := by
  have hkeys : (ofNames path pairs).specifiers.map Specifier.key = pairs.map (·.1) := by
    simp [ofNames, Function.comp_def, Specifier.key_make]
  rw [← hkeys] at hnames
  rw [specifierTable_none, SpecifierTable.ofSpecifiers_eq_map_iff.mpr hnames]
  simp [ofNames, Function.comp_def, Specifier.entry_make]

/-- The table tells the specifiers of an import of distinct names. -/
theorem map_make_specifierTable_ofNames (path : String) (hnames : (pairs.map (·.1)).Nodup) :
    ((ofNames path pairs).specifierTable none).map (fun e => .make e.1 (some e.2.binding)) =
      (ofNames path pairs).specifiers := by
  rw [specifierTable_ofNames path hnames, List.map_map]
  simp only [ofNames, Function.comp_def, Specifier.make_boundAs]

end Import

/-! ### Local names -/

theorem Matcher.acceptsName_exact_iff {x n : String} :
    (exact x).acceptsName (some n) = true ↔ x ≠ "" ∧ x = n := by
  simp only [acceptsName, accepts, Bool.and_eq_true, bne_iff_ne, beq_iff_eq]
  constructor
  · rintro ⟨hn, rfl⟩
    exact ⟨hn, rfl⟩
  · rintro ⟨hx, rfl⟩
    exact ⟨hx, rfl⟩

namespace Module

variable {m : Module} {path : Matcher} {x : String}

/-- A name is found to be bound from a source exactly if it is one of the local names from there.
    The empty name is never found. -/
theorem bindsFromSource_exact_iff :
    m.bindsFromSource (.exact x) path = true ↔ x ≠ "" ∧ x ∈ m.localNames path := by
  simp only [bindsFromSource, List.any_eq_true, Bool.and_eq_true, Matcher.acceptsName_exact_iff,
    localNames, List.mem_map, mem_specifiersFrom]
  constructor
  · rintro ⟨i, hi, hfrom, s, hs, hx, heq⟩
    exact ⟨hx, s, ⟨i, hi, hfrom, hs⟩, heq.symm⟩
  · rintro ⟨hx, s, ⟨i, hi, hfrom, hs⟩, heq⟩
    exact ⟨i, hi, hfrom, s, hs, hx, heq.symm⟩

theorem localNames_of_imports_eq {i : Import} (himports : m.imports = [i])
    (hfrom : i.isFrom path = true) : m.localNames path = i.specifiers.map Specifier.binding := by
  simp [localNames, specifiersFrom, himports, hfrom]

end Module

/-! ### There and back -/

/-- **An import reads back as it was built.** From names, each at most once and with or without an
    alias, and with namespace specifiers anywhere among them, an import is built. Its table has an
    entry for each name, in order, with the local name; the import that is built from the table is
    the same; and where it is the only import of a module, the names that the module binds from
    the path are the local names that are not empty. -/
theorem Import.make?_reads_back (path : String) (pairs : List (String × Option String))
    (specifiers : List Specifier) (hne : pairs ≠ [])
    (hnames : (pairs.map (·.1)).Nodup)
    (hmixed : specifiers.filter (!·.isNamespace) = pairs.map fun p => .make p.1 p.2) :
    ∃ i, Import.make? specifiers path = some i ∧
      (Item.importing i).shape.specifierTable? none =
        some (pairs.map fun p => (p.1, ⟨boundAs p.1 p.2, .namedSpecifier⟩)) ∧
      Import.make? ((i.specifierTable none).map fun e => .make e.1 (some e.2.binding)) path =
        some i ∧
      ∀ (m : Module) (x : String), m.imports = [i] →
        (m.bindsFromSource (.exact x) (.exact path) = true ↔
          x ≠ "" ∧ x ∈ pairs.map fun p => boundAs p.1 p.2) := by
  refine ⟨ofNames path pairs, make?_of_mixed hne hmixed path, ?_, ?_, ?_⟩
  · exact congrArg some (specifierTable_ofNames path hnames)
  · rw [map_make_specifierTable_ofNames path hnames]
    exact make?_specifiers_ofNames hne path
  · intro m x himports
    rw [Module.bindsFromSource_exact_iff,
      Module.localNames_of_imports_eq himports (isFrom_ofNames path pairs), bindings_ofNames]

/-- `{ a as b, b, c }` and the empty name, with `* as all` among them: an alias, an empty alias, the
    name for an alias and none. The local name `b` is there twice, `a` is none, and the empty one
    is not found. -/
theorem Import.make?_reads_back_repeated :
    let specifiers : List Specifier :=
      [.make "a" (some "b"), .namespaceAs "all", .make "b" (some ""), .make "c" (some "c"),
        .make "" none]
    let m (i : Import) : Module := ⟨[.node (.other .emptyStatement [] []), .importing i]⟩
    ∃ i, Import.make? specifiers "ui" = some i ∧
      (Item.importing i).shape.specifierTable? none =
        some [("a", ⟨"b", .namedSpecifier⟩), ("b", ⟨"b", .namedSpecifier⟩),
          ("c", ⟨"c", .namedSpecifier⟩), ("", ⟨"", .namedSpecifier⟩)] ∧
      Import.make? ((i.specifierTable none).map fun e => .make e.1 (some e.2.binding)) "ui" =
        some i ∧
      ∀ x, (m i).bindsFromSource (.exact x) (.exact "ui") = (x == "b" || x == "c") := by
  intro specifiers m
  obtain ⟨i, hbuilt, htable, hagain, hbinds⟩ :=
    make?_reads_back "ui" [("a", some "b"), ("b", some ""), ("c", some "c"), ("", none)] specifiers
      nofun (by decide) (by decide)
  refine ⟨i, hbuilt, htable, hagain, ?_⟩
  intro x
  rw [Bool.eq_iff_iff, hbinds (m i) x rfl]
  simp only [List.map_cons, List.map_nil, boundAs, List.mem_cons, Bool.or_eq_true, beq_iff_eq]
  grind

end JsxEdit
