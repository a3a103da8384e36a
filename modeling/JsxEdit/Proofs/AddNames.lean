import JsxEdit.Proofs.ImportNames

/-!
  **Adding names in one batch or in several.**

  The names that a module lacks go to one place. Either an import takes them, the first
  from the path that is no type import and has no `* as x`, or a new import is made for
  them. `ImportPlace` says which place this is: the module is cut there, and the names join
  the import `base`, which has no specifiers yet if it is a new one. If there is no such
  place, nothing is ever added.

  The import that was extended, or made, is the one that takes the next names. So adding
  is described by a single equation, `Module.addNamedImports_of_place`, in which the names
  come one after the other, and batches of names can be joined.
-/

namespace JsxEdit

/-! ### The import that takes names -/

/-- An import from the path that named specifiers can join. -/
def Import.takesNames (i : Import) (path : Matcher) : Bool := i.isFrom path && i.acceptsNamed

def Item.takesNames (path : Matcher) (item : Item) : Bool := item.import?.any (·.takesNames path)

/-- The import that a new one starts from: it has no specifiers yet. -/
def Import.bare (source : String) : Import :=
  { specifiers := [], source := { value := source }, typeOnly := false, phase := "evaluation",
    attributes := none }

namespace Import

variable {i : Import} {path : Matcher} {names : List String}

theorem isFrom_withNames (i : Import) (names : List String) (path : Matcher) :
    (i.withNames names).isFrom path = i.isFrom path := rfl

theorem acceptsNamed_withNames (i : Import) (names : List String) :
    (i.withNames names).acceptsNamed = i.acceptsNamed := by
  have hnew : (names.map fun n => Specifier.make n none).any Specifier.isNamespace = false := by
    simp [Specifier.make_none, Specifier.isNamespace, Specifier.kind]
  simp only [acceptsNamed, withNames, List.any_append, hnew, Bool.or_false]

theorem takesNames_withNames (i : Import) (names : List String) (path : Matcher) :
    (i.withNames names).takesNames path = i.takesNames path := by
  rw [takesNames, isFrom_withNames, acceptsNamed_withNames, takesNames]

theorem isFrom_of_takesNames (h : i.takesNames path = true) : i.isFrom path = true :=
  (Bool.and_eq_true_iff.mp h).1

theorem takesNames_bare (source : String) : (bare source).takesNames (.exact source) = true := by
  simp [takesNames, bare, isFrom, Matcher.accepts, acceptsNamed]

theorem tableNames_bare (source : String) : (bare source).tableNames = [] := rfl

/-- What building an import gives: the valid specifiers, if there are any. -/
theorem make?_eq_some_iff {specifiers : List Specifier} {source : String} :
    make? specifiers source = some i ↔
      specifiers.filter Specifier.isValid ≠ [] ∧
        i = { bare source with specifiers := specifiers.filter Specifier.isValid } := by
  unfold make?
  split
  · rename_i hnone
    simp [hnone]
  · rename_i hsome
    constructor
    · intro h
      obtain rfl := Option.some.inj h
      exact ⟨hsome, rfl⟩
    · rintro ⟨-, rfl⟩
      rfl

theorem make?_names (hnames : names ≠ []) (source : String) :
    make? (names.map fun n => Specifier.make n none) source =
      some ((bare source).withNames names) := by
  have hvalid : (names.map fun n => Specifier.make n none).filter Specifier.isValid =
      names.map fun n => Specifier.make n none := by
    refine List.filter_eq_self.mpr fun s hs => ?_
    obtain ⟨n, _, rfl⟩ := List.mem_map.mp hs
    rfl
  rw [make?_eq_some_iff, hvalid]
  exact ⟨mt List.map_eq_nil_iff.mp hnames, rfl⟩

end Import

/-! ### Finding the place -/

variable {path : Matcher} {body before after : List Item} {base : Import}

theorem extendFirstImport_of_takes (specifiers : List Specifier) (after : List Item)
    (hbase : base.takesNames path = true)
    (hbefore : ∀ item ∈ before, ¬ item.takesNames path = true) :
    extendFirstImport path specifiers (before ++ .importing base :: after) =
      some (before ++
        .importing { base with specifiers := base.specifiers ++ specifiers } :: after) := by
  induction before with
  | nil =>
    rw [Import.takesNames] at hbase
    rw [List.nil_append, extendFirstImport, if_pos hbase, List.nil_append]
  | cons item before ih =>
    have hitem : ¬ item.takesNames path = true := hbefore item List.mem_cons_self
    have hrest := ih fun other h => hbefore other (List.mem_cons_of_mem _ h)
    cases item with
    | node n => rw [List.cons_append, extendFirstImport, hrest, Option.map_some, List.cons_append]
    | importing i =>
      have hi : ¬ (i.isFrom path && i.acceptsNamed) = true := hitem
      rw [List.cons_append, extendFirstImport, if_neg hi, hrest, Option.map_some, List.cons_append]

theorem extendFirstImport_of_none (specifiers : List Specifier)
    (hbody : ∀ item ∈ body, ¬ item.takesNames path = true) :
    extendFirstImport path specifiers body = none := by
  induction body with
  | nil => rfl
  | cons item body ih =>
    have hitem : ¬ item.takesNames path = true := hbody item List.mem_cons_self
    have hrest := ih fun other h => hbody other (List.mem_cons_of_mem _ h)
    cases item with
    | node n => rw [extendFirstImport, hrest, Option.map_none]
    | importing i =>
      have hi : ¬ (i.isFrom path && i.acceptsNamed) = true := hitem
      rw [extendFirstImport, if_neg hi, hrest, Option.map_none]

/-- The module is cut after its last import, or at the top if it has none. -/
structure EndOfImports (body before after : List Item) : Prop where
  body_eq : body = before ++ after
  before_end : before = [] ∨ ∃ init i, before = init ++ [.importing i]
  after_plain : ∀ i, .importing i ∉ after

theorem exists_endOfImports (body : List Item) : ∃ before after, EndOfImports body before after := by
  induction body with
  | nil => exact ⟨[], [], rfl, Or.inl rfl, nofun⟩
  | cons item rest ih =>
    obtain ⟨before, after, hrest, hend, hplain⟩ := ih
    rcases hend with rfl | ⟨init, i, rfl⟩
    · -- No import comes later, so it depends on the item.
      cases item with
      | importing i => exact ⟨[.importing i], after, by rw [hrest]; rfl, Or.inr ⟨[], i, rfl⟩, hplain⟩
      | node n =>
        refine ⟨[], .node n :: after, by rw [hrest]; rfl, Or.inl rfl, fun i hi => ?_⟩
        rcases List.mem_cons.mp hi with hi | hi
        · cases hi
        · exact hplain i hi
    · exact ⟨item :: (init ++ [.importing i]), after, by rw [hrest]; rfl,
        Or.inr ⟨item :: init, i, rfl⟩, hplain⟩

theorem any_import_eq_true_iff :
    body.any (·.import?.isSome) = true ↔ ∃ i, .importing i ∈ body := by
  rw [List.any_eq_true]
  constructor
  · rintro ⟨item, hitem, hsome⟩
    cases item with
    | importing i => exact ⟨i, hitem⟩
    | node n => cases hsome
  · rintro ⟨i, hi⟩
    exact ⟨.importing i, hi, rfl⟩

/-- A new import goes where the imports end. -/
theorem EndOfImports.insertImport_eq (h : EndOfImports body before after) (new : Import) :
    insertImport new body = before ++ .importing new :: after := by
  obtain ⟨rfl, hend, hplain⟩ := h
  have hafter : ¬ after.any (·.import?.isSome) = true := by
    rw [any_import_eq_true_iff]
    rintro ⟨i, hi⟩
    exact hplain i hi
  rcases hend with rfl | ⟨init, i, rfl⟩
  · cases after with
    | nil => rfl
    | cons item rest =>
      rw [List.any_cons, Bool.or_eq_true, not_or] at hafter
      rw [List.nil_append, insertImport, if_neg hafter.2, if_neg hafter.1, List.nil_append]
  · induction init with
    | nil =>
      rw [List.nil_append, List.singleton_append, insertImport, if_neg hafter]
      rfl
    | cons item init ih =>
      have hlater : (init ++ [Item.importing i] ++ after).any (·.import?.isSome) = true :=
        any_import_eq_true_iff.mpr ⟨i, by simp⟩
      rw [List.cons_append, List.cons_append, insertImport, if_pos hlater, ih, List.cons_append]

/-- The place where names from a path go: the module is cut into what stands `before` and
    `after`, and `base` is the import that the names join. -/
inductive ImportPlace (path : Matcher) (body before : List Item) (base : Import)
    (after : List Item) : Prop where
  | existing (hbody : body = before ++ .importing base :: after)
      (hbase : base.takesNames path = true)
      (hbefore : ∀ item ∈ before, ¬ item.takesNames path = true)
  | new (source : String) (hpath : path = .exact source) (hbase : base = .bare source)
      (hbody : body = before ++ after)
      (hnone : ∀ item ∈ body, ¬ item.takesNames path = true)
      (hinsert : ∀ i, insertImport i body = before ++ .importing i :: after)

/-- If an import takes names from the path, the first of them is the place. -/
theorem exists_place_or_forall (body : List Item) (path : Matcher) :
    (∃ before base after, ImportPlace path body before base after) ∨
      ∀ item ∈ body, ¬ item.takesNames path = true := by
  cases hfind : body.find? (·.takesNames path) with
  | some item =>
    obtain ⟨htakes, before, after, hbody, hbefore⟩ := List.find?_eq_some_iff_append.mp hfind
    cases item with
    | node n => cases htakes
    | importing base =>
      have hnone : ∀ item ∈ before, ¬ item.takesNames path = true :=
        fun item h => by simpa using hbefore item h
      exact Or.inl ⟨before, base, after, .existing hbody htakes hnone⟩
  | none => exact Or.inr (List.find?_eq_none.mp hfind)

theorem exists_place_exact (body : List Item) (source : String) :
    ∃ before base after, ImportPlace (.exact source) body before base after := by
  rcases exists_place_or_forall body (.exact source) with hplace | hnone
  · exact hplace
  · -- An exact path can always be the source of a new import.
    obtain ⟨before, after, hend⟩ := exists_endOfImports body
    exact ⟨before, .bare source, after, .new source rfl rfl hend.body_eq hnone hend.insertImport_eq⟩

namespace ImportPlace

theorem takesNames_base (h : ImportPlace path body before base after) :
    base.takesNames path = true := by
  cases h with
  | existing _ hbase _ => exact hbase
  | new source hpath hbase _ _ _ =>
    subst hpath hbase
    exact Import.takesNames_bare source

theorem not_takesNames_before (h : ImportPlace path body before base after) :
    ∀ item ∈ before, ¬ item.takesNames path = true := by
  cases h with
  | existing _ _ hbefore => exact hbefore
  | new _ _ _ hbody hnone _ =>
    intro item hitem
    exact hnone item (hbody ▸ List.mem_append_left after hitem)

theorem mem_body (h : ImportPlace path body before base after) {item : Item}
    (hitem : item ∈ before ++ after) : item ∈ body := by
  cases h with
  | existing hbody _ _ =>
    rw [hbody]
    rcases List.mem_append.mp hitem with hitem | hitem
    · exact List.mem_append_left _ hitem
    · exact List.mem_append_right _ (List.mem_cons_of_mem _ hitem)
  | new _ _ _ hbody _ _ => exact hbody ▸ hitem

/-- The place stays the same when names were put there. -/
theorem withNames (h : ImportPlace path body before base after) (names : List String) :
    ImportPlace path (before ++ .importing (base.withNames names) :: after) before
      (base.withNames names) after := by
  refine .existing rfl ?_ h.not_takesNames_before
  rw [Import.takesNames_withNames]
  exact h.takesNames_base

/-- What is read off the imports from the path, seen from the place. If an import without
    specifiers adds nothing to it, then it does not matter whether there is one. -/
theorem flatMap_collectFrom {α : Type} {f : Import → List α}
    (hbare : ∀ source, f (.bare source) = []) (h : ImportPlace path body before base after) :
    body.flatMap (Item.collectFrom path f) =
      before.flatMap (Item.collectFrom path f) ++
        (f base ++ after.flatMap (Item.collectFrom path f)) := by
  have hfrom := Import.isFrom_of_takesNames h.takesNames_base
  cases h with
  | existing hbody _ _ =>
    rw [hbody, List.flatMap_append, List.flatMap_cons, Item.collectFrom, if_pos hfrom]
  | new source _ hbase hbody _ _ =>
    rw [hbody, hbase, hbare, List.flatMap_append, List.nil_append]

theorem boundNames_eq (h : ImportPlace path body before base after) :
    body.flatMap (Item.boundNames path) =
      before.flatMap (Item.boundNames path) ++
        (base.tableNames ++ after.flatMap (Item.boundNames path)) := by
  rw [Item.boundNames_eq_collectFrom]
  exact h.flatMap_collectFrom Import.tableNames_bare

end ImportPlace

/-! ### Adding as one equation -/

namespace Module

variable {m : Module}

theorem addNamedImports_of_missing_nil {names : List String}
    (h : m.missingNames path names = []) : m.addNamedImports path names = m := by
  unfold addNamedImports
  split
  · rfl
  · rw [h]

/-- **Where the names go.** -/
theorem addNamedImports_of_place (hany : path.isAny = false)
    (hplace : ImportPlace path m.body before base after) {names : List String}
    (hmissing : m.missingNames path names ≠ []) :
    m.addNamedImports path names =
      ⟨before ++ .importing (base.withNames (m.missingNames path names)) :: after⟩ := by
  unfold addNamedImports
  rw [hany, if_neg Bool.false_ne_true]
  split
  · rename_i hnil
    exact absurd hnil hmissing
  · dsimp only
    cases hplace with
    | existing hbody hbase hbefore =>
      rw [hbody, extendFirstImport_of_takes _ _ hbase hbefore]
      rfl
    | new source hpath hbase hbody hnone hinsert =>
      subst hpath hbase
      rw [extendFirstImport_of_none _ hnone]
      simp only [Matcher.exactText?, Option.bind_some, Import.make?_names hmissing, hinsert]

/-- Can names from the path be added? From an exact source always; from a pattern, which
    cannot be the source of a new import, if an import takes them. -/
def canTakeNames (m : Module) : Matcher → Bool
  | .exact _ => true
  | .pattern p => m.imports.any (·.takesNames (.pattern p))
  | .any => false

theorem exists_place_of_canTakeNames (h : m.canTakeNames path = true) :
    path.isAny = false ∧ ∃ before base after, ImportPlace path m.body before base after := by
  cases path with
  | any => cases h
  | exact source => exact ⟨rfl, exists_place_exact m.body source⟩
  | pattern p =>
    refine ⟨rfl, ?_⟩
    rcases exists_place_or_forall m.body (.pattern p) with hplace | hnone
    · exact hplace
    · obtain ⟨i, hi, htakes⟩ := List.any_eq_true.mp h
      obtain ⟨item, hitem, himport⟩ := List.mem_filterMap.mp hi
      refine absurd ?_ (hnone item hitem)
      rw [Item.takesNames, himport, Option.any_some]
      exact htakes

theorem addNamedImports_of_not_canTakeNames (h : m.canTakeNames path = false)
    (names : List String) : m.addNamedImports path names = m := by
  cases path with
  | any => rfl
  | exact source => cases h
  | pattern p =>
    have hnone : ∀ item ∈ m.body, ¬ item.takesNames (.pattern p) = true := by
      intro item hitem htakes
      obtain ⟨i, hi, htakes⟩ := Option.any_eq_true _ _ |>.mp htakes
      have hmem : i ∈ m.imports := List.mem_filterMap.mpr ⟨item, hitem, hi⟩
      exact List.any_eq_false.mp h i hmem htakes
    unfold addNamedImports
    split
    · rfl
    · split
      · rfl
      · simp only [extendFirstImport_of_none _ hnone, Matcher.exactText?, Option.bind_none]

/-- Either there is a place for names, or no names are ever added. -/
theorem exists_place_or_inert (m : Module) (path : Matcher) :
    (path.isAny = false ∧ ∃ before base after, ImportPlace path m.body before base after) ∨
      ∀ names, m.addNamedImports path names = m := by
  cases h : m.canTakeNames path with
  | true => exact Or.inl (exists_place_of_canTakeNames h)
  | false => exact Or.inr (addNamedImports_of_not_canTakeNames h)

/-- Adding names changes nothing, or puts what is missing into its place. -/
theorem addNamedImports_cases (m : Module) (path : Matcher) (names : List String) :
    m.addNamedImports path names = m ∨
      ∃ before base after missing, ImportPlace path m.body before base after ∧
        m.addNamedImports path names = ⟨before ++ .importing (base.withNames missing) :: after⟩ := by
  rcases m.exists_place_or_inert path with ⟨hany, before, base, after, hplace⟩ | hinert
  · by_cases hmissing : m.missingNames path names = []
    · exact Or.inl (addNamedImports_of_missing_nil hmissing)
    · exact Or.inr ⟨before, base, after, _, hplace, addNamedImports_of_place hany hplace hmissing⟩
  · exact Or.inl (hinert names)

/-! ### Batches -/

/-- The names asked for are bound afterwards, and so is what was bound before. -/
theorem mem_boundNames_addNamedImports (hany : path.isAny = false)
    (hplace : ImportPlace path m.body before base after) (names : List String) (n : String) :
    n ∈ (m.addNamedImports path names).boundNames path ↔
      n ∈ m.boundNames path ∨ n ∈ distinctNames names := by
  have hmissing : n ∈ m.boundNames path ∨ n ∈ distinctNames names ↔
      n ∈ m.boundNames path ∨ n ∈ m.missingNames path names := by
    rw [mem_missingNames]
    by_cases hbound : n ∈ m.boundNames path <;> simp [hbound]
  rw [hmissing]
  by_cases hnil : m.missingNames path names = []
  · simp only [addNamedImports_of_missing_nil hnil, hnil, List.not_mem_nil, or_false]
  · -- None of the missing names is listed by `base`, so none of them displaces an entry.
    have hfresh : ∀ x ∈ m.missingNames path names, x ∉ base.tableNames := by
      intro x hx hbase
      refine (mem_missingNames.mp hx).2 ?_
      rw [boundNames_eq_flatMap, hplace.boundNames_eq]
      exact List.mem_append_right _ (List.mem_append_left _ hbase)
    rw [addNamedImports_of_place hany hplace hnil, boundNames_eq_flatMap, boundNames_eq_flatMap,
      (hplace.withNames _).boundNames_eq, hplace.boundNames_eq,
      Import.tableNames_withNames (nodup_missingNames m path names) hfresh]
    simp only [List.mem_append, List.mem_flatMap, List.mem_cons, List.not_mem_nil, or_false, or_self,
      exists_eq_right']
    grind

/-- What a second batch still lacks is what both together lack beyond the first. -/
theorem missingNames_append (hany : path.isAny = false)
    (hplace : ImportPlace path m.body before base after) (xs ys : List String) :
    m.missingNames path (xs ++ ys) =
      m.missingNames path xs ++ (m.addNamedImports path xs).missingNames path ys := by
  rw [missingNames, distinctNames_append, List.filter_append, List.filter_filter, missingNames,
    missingNames]
  refine congrArg _ (List.filter_congr fun n _ => ?_)
  have hbound := mem_boundNames_addNamedImports hany hplace xs n
  grind

theorem addNamedImports_append (m : Module) (path : Matcher) (xs ys : List String) :
    (m.addNamedImports path xs).addNamedImports path ys = m.addNamedImports path (xs ++ ys) := by
  rcases m.exists_place_or_inert path with ⟨hany, before, base, after, hplace⟩ | hinert
  · have hsplit := missingNames_append hany hplace xs ys
    by_cases hxs : m.missingNames path xs = []
    · -- The first batch adds nothing, and the second lacks what both lack.
      rw [addNamedImports_of_missing_nil hxs] at hsplit ⊢
      rw [hxs, List.nil_append] at hsplit
      simp only [addNamedImports, hsplit]
    · have hfirst := addNamedImports_of_place hany hplace hxs
      have hboth : m.missingNames path (xs ++ ys) ≠ [] := by
        rw [hsplit]
        exact List.append_ne_nil_of_left_ne_nil hxs _
      rw [addNamedImports_of_place hany hplace hboth, hsplit]
      by_cases hys : (m.addNamedImports path xs).missingNames path ys = []
      · rw [addNamedImports_of_missing_nil hys, hys, List.append_nil, hfirst]
      · have hnext : ImportPlace path (m.addNamedImports path xs).body before
            (base.withNames (m.missingNames path xs)) after := hfirst ▸ hplace.withNames _
        rw [addNamedImports_of_place hany hnext hys, Import.withNames_withNames]
  · rw [hinert xs, hinert ys, hinert (xs ++ ys)]

/-- **Batches of names can be joined.** Two additions from one path leave what a single
    addition of all the names leaves; in particular a second addition of the same names
    changes nothing. -/
theorem addNamedImports_batches (m : Module) (path : Matcher) :
    (∀ xs ys, (m.addNamedImports path xs).addNamedImports path ys =
      m.addNamedImports path (xs ++ ys)) ∧
    ∀ names, (m.addNamedImports path names).addNamedImports path names =
      m.addNamedImports path names := by
  refine ⟨m.addNamedImports_append path, fun names => ?_⟩
  rw [addNamedImports_append]
  simp only [addNamedImports, missingNames, distinctNames_append_self]

end Module

end JsxEdit
