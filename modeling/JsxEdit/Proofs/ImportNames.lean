import JsxEdit.Import.Edit

/-!
  **Names that are asked for, and names that are there.**

  Adding names to a module compares two lists. The names asked for lose the empty one and
  their repetitions (`distinctNames`). The names that are there are read off the tables of
  the imports, and a table drops a specifier whose key comes up again: of
  `{ a as x, a as y }` it lists `a` and `y` only.

  So the names of a table are not all the names of the specifiers. But names that are not in
  the table can join it without one of them pushing another out, and that is all that
  adding needs: what was added is there afterwards, and nothing that was there is lost.
-/

namespace JsxEdit

/-! ### Distinct names -/

/-- One step of `distinctNames`. -/
def addDistinct (seen : List String) (n : String) : List String :=
  if n = "" || seen.contains n then seen else seen ++ [n]

theorem addDistinct_of_mem {seen : List String} {n : String} (h : n ∈ seen) :
    addDistinct seen n = seen := by
  simp [addDistinct, h]

theorem addDistinct_of_not_mem {seen : List String} {n : String} (hn : n ≠ "") (h : n ∉ seen) :
    addDistinct seen n = seen ++ [n] := by
  simp [addDistinct, hn, h]

theorem distinctNames_eq_foldl (names : List String) :
    distinctNames names = names.foldl addDistinct [] := rfl

/-- Names that come after others: those that were seen are left out. -/
theorem foldl_addDistinct (names seen : List String) :
    names.foldl addDistinct seen = seen ++ (distinctNames names).filter (· ∉ seen) := by
  induction names generalizing seen with
  | nil => simp [distinctNames]
  | cons n names ih =>
    rw [distinctNames_eq_foldl, List.foldl_cons, List.foldl_cons, ih, ih (addDistinct [] n)]
    by_cases hempty : n = ""
    · simp [addDistinct, hempty]
    · rw [addDistinct_of_not_mem hempty List.not_mem_nil, List.nil_append]
      by_cases hseen : n ∈ seen
      · rw [addDistinct_of_mem hseen, List.filter_append, List.filter_filter]
        have hhead : [n].filter (· ∉ seen) = [] := by simp [hseen]
        rw [hhead, List.nil_append]
        refine congrArg (seen ++ ·) (List.filter_congr fun x _ => ?_)
        -- A name that was not seen cannot be `n`.
        grind
      · rw [addDistinct_of_not_mem hempty hseen, List.filter_append, List.filter_filter]
        have hhead : [n].filter (· ∉ seen) = [n] := by simp [hseen]
        rw [hhead, List.append_assoc]
        refine congrArg (fun rest => seen ++ ([n] ++ rest)) (List.filter_congr fun x _ => ?_)
        grind

theorem distinctNames_append (xs ys : List String) :
    distinctNames (xs ++ ys) =
      distinctNames xs ++ (distinctNames ys).filter (· ∉ distinctNames xs) := by
  rw [distinctNames_eq_foldl, List.foldl_append, foldl_addDistinct, distinctNames_eq_foldl xs]

/-- Asking twice asks for no more. -/
theorem distinctNames_append_self (names : List String) :
    distinctNames (names ++ names) = distinctNames names := by
  have hnone : (distinctNames names).filter (· ∉ distinctNames names) = [] :=
    List.filter_eq_nil_iff.mpr fun n hn => by simp [hn]
  rw [distinctNames_append, hnone, List.append_nil]

theorem distinctNames_cons (n : String) (names : List String) :
    distinctNames (n :: names) =
      addDistinct [] n ++ (distinctNames names).filter (· ∉ addDistinct [] n) := by
  rw [distinctNames_eq_foldl, List.foldl_cons, foldl_addDistinct]

theorem mem_distinctNames {n : String} {names : List String} :
    n ∈ distinctNames names ↔ n ≠ "" ∧ n ∈ names := by
  induction names with
  | nil => simp [distinctNames]
  | cons x names ih =>
    rw [distinctNames_cons]
    by_cases hempty : x = ""
    · simp only [addDistinct, hempty, decide_true, Bool.true_or, if_true, List.nil_append,
        List.mem_filter, ih]
      grind
    · simp only [addDistinct_of_not_mem hempty List.not_mem_nil, List.nil_append, List.mem_append,
        List.mem_filter, ih]
      grind

theorem nodup_distinctNames (names : List String) : (distinctNames names).Nodup := by
  induction names with
  | nil => exact List.nodup_nil
  | cons n names ih =>
    have hhead : (addDistinct [] n).Nodup := by
      unfold addDistinct
      split
      · exact List.nodup_nil
      · exact List.pairwise_singleton _ n
    rw [distinctNames_cons]
    refine List.nodup_append.mpr ⟨hhead, ih.filter _, ?_⟩
    intro x hx y hy hxy
    have hy := (List.mem_filter.mp hy).2
    simp [← hxy, hx] at hy

/-! ### Tables -/

namespace SpecifierTable

theorem insert_of_not_mem {key : String} (info : SpecifierInfo) {table : SpecifierTable}
    (h : key ∉ table.map (·.1)) : insert key info table = table ++ [(key, info)] := by
  induction table with
  | nil => rfl
  | cons entry rest ih =>
    rw [List.map_cons, List.mem_cons, not_or] at h
    rw [insert, if_neg (Ne.symm h.1), ih h.2, List.cons_append]

theorem nodup_keys_insert {key : String} (info : SpecifierInfo) {table : SpecifierTable}
    (h : (table.map (·.1)).Nodup) : ((insert key info table).map (·.1)).Nodup := by
  rw [map_fst_insert]
  split
  · exact h
  · rename_i hnew
    refine List.nodup_append.mpr ⟨h, List.pairwise_singleton _ key, ?_⟩
    intro x hx y hy hxy
    rw [List.mem_singleton] at hy
    exact hnew (hy ▸ hxy ▸ hx)

/-- The new entry takes the place of the one with its key, and all others stay. -/
theorem mem_insert {key : String} {info : SpecifierInfo} {table : SpecifierTable}
    (h : (table.map (·.1)).Nodup) {e : String × SpecifierInfo} :
    e ∈ insert key info table ↔ e = (key, info) ∨ e ∈ table ∧ e.1 ≠ key := by
  induction table with
  | nil => simp [insert]
  | cons first rest ih =>
    rw [List.map_cons, List.nodup_cons] at h
    unfold insert
    split
    · rename_i hfirst
      -- No later entry has the key that the first one has.
      have hrest : ∀ e ∈ rest, e.1 ≠ key := by
        intro e he hkey
        exact h.1 (hfirst ▸ hkey ▸ List.mem_map_of_mem he)
      rw [List.mem_cons, List.mem_cons]
      constructor
      · rintro (he | he)
        · exact Or.inl he
        · exact Or.inr ⟨Or.inr he, hrest e he⟩
      · rintro (he | ⟨rfl | he, hne⟩)
        · exact Or.inl he
        · exact absurd hfirst hne
        · exact Or.inr he
    · rename_i hfirst
      rw [List.mem_cons, List.mem_cons, ih h.2]
      constructor
      · rintro (rfl | he | ⟨he, hne⟩)
        · exact Or.inr ⟨Or.inl rfl, hfirst⟩
        · exact Or.inl he
        · exact Or.inr ⟨Or.inr he, hne⟩
      · rintro (he | ⟨he | he, hne⟩)
        · exact Or.inr (Or.inl he)
        · exact Or.inl he
        · exact Or.inr (Or.inr ⟨he, hne⟩)

/-- The entry of a specifier, as it stands in a table where its key is new. -/
def entry (s : Specifier) : String × SpecifierInfo := (s.key, ⟨s.binding, s.kind⟩)

/-- The specifiers that a table lists: those whose keys no later one has. -/
def unrepeated : List Specifier → List Specifier
  | [] => []
  | s :: rest => if rest.any (·.key == s.key) then unrepeated rest else s :: unrepeated rest

theorem unrepeated_subset (specifiers : List Specifier) :
    unrepeated specifiers ⊆ specifiers := by
  induction specifiers with
  | nil => exact List.Subset.refl _
  | cons s rest ih =>
    unfold unrepeated
    split
    · exact List.subset_cons_of_subset s ih
    · exact List.cons_subset_cons s ih

/-- Of the specifiers with one key the last is listed. -/
theorem exists_unrepeated_key {specifiers : List Specifier} {s : Specifier}
    (h : s ∈ specifiers) : ∃ t ∈ unrepeated specifiers, t.key = s.key := by
  induction specifiers generalizing s with
  | nil => cases h
  | cons first rest ih =>
    unfold unrepeated
    rcases List.mem_cons.mp h with rfl | hrest
    · split
      · rename_i hlater
        obtain ⟨later, hmem, hsame⟩ := List.any_eq_true.mp hlater
        obtain ⟨t, ht, hkey⟩ := ih hmem
        exact ⟨t, ht, hkey.trans (beq_iff_eq.mp hsame)⟩
      · exact ⟨s, List.mem_cons_self, rfl⟩
    · obtain ⟨t, ht, hkey⟩ := ih hrest
      split
      · exact ⟨t, ht, hkey⟩
      · exact ⟨t, List.mem_cons_of_mem _ ht, hkey⟩

theorem mem_foldl_insert {specifiers : List Specifier} {table : SpecifierTable}
    (h : (table.map (·.1)).Nodup) {e : String × SpecifierInfo} :
    e ∈ specifiers.foldl (fun table s => insert s.key ⟨s.binding, s.kind⟩ table) table ↔
      (e ∈ table ∧ ∀ s ∈ specifiers, s.key ≠ e.1) ∨ ∃ s ∈ unrepeated specifiers, e = entry s := by
  induction specifiers generalizing table with
  | nil => simp [unrepeated]
  | cons s rest ih =>
    rw [List.foldl_cons, ih (nodup_keys_insert _ h), mem_insert h, List.forall_mem_cons, unrepeated]
    by_cases hlater : rest.any (·.key == s.key) = true
    · -- A later specifier has the key, so the entry of `s` does not stay.
      rw [if_pos hlater]
      obtain ⟨t, ht, hkey⟩ := List.any_eq_true.mp hlater
      constructor
      · rintro (⟨rfl | ⟨he, hne⟩, hrest⟩ | hlisted)
        · exact absurd (beq_iff_eq.mp hkey) (hrest t ht)
        · exact Or.inl ⟨he, hne.symm, hrest⟩
        · exact Or.inr hlisted
      · rintro (⟨he, hne, hrest⟩ | hlisted)
        · exact Or.inl ⟨Or.inr ⟨he, hne.symm⟩, hrest⟩
        · exact Or.inr hlisted
    · rw [if_neg hlater]
      simp only [List.mem_cons, exists_eq_or_imp]
      have hlast : ∀ t ∈ rest, t.key ≠ s.key := by
        intro t ht hkey
        exact hlater (List.any_eq_true.mpr ⟨t, ht, beq_iff_eq.mpr hkey⟩)
      constructor
      · rintro (⟨rfl | ⟨he, hne⟩, hrest⟩ | hlisted)
        · exact Or.inr (Or.inl rfl)
        · exact Or.inl ⟨he, hne.symm, hrest⟩
        · exact Or.inr (Or.inr hlisted)
      · rintro (⟨he, hne, hrest⟩ | rfl | hlisted)
        · exact Or.inl ⟨Or.inr ⟨he, hne.symm⟩, hrest⟩
        · exact Or.inl ⟨Or.inl rfl, hlast⟩
        · exact Or.inr hlisted

/-- **What a table lists.** -/
theorem mem_ofSpecifiers {specifiers : List Specifier} {e : String × SpecifierInfo} :
    e ∈ ofSpecifiers specifiers ↔ ∃ s ∈ unrepeated specifiers, e = entry s := by
  have hempty : (([] : SpecifierTable).map (·.1)).Nodup := List.nodup_nil
  rw [ofSpecifiers, mem_foldl_insert hempty]
  simp

/-- Specifiers with new keys, each key once, are listed at the end. -/
theorem foldl_insert_of_fresh {specifiers : List Specifier} {table : SpecifierTable}
    (hnodup : (specifiers.map Specifier.key).Nodup)
    (hfresh : ∀ s ∈ specifiers, s.key ∉ table.map (·.1)) :
    specifiers.foldl (fun table s => insert s.key ⟨s.binding, s.kind⟩ table) table =
      table ++ specifiers.map entry := by
  induction specifiers generalizing table with
  | nil => simp
  | cons s specifiers ih =>
    rw [List.map_cons, List.nodup_cons] at hnodup
    rw [List.foldl_cons, insert_of_not_mem _ (hfresh s List.mem_cons_self), ih hnodup.2]
    · simp [entry]
    · intro t ht hmem
      rw [List.map_append, List.mem_append] at hmem
      rcases hmem with hmem | hmem
      · exact hfresh t (List.mem_cons_of_mem _ ht) hmem
      · have hkey : t.key = s.key := by simpa using hmem
        exact hnodup.1 (hkey ▸ List.mem_map_of_mem ht)

end SpecifierTable

/-! ### The names of an import -/

theorem Specifier.make_none (n : String) : Specifier.make n none = .named n none false := by
  simp [Specifier.make]

/-- A made specifier is listed under the name that it imports, whatever its alias is. -/
theorem Specifier.key_make (n : String) (alias? : Option String) :
    (Specifier.make n alias?).key = n := by
  by_cases hsame : (alias?.filter (· != "")).getD n = n
  · simp [make, key, imported?, hsame]
  · simp [make, key, imported?, hsame, ImportedName.text]

namespace Import

/-- The import with names put at the end of its specifiers. -/
def withNames (i : Import) (names : List String) : Import :=
  { i with specifiers := i.specifiers ++ names.map fun n => Specifier.make n none }

theorem withNames_nil (i : Import) : i.withNames [] = i := by
  simp [withNames]

theorem withNames_withNames (i : Import) (xs ys : List String) :
    (i.withNames xs).withNames ys = i.withNames (xs ++ ys) := by
  simp [withNames]

/-- The names that the table of an import lists: keys and local names. -/
def tableNames (i : Import) : List String :=
  (i.specifierTable none).flatMap fun (key, info) => [key, info.binding]

theorem specifierTable_none (i : Import) :
    i.specifierTable none = .ofSpecifiers i.specifiers := by
  have hall : ∀ s ∈ i.specifiers, (none : Option SpecifierKind).all (· = s.kind) = true :=
    fun _ _ => rfl
  rw [specifierTable, List.filter_eq_self.mpr hall]

theorem mem_tableNames {i : Import} {n : String} :
    n ∈ i.tableNames ↔
      ∃ s ∈ SpecifierTable.unrepeated i.specifiers, n = s.key ∨ n = s.binding := by
  rw [tableNames, specifierTable_none, List.mem_flatMap]
  constructor
  · rintro ⟨e, he, hn⟩
    obtain ⟨s, hs, rfl⟩ := SpecifierTable.mem_ofSpecifiers.mp he
    exact ⟨s, hs, by simpa [SpecifierTable.entry] using hn⟩
  · rintro ⟨s, hs, hn⟩
    refine ⟨SpecifierTable.entry s, SpecifierTable.mem_ofSpecifiers.mpr ⟨s, hs, rfl⟩, ?_⟩
    simpa [SpecifierTable.entry] using hn

/-- A name that the table lists is the imported or the local name of a specifier. -/
theorem exists_specifier_of_mem_tableNames {i : Import} {n : String} (h : n ∈ i.tableNames) :
    ∃ s ∈ i.specifiers, s.imported? = some n ∨ s.binding = n := by
  obtain ⟨s, hs, hn⟩ := mem_tableNames.mp h
  refine ⟨s, SpecifierTable.unrepeated_subset _ hs, ?_⟩
  rcases hn with hn | hn
  · -- The key is the local name where there is no imported one.
    cases himported : s.imported? with
    | none => exact Or.inr (by simp [hn, Specifier.key, himported])
    | some imported => exact Or.inl (by simp [hn, Specifier.key, himported])
  · exact Or.inr hn.symm

/-- Names that the table does not list join it at the end. -/
theorem tableNames_withNames {i : Import} {names : List String} (hnodup : names.Nodup)
    (hfresh : ∀ n ∈ names, n ∉ i.tableNames) :
    (i.withNames names).tableNames = i.tableNames ++ names.flatMap fun n => [n, n] := by
  have hkeys : (names.map fun n => Specifier.make n none).map Specifier.key = names := by
    simp [Function.comp_def, Specifier.key_make]
  have htable : (i.withNames names).specifierTable none =
      i.specifierTable none ++ names.map fun n => SpecifierTable.entry (Specifier.make n none) := by
    rw [specifierTable_none, specifierTable_none, SpecifierTable.ofSpecifiers, withNames,
      List.foldl_append, ← SpecifierTable.ofSpecifiers,
      SpecifierTable.foldl_insert_of_fresh (by rw [hkeys]; exact hnodup), List.map_map]
    · rfl
    · intro s hs hmem
      obtain ⟨n, hn, rfl⟩ := List.mem_map.mp hs
      obtain ⟨e, he, hkey⟩ := List.mem_map.mp hmem
      rw [Specifier.key_make] at hkey
      refine hfresh n hn ?_
      rw [tableNames, specifierTable_none]
      exact List.mem_flatMap.mpr ⟨e, he, by simp [hkey]⟩
  rw [tableNames, htable, List.flatMap_append, List.flatMap_map, ← tableNames]
  simp only [SpecifierTable.entry, Specifier.make_none]
  rfl

end Import

/-! ### The names of a module -/

/-- What an item contributes to a list that is read off the imports from a path. -/
def Item.collectFrom {α : Type} (path : Matcher) (f : Import → List α) : Item → List α
  | .importing i => if i.isFrom path then f i else []
  | .node _ => []

/-- The names that an item brings in from a matching source. -/
def Item.boundNames (path : Matcher) : Item → List String
  | .importing i => if i.isFrom path then i.tableNames else []
  | .node _ => []

theorem Item.boundNames_eq_collectFrom (path : Matcher) :
    Item.boundNames path = Item.collectFrom path Import.tableNames := by
  funext item
  cases item <;> rfl

namespace Module

variable {m : Module} {path : Matcher} {n : String}

/-- A list that is read off the imports from a path, read off the items. -/
theorem flatMap_importsFrom {α : Type} (m : Module) (path : Matcher) (f : Import → List α) :
    (m.imports.filter (·.isFrom path)).flatMap f = m.body.flatMap (Item.collectFrom path f) := by
  obtain ⟨body⟩ := m
  simp only [imports]
  induction body with
  | nil => rfl
  | cons item body ih =>
    cases item with
    | node _ => exact ih
    | importing i =>
      have himports : (Item.importing i :: body).filterMap Item.import? =
          i :: body.filterMap Item.import? := rfl
      rw [himports, List.filter_cons, List.flatMap_cons, Item.collectFrom]
      split
      · rw [List.flatMap_cons, ih]
      · rw [ih, List.nil_append]

theorem boundNames_eq_flatMap (m : Module) (path : Matcher) :
    m.boundNames path = m.body.flatMap (Item.boundNames path) := by
  rw [Item.boundNames_eq_collectFrom, ← flatMap_importsFrom]
  rfl

/-- A bound name is the imported or the local name of a specifier from the path. -/
theorem exists_specifier_of_mem_boundNames (h : n ∈ m.boundNames path) :
    ∃ i ∈ m.imports, i.isFrom path = true ∧
      ∃ s ∈ i.specifiers, s.imported? = some n ∨ s.binding = n := by
  obtain ⟨i, hi, hn⟩ := List.mem_flatMap.mp h
  obtain ⟨hi, hfrom⟩ := List.mem_filter.mp hi
  exact ⟨i, hi, hfrom, Import.exists_specifier_of_mem_tableNames hn⟩

theorem mem_missingNames {names : List String} :
    n ∈ m.missingNames path names ↔ n ∈ distinctNames names ∧ n ∉ m.boundNames path := by
  simp [missingNames]

theorem nodup_missingNames (m : Module) (path : Matcher) (names : List String) :
    (m.missingNames path names).Nodup :=
  (nodup_distinctNames names).filter _

end Module

end JsxEdit
