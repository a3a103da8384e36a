import Mathlib.Data.List.Induction
import Mathlib.Data.List.Nodup
import JsxEdit.Proofs.ImportNames

/-!
  **What the table of an import tells of its specifiers.**

  A table has one entry for each key, and specifiers of all kinds share the keys: an imported
  name is one, and so is the local name of a default or namespace specifier. Two specifiers may
  bind different names and still have one key, as in `{ a as x, a as y }` or in
  `Theme, { Theme as T }`. Then the later one takes the entry of the earlier one, at the place
  of the earlier one.

  So a table lists every specifier if and only if the keys are distinct. A table of one kind is
  made of the specifiers of that kind alone, and so it can list one that the whole table has
  lost. It is the part of the whole table that has this kind if and only if specifiers with one
  key have one kind.
-/

namespace JsxEdit

namespace SpecifierTable

/-! ### Keys and entries -/

/-- One more specifier is one more insertion. -/
theorem ofSpecifiers_concat (specifiers : List Specifier) (s : Specifier) :
    ofSpecifiers (specifiers ++ [s]) = insert s.key ⟨s.binding, s.kind⟩ (ofSpecifiers specifiers) := by
  rw [ofSpecifiers, List.foldl_append, ← ofSpecifiers]
  rfl

theorem nodup_keys_ofSpecifiers (specifiers : List Specifier) :
    ((ofSpecifiers specifiers).map (·.1)).Nodup := by
  induction specifiers using List.reverseRecOn with
  | nil => exact List.nodup_nil
  | append_singleton specifiers s ih =>
    rw [ofSpecifiers_concat]
    exact nodup_keys_insert _ ih

/-- The keys of a table, in the order in which they first come up. -/
theorem keys_ofSpecifiers (specifiers : List Specifier) :
    (ofSpecifiers specifiers).map (·.1) = (specifiers.map Specifier.key).eraseDups := by
  induction specifiers using List.reverseRecOn with
  | nil => rfl
  | append_singleton specifiers s ih =>
    rw [ofSpecifiers_concat, map_fst_insert, ih, List.map_append, List.eraseDups_append]
    generalize specifiers.map Specifier.key = keys
    by_cases hseen : s.key ∈ keys
    · simp [List.removeAll, hseen]
    · simp [List.removeAll, hseen, List.eraseDups_cons]

/-- The specifiers that a table lists are those after which no other has their key. -/
theorem mem_unrepeated {specifiers : List Specifier} {s : Specifier} :
    s ∈ unrepeated specifiers ↔
      ∃ before after, specifiers = before ++ s :: after ∧ ∀ t ∈ after, t.key ≠ s.key := by
  induction specifiers with
  | nil => simp [unrepeated]
  | cons first rest ih =>
    have hrest : s ∈ unrepeated rest → ∃ before after,
        first :: rest = before ++ s :: after ∧ ∀ t ∈ after, t.key ≠ s.key := by
      intro hs
      obtain ⟨before, after, hcut, hlast⟩ := ih.mp hs
      exact ⟨first :: before, after, by rw [hcut]; rfl, hlast⟩
    unfold unrepeated
    constructor
    · intro hs
      split at hs
      · exact hrest hs
      · rename_i hlater
        rcases List.mem_cons.mp hs with rfl | hs
        · refine ⟨[], rest, rfl, ?_⟩
          intro t ht hkey
          exact hlater (List.any_eq_true.mpr ⟨t, ht, beq_iff_eq.mpr hkey⟩)
        · exact hrest hs
    · rintro ⟨before, after, hcut, hlast⟩
      cases before with
      | nil =>
        obtain ⟨rfl, rfl⟩ := List.cons.inj hcut
        have hlater : ¬ rest.any (·.key == first.key) = true := by
          intro hany
          obtain ⟨t, ht, hkey⟩ := List.any_eq_true.mp hany
          exact hlast t ht (beq_iff_eq.mp hkey)
        rw [if_neg hlater]
        exact List.mem_cons_self
      | cons other before =>
        obtain ⟨rfl, htail⟩ := List.cons.inj hcut
        have hs : s ∈ unrepeated rest := ih.mpr ⟨before, after, htail, hlast⟩
        split
        · exact hs
        · exact List.mem_cons_of_mem _ hs

/-- An entry shows the last specifier with its key. -/
theorem mem_ofSpecifiers_iff_last {specifiers : List Specifier} {e : String × SpecifierInfo} :
    e ∈ ofSpecifiers specifiers ↔
      ∃ before s after, specifiers = before ++ s :: after ∧ (∀ t ∈ after, t.key ≠ s.key) ∧
        e = entry s := by
  rw [mem_ofSpecifiers]
  constructor
  · rintro ⟨s, hs, he⟩
    obtain ⟨before, after, hcut, hlast⟩ := mem_unrepeated.mp hs
    exact ⟨before, s, after, hcut, hlast, he⟩
  · rintro ⟨before, s, after, hcut, hlast, he⟩
    exact ⟨s, mem_unrepeated.mpr ⟨before, after, hcut, hlast⟩, he⟩

/-- **A table lists every specifier** if and only if their keys are distinct. -/
theorem ofSpecifiers_eq_map_iff {specifiers : List Specifier} :
    ofSpecifiers specifiers = specifiers.map entry ↔ (specifiers.map Specifier.key).Nodup := by
  constructor
  · intro hall
    have hkeys := nodup_keys_ofSpecifiers specifiers
    rw [hall, List.map_map] at hkeys
    exact hkeys
  · intro hnodup
    have hempty : ∀ s ∈ specifiers, s.key ∉ ([] : SpecifierTable).map (·.1) := by
      intro s _
      exact List.not_mem_nil
    exact foldl_insert_of_fresh hnodup hempty

/-! ### Tables of one kind -/

/-- The part of a table that has one kind, after an insertion that leaves each key its kind. -/
theorem filter_insert {key : String} {info : SpecifierInfo} {table : SpecifierTable}
    (h : ∀ e ∈ table, e.1 = key → e.2.kind = info.kind) (kind : SpecifierKind) :
    (insert key info table).filter (·.2.kind = kind) =
      if info.kind = kind then insert key info (table.filter (·.2.kind = kind))
      else table.filter (·.2.kind = kind) := by
  induction table with
  | nil => by_cases hkind : info.kind = kind <;> simp [insert, hkind]
  | cons e rest ih =>
    have hrest := ih fun other hother => h other (List.mem_cons_of_mem _ hother)
    by_cases hkey : e.1 = key
    · -- The entry that is replaced has the kind of the new one.
      have hsame : e.2.kind = info.kind := h e List.mem_cons_self hkey
      by_cases hkind : info.kind = kind <;> simp [insert, hkey, hsame, hkind]
    · rw [insert, if_neg hkey, List.filter_cons, List.filter_cons, hrest]
      by_cases hkind : info.kind = kind
      · by_cases hfirst : e.2.kind = kind <;> simp [insert, hkey, hkind, hfirst]
      · simp [hkind]

theorem ofSpecifiers_filter_kind {specifiers : List Specifier}
    (h : ∀ s ∈ specifiers, ∀ t ∈ specifiers, s.key = t.key → s.kind = t.kind)
    (kind : SpecifierKind) :
    ofSpecifiers (specifiers.filter (·.kind = kind)) =
      (ofSpecifiers specifiers).filter (·.2.kind = kind) := by
  induction specifiers using List.reverseRecOn with
  | nil => rfl
  | append_singleton specifiers s ih =>
    have hbefore := ih fun x hx y hy =>
      h x (List.mem_append_left _ hx) y (List.mem_append_left _ hy)
    have hkind : ∀ e ∈ ofSpecifiers specifiers, e.1 = s.key → e.2.kind = s.kind := by
      intro e he hkey
      obtain ⟨t, ht, rfl⟩ := mem_ofSpecifiers.mp he
      have ht : t ∈ specifiers ++ [s] := List.mem_append_left _ (unrepeated_subset _ ht)
      exact h t ht s (by simp) hkey
    rw [ofSpecifiers_concat, filter_insert hkind, ← hbefore, List.filter_append]
    by_cases hs : s.kind = kind
    · simp [hs, ofSpecifiers_concat]
    · simp [hs]

/-- Specifiers of one kind that share a key with another kind are what two tables disagree on:
    in the whole table the key has one entry, of one kind. -/
theorem kind_eq_of_key_eq {specifiers : List Specifier}
    (h : ∀ kind : SpecifierKind, ofSpecifiers (specifiers.filter (·.kind = kind)) =
      (ofSpecifiers specifiers).filter (·.2.kind = kind))
    {s t : Specifier} (hs : s ∈ specifiers) (ht : t ∈ specifiers) (hkey : s.key = t.key) :
    s.kind = t.kind := by
  -- Each kind that a key has shows in the whole table, under this key.
  have hshown : ∀ u ∈ specifiers, ∃ e ∈ ofSpecifiers specifiers, e.1 = u.key ∧ e.2.kind = u.kind := by
    intro u hu
    have hmem : u ∈ specifiers.filter (·.kind = u.kind) := by simp [hu]
    obtain ⟨last, hlast, hsame⟩ := exists_unrepeated_key hmem
    have hentry : entry last ∈ ofSpecifiers (specifiers.filter (·.kind = u.kind)) :=
      mem_ofSpecifiers.mpr ⟨last, hlast, rfl⟩
    rw [h, List.mem_filter, decide_eq_true_eq] at hentry
    exact ⟨entry last, hentry.1, hsame, hentry.2⟩
  obtain ⟨e, he, hekey, hekind⟩ := hshown s hs
  obtain ⟨e', he', hekey', hekind'⟩ := hshown t ht
  have heq : e = e' := by
    apply List.inj_on_of_nodup_map (nodup_keys_ofSpecifiers specifiers) he he'
    rw [hekey, hekey', hkey]
  rw [← hekind, ← hekind', heq]

end SpecifierTable

namespace Import

theorem specifierTable_some (i : Import) (kind : SpecifierKind) :
    i.specifierTable (some kind) =
      .ofSpecifiers (i.specifiers.filter (·.kind = kind)) := by
  simp only [specifierTable, Option.all_some, eq_comm]

/-- **What a table lists.** Its keys are those of the specifiers, each once and in the order in
    which they first come up, and under a key stands the last specifier that has it. So no
    specifier is lost if and only if the keys are distinct, and the tables of the kinds are the
    parts of the whole table if and only if each key has one kind. -/
theorem specifierTable_lists (i : Import) :
    (i.specifierTable none).map (·.1) = (i.specifiers.map Specifier.key).eraseDups ∧
    (∀ e, e ∈ i.specifierTable none ↔
      ∃ before s after, i.specifiers = before ++ s :: after ∧ (∀ t ∈ after, t.key ≠ s.key) ∧
        e = (s.key, ⟨s.binding, s.kind⟩)) ∧
    ((i.specifierTable none = i.specifiers.map fun s => (s.key, ⟨s.binding, s.kind⟩)) ↔
      (i.specifiers.map Specifier.key).Nodup) ∧
    ((∀ kind, i.specifierTable (some kind) = (i.specifierTable none).filter (·.2.kind = kind)) ↔
      ∀ s ∈ i.specifiers, ∀ t ∈ i.specifiers, s.key = t.key → s.kind = t.kind) := by
  simp only [specifierTable_none, specifierTable_some]
  refine ⟨SpecifierTable.keys_ofSpecifiers _, fun e => SpecifierTable.mem_ofSpecifiers_iff_last,
    SpecifierTable.ofSpecifiers_eq_map_iff, ?_⟩
  constructor
  · intro h s hs t ht hkey
    exact SpecifierTable.kind_eq_of_key_eq h hs ht hkey
  · intro h kind
    exact SpecifierTable.ofSpecifiers_filter_kind h kind

/-- `import Theme, { Theme as T }` binds two names and has a table of one entry, which is that of
    `T`. The table of the default specifiers has `Theme` all the same. -/
theorem not_specifierTable_lists_mixed :
    let i : Import :=
      { specifiers := [.defaultAs "Theme", .named "T" (some (.ident "Theme")) false],
        source := { value := "design-system" }, typeOnly := false, phase := "evaluation",
        attributes := none }
    (i.specifiers.map Specifier.binding).Nodup ∧
      i.specifierTable none ≠ (i.specifiers.map fun s => (s.key, ⟨s.binding, s.kind⟩)) ∧
      i.specifierTable (some .defaultSpecifier) ≠
        (i.specifierTable none).filter (·.2.kind = .defaultSpecifier) := by
  decide

end Import

end JsxEdit
