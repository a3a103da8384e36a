import Mathlib.Data.List.Nodup
import JsxEdit.Proofs.AddNames

/-!
  **Removing the names that were added.**

  A removal looks into an import only if several questions about it have the right answer,
  and the answers change while names go away: an import may come to bind a default name
  only, or nothing. `Item.removeNamed_importing` shows that the questions make no
  difference. From a matching source every specifier with a matching imported name goes,
  and an import goes with its last specifier.

  So names that are new to a path can be added and then removed one by one, in any order,
  and the module is what it was. The one thing that is not brought back is an import that
  had no specifier from the start: it took the names, and it goes with the last of them.
-/

namespace JsxEdit

/-! ### Removal without questions -/

theorem Specifier.isNamedBy_exact {n : String} {s : Specifier} :
    s.isNamedBy (.exact n) = true ↔ s.imported? = some n := by
  unfold isNamedBy
  cases s.imported? with
  | none => simp
  | some imported =>
    rw [Option.any_some, Matcher.accepts, beq_iff_eq, Option.some.injEq]
    exact eq_comm

namespace Import

/-- The import without its named specifiers that match. -/
def withoutNamed (i : Import) (name : Matcher) : Import :=
  { i with specifiers := i.specifiers.filter fun s => !s.isNamedBy name }

/-- How many named specifiers match. -/
def countNamed (i : Import) (name : Matcher) : Nat := i.specifiers.countP (·.isNamedBy name)

variable {i : Import} {name path : Matcher}

theorem withoutNamed_of_forall (h : ∀ s ∈ i.specifiers, s.isNamedBy name = false) :
    i.withoutNamed name = i := by
  have hkept : i.specifiers.filter (fun s => !s.isNamedBy name) = i.specifiers :=
    List.filter_eq_self.mpr fun s hs => by rw [h s hs, Bool.not_false]
  rw [withoutNamed, hkept]

theorem countNamed_of_forall (h : ∀ s ∈ i.specifiers, s.isNamedBy name = false) :
    i.countNamed name = 0 :=
  List.countP_eq_zero.mpr fun s hs => Bool.not_eq_true _ ▸ h s hs

theorem specifiers_of_isExclusivelyDefault (h : i.isExclusivelyDefault = true) :
    ∃ binding, i.specifiers = [.defaultAs binding] := by
  unfold isExclusivelyDefault at h
  split at h
  · rename_i only honly
    cases only with
    | defaultAs binding => exact ⟨binding, honly⟩
    | namespaceAs binding => cases h
    | named binding imported typeOnly => cases h
  · cases h

/-- An import from the path that a removal does not look into has nothing to remove. -/
theorem not_isNamedBy_of_not_isPruned (hfrom : i.isFrom path = true)
    (h : i.isPruned name path = false) : ∀ s ∈ i.specifiers, s.isNamedBy name = false := by
  intro s hs
  have hspecifiers : i.specifiers.isEmpty = false := by
    rw [List.isEmpty_eq_false_iff]
    exact List.ne_nil_of_mem hs
  simp only [isPruned, isNamedImportOf, hspecifiers, hfrom, Bool.not_false, Bool.true_and,
    Bool.and_true, Bool.and_eq_false_iff, Bool.not_eq_false'] at h
  rcases h with hdefault | hnamed
  · -- The only specifier is a default one, which has no imported name.
    obtain ⟨binding, honly⟩ := specifiers_of_isExclusivelyDefault hdefault
    rw [honly, List.mem_singleton] at hs
    rw [hs]
    rfl
  · unfold hasNamed at hnamed
    have hnone := (Bool.or_eq_false_iff.mp hnamed).2
    exact Bool.not_eq_true _ ▸ List.any_eq_false.mp hnone s hs

end Import

/-- **What a removal does to an import**, whatever else it binds. -/
theorem Item.removeNamed_importing (name path : Matcher) (i : Import) :
    (Item.importing i).removeNamed name path =
      if i.isFrom path then
        (if i.countNamed name > 0 && (i.withoutNamed name).specifiers.isEmpty then none
          else some (.importing (i.withoutNamed name)), i.countNamed name)
      else (some (.importing i), 0) := by
  cases hfrom : i.isFrom path with
  | false =>
    have hpruned : i.isPruned name path = false := by
      simp [Import.isPruned, Import.isNamedImportOf, hfrom]
    simp only [removeNamed, hpruned, Bool.false_eq_true, if_false]
  | true =>
    cases hpruned : i.isPruned name path with
    | true =>
      rw [removeNamed, if_pos hpruned, if_pos rfl]
      rfl
    | false =>
      have hnone := Import.not_isNamedBy_of_not_isPruned hfrom hpruned
      simp [removeNamed, hpruned, Import.withoutNamed_of_forall hnone,
        Import.countNamed_of_forall hnone]

/-- The item has no specifier that a removal takes. -/
def Item.Untouched (name path : Matcher) (item : Item) : Prop :=
  ∀ i, item = .importing i → i.isFrom path = true → ∀ s ∈ i.specifiers, s.isNamedBy name = false

theorem Item.Untouched.removeNamed_eq {name path : Matcher} {item : Item}
    (h : item.Untouched name path) : item.removeNamed name path = (some item, 0) := by
  cases item with
  | node n => rfl
  | importing i =>
    rw [removeNamed_importing]
    split
    · rename_i hfrom
      have hnone := h i rfl hfrom
      simp [Import.withoutNamed_of_forall hnone, Import.countNamed_of_forall hnone]
    · rfl

namespace Module

variable {name path : Matcher}

theorem removeNamedImports_cons (name path : Matcher) (item : Item) (rest : List Item) :
    (⟨item :: rest⟩ : Module).removeNamedImports name path =
      (⟨(item.removeNamed name path).1.toList ++
          ((⟨rest⟩ : Module).removeNamedImports name path).1.body⟩,
        (item.removeNamed name path).2 + ((⟨rest⟩ : Module).removeNamedImports name path).2) := by
  unfold removeNamedImports
  cases h : (item.removeNamed name path).1 with
  | none => simp [h]
  | some kept => simp [h]

theorem removeNamedImports_of_untouched {body : List Item}
    (h : ∀ item ∈ body, item.Untouched name path) :
    (⟨body⟩ : Module).removeNamedImports name path = (⟨body⟩, 0) := by
  induction body with
  | nil => rfl
  | cons item rest ih =>
    rw [removeNamedImports_cons, (h item List.mem_cons_self).removeNamed_eq,
      ih fun other hother => h other (List.mem_cons_of_mem _ hother)]
    rfl

/-- A removal that touches one item only. -/
theorem removeNamedImports_of_cut {before after : List Item} (item : Item)
    (hbefore : ∀ other ∈ before, other.Untouched name path)
    (hafter : ∀ other ∈ after, other.Untouched name path) :
    (⟨before ++ item :: after⟩ : Module).removeNamedImports name path =
      (⟨before ++ ((item.removeNamed name path).1.toList ++ after)⟩,
        (item.removeNamed name path).2) := by
  induction before with
  | nil =>
    rw [List.nil_append, removeNamedImports_cons, removeNamedImports_of_untouched hafter,
      List.nil_append, Nat.add_zero]
  | cons first before ih =>
    rw [List.cons_append, removeNamedImports_cons,
      (hbefore first List.mem_cons_self).removeNamed_eq,
      ih fun other hother => hbefore other (List.mem_cons_of_mem _ hother), Nat.zero_add]
    rfl

end Module

/-! ### Names removed one by one -/

/-- Removes the named specifiers from one source, name by name. The count is that of all the
    removals. -/
def Module.removeEachNamed (m : Module) (source : String) : List String → Module × Nat
  | [] => (m, 0)
  | n :: names =>
    let (m', removed) := m.removeNamedImports (.exact n) (.exact source)
    let (m'', removed') := m'.removeEachNamed source names
    (m'', removed + removed')

namespace Import

/-- The import as an item, unless it has no specifier. -/
def item? (i : Import) : Option Item :=
  if i.specifiers.isEmpty then none else some (.importing i)

variable {i : Import} {left : List String} {n : String}

theorem isNamedBy_make (x n : String) :
    (Specifier.make x none).isNamedBy (.exact n) = (x == n) := by
  rw [Specifier.make_none, Bool.eq_iff_iff, Specifier.isNamedBy_exact, beq_iff_eq]
  simp [Specifier.imported?]

/-- Of the names that were added, the one that is removed goes. -/
theorem withoutNamed_withNames (hi : ∀ s ∈ i.specifiers, s.isNamedBy (.exact n) = false)
    (hleft : left.Nodup) :
    (i.withNames left).withoutNamed (.exact n) = i.withNames (left.erase n) := by
  have hold : i.specifiers.filter (fun s => !s.isNamedBy (.exact n)) = i.specifiers :=
    congrArg specifiers (withoutNamed_of_forall hi)
  simp only [withoutNamed, withNames, List.filter_append, hold, List.filter_map, Function.comp_def,
    isNamedBy_make, hleft.erase_eq_filter, bne]

theorem countNamed_withNames (hi : ∀ s ∈ i.specifiers, s.isNamedBy (.exact n) = false)
    (hleft : left.Nodup) (hn : n ∈ left) : (i.withNames left).countNamed (.exact n) = 1 := by
  have hold : i.specifiers.countP (·.isNamedBy (.exact n)) = 0 := countNamed_of_forall hi
  rw [countNamed, withNames, List.countP_append, hold, Nat.zero_add, List.countP_map]
  simp only [Function.comp_def, isNamedBy_make]
  exact List.count_eq_one_of_mem hleft hn

theorem removeNamed_withNames {source : String} (hfrom : i.isFrom (.exact source) = true)
    (hi : ∀ s ∈ i.specifiers, s.isNamedBy (.exact n) = false) (hleft : left.Nodup)
    (hn : n ∈ left) :
    (Item.importing (i.withNames left)).removeNamed (.exact n) (.exact source) =
      ((i.withNames (left.erase n)).item?, 1) := by
  rw [Item.removeNamed_importing, isFrom_withNames, if_pos hfrom, countNamed_withNames hi hleft hn,
    withoutNamed_withNames hi hleft, item?]
  simp only [gt_iff_lt, Nat.one_pos, decide_true, Bool.true_and]

end Import

/-- The names that are left, in whatever order they are removed, all go, and with the last
    of them an import that had nothing else. -/
theorem Module.removeEachNamed_withNames {source : String} {i : Import} {before after : List Item}
    {order left : List String} (hfrom : i.isFrom (.exact source) = true)
    (hi : ∀ n ∈ order, ∀ s ∈ i.specifiers, s.isNamedBy (.exact n) = false)
    (hbefore : ∀ n ∈ order, ∀ item ∈ before, item.Untouched (.exact n) (.exact source))
    (hafter : ∀ n ∈ order, ∀ item ∈ after, item.Untouched (.exact n) (.exact source))
    (hleft : left.Nodup) (horder : order.Perm left) (hne : order ≠ []) :
    (⟨before ++ .importing (i.withNames left) :: after⟩ : Module).removeEachNamed source order =
      (⟨before ++ (i.item?.toList ++ after)⟩, order.length) := by
  induction order generalizing left with
  | nil => exact absurd rfl hne
  | cons n order ih =>
    obtain ⟨hn, horder⟩ := List.cons_perm_iff_perm_erase.mp horder
    -- What is left after one removal is `left.erase n`, which the rest of `order` lists.
    have hstep := Import.removeNamed_withNames hfrom (hi n List.mem_cons_self) hleft hn
    rw [removeEachNamed, removeNamedImports_of_cut _ (hbefore n List.mem_cons_self)
      (hafter n List.mem_cons_self), hstep]
    cases order with
    | nil =>
      rw [horder.nil_eq.symm, Import.withNames_nil]
      rfl
    | cons n' order =>
      -- Another name is left, so the import is still there.
      have hrest : left.erase n ≠ [] := fun h => by
        rw [h] at horder
        cases horder.eq_nil
      have hitem : (i.withNames (left.erase n)).item? =
          some (.importing (i.withNames (left.erase n))) := by
        simp [Import.item?, Import.withNames, hrest]
      have hnext := ih (fun x hx => hi x (List.mem_cons_of_mem _ hx))
        (fun x hx => hbefore x (List.mem_cons_of_mem _ hx))
        (fun x hx => hafter x (List.mem_cons_of_mem _ hx)) (hleft.erase n) horder
        (List.cons_ne_nil n' order)
      rw [hitem, Option.toList_some, List.singleton_append]
      simp only [hnext, List.length_cons, Nat.add_comm]

/-! ### Back to the module -/

/-- The first import that takes names from the path has no specifier. -/
def Module.takesIntoBare (m : Module) (path : Matcher) : Bool :=
  (m.imports.find? (·.takesNames path)).any (·.specifiers.isEmpty)

/-- The module without the first import that takes names from the path. -/
def Module.withoutTaker (m : Module) (path : Matcher) : Module :=
  ⟨m.body.eraseP (Item.takesNames path)⟩

theorem Module.find?_imports (m : Module) (path : Matcher) :
    m.imports.find? (·.takesNames path) =
      (m.body.find? (Item.takesNames path)).bind Item.import? :=
  List.find?_filterMap

/-- The module as it is cut at the place of the names, with the import there unless it has no
    specifier. -/
theorem ImportPlace.restored_eq {m : Module} {path : Matcher} {before after : List Item}
    {base : Import} (h : ImportPlace path m.body before base after) :
    (⟨before ++ (base.item?.toList ++ after)⟩ : Module) =
      if m.takesIntoBare path then m.withoutTaker path else m := by
  have hitem : (Item.importing base).takesNames path = true := h.takesNames_base
  have hbefore := h.not_takesNames_before
  cases h with
  | existing hbody _ _ =>
    have hnone : before.find? (Item.takesNames path) = none := List.find?_eq_none.mpr hbefore
    have hbare : m.takesIntoBare path = base.specifiers.isEmpty := by
      rw [Module.takesIntoBare, Module.find?_imports, hbody, List.find?_append, hnone,
        Option.none_or, List.find?_cons_of_pos hitem]
      rfl
    have hrest : m.withoutTaker path = ⟨before ++ after⟩ := by
      rw [Module.withoutTaker, hbody, List.eraseP_append_right _ hbefore,
        List.eraseP_cons_of_pos hitem]
    rw [hbare, hrest, Import.item?]
    split
    · rw [Option.toList_none, List.nil_append]
    · rw [Option.toList_some, List.singleton_append, ← hbody]
  | new source _ hbase hbody hnone _ =>
    have hfind : m.body.find? (Item.takesNames path) = none := List.find?_eq_none.mpr hnone
    have hbare : m.takesIntoBare path = false := by
      rw [Module.takesIntoBare, Module.find?_imports, hfind]
      rfl
    have hitem : base.item? = none := hbase ▸ rfl
    rw [hbare, if_neg Bool.false_ne_true, hitem, Option.toList_none, List.nil_append, ← hbody]

/-- Where no item has anything to remove, the import that the names join has not either. -/
theorem ImportPlace.not_isNamedBy_base {name path : Matcher} {body before after : List Item}
    {base : Import} (h : ImportPlace path body before base after)
    (hbody : ∀ item ∈ body, item.Untouched name path) :
    ∀ s ∈ base.specifiers, s.isNamedBy name = false := by
  have hfrom := Import.isFrom_of_takesNames h.takesNames_base
  cases h with
  | existing hcut _ _ =>
    refine hbody (.importing base) ?_ base rfl hfrom
    rw [hcut]
    exact List.mem_append_right _ List.mem_cons_self
  | new source _ hbase _ _ _ =>
    rw [hbase]
    exact nofun

namespace Module

/-- No import from the source uses the name, as imported or as local name. -/
def IsNewName (m : Module) (source n : String) : Prop :=
  ∀ i ∈ m.imports, i.source.value = source →
    ∀ s ∈ i.specifiers, s.imported? ≠ some n ∧ s.binding ≠ n

variable {m : Module} {source : String}

theorem missingNames_of_isNewName {names : List String}
    (h : ∀ n ∈ distinctNames names, m.IsNewName source n) :
    m.missingNames (.exact source) names = distinctNames names := by
  refine List.filter_eq_self.mpr fun n hn => ?_
  have hfree : n ∉ m.boundNames (.exact source) := by
    intro hbound
    obtain ⟨i, hi, hfrom, s, hs, hname⟩ := exists_specifier_of_mem_boundNames hbound
    obtain ⟨himported, hbinding⟩ := h n hn i hi (beq_iff_eq.mp hfrom).symm s hs
    rcases hname with hname | hname
    · exact himported hname
    · exact hbinding hname
  simp [hfree]

theorem IsNewName.untouched {n : String} (h : m.IsNewName source n) :
    ∀ item ∈ m.body, item.Untouched (.exact n) (.exact source) := by
  rintro item hitem i rfl hfrom s hs
  have hi : i ∈ m.imports := mem_imports.mpr hitem
  have himported := (h i hi (beq_iff_eq.mp hfrom).symm s hs).1
  rw [← Bool.not_eq_true, Specifier.isNamedBy_exact]
  exact himported

/-- **Adding and removing is a round trip.** Let `order` list the names, without the empty
    one and each once, in any order. If they are new to the source, then to add them and to
    remove one after the other removes as many specifiers as there are names and leaves the
    module as it was. Only an import without specifiers that took the names is gone. -/
theorem removeEachNamed_addNamedImports (m : Module) (source : String) (names order : List String)
    (hnodup : order.Nodup) (horder : ∀ n, n ∈ order ↔ n ≠ "" ∧ n ∈ names) (hne : order ≠ [])
    (hnew : ∀ n ∈ order, m.IsNewName source n) :
    (m.addNamedImports (.exact source) names).removeEachNamed source order =
      (if m.takesIntoBare (.exact source) then m.withoutTaker (.exact source) else m,
        order.length) := by
  have hperm : order.Perm (distinctNames names) :=
    (List.perm_ext_iff_of_nodup hnodup (nodup_distinctNames names)).mpr fun n => by
      rw [horder, mem_distinctNames]
  have hmissing : m.missingNames (.exact source) names = distinctNames names :=
    missingNames_of_isNewName fun n hn => hnew n (hperm.mem_iff.mpr hn)
  have hnames : m.missingNames (.exact source) names ≠ [] := by
    rw [hmissing]
    exact fun h => hne (h ▸ hperm).eq_nil
  obtain ⟨before, base, after, hplace⟩ := exists_place_exact m.body source
  have huntouched : ∀ n ∈ order, ∀ item ∈ before ++ after,
      item.Untouched (.exact n) (.exact source) :=
    fun n hn item hitem => (hnew n hn).untouched item (hplace.mem_body hitem)
  rw [addNamedImports_of_place rfl hplace hnames, hmissing, ← hplace.restored_eq]
  refine removeEachNamed_withNames (Import.isFrom_of_takesNames hplace.takesNames_base)
    (fun n hn => hplace.not_isNamedBy_base (hnew n hn).untouched)
    (fun n hn item hitem => huntouched n hn item (List.mem_append_left _ hitem))
    (fun n hn item hitem => huntouched n hn item (List.mem_append_right _ hitem))
    (nodup_distinctNames names) hperm hne

/-- An import of a default name takes two names and is then a default import again. -/
theorem removeEachNamed_addNamedImports_default :
    let theme : Import := { Import.bare "ui" with specifiers := [.defaultAs "Theme"] }
    let m : Module := ⟨[.importing (.bare "react"), .importing theme]⟩
    (m.addNamedImports (.exact "ui") ["Button", "", "Link", "Button"]).removeEachNamed "ui"
      ["Link", "Button"] = (m, 2) := by
  intro theme m
  have hnodup : ["Link", "Button"].Nodup := by decide
  have horder : ∀ n, n ∈ ["Link", "Button"] ↔ n ≠ "" ∧ n ∈ ["Button", "", "Link", "Button"] := by
    grind
  have hnew : ∀ n ∈ ["Link", "Button"], m.IsNewName "ui" n := by
    intro n hn i hi hsource s hs
    have hi : i = .bare "react" ∨ i = theme := by simpa [m, imports, Item.import?] using hi
    rcases hi with rfl | rfl
    · cases hs
    · obtain rfl := List.mem_singleton.mp hs
      constructor
      · intro himported
        cases himported
      · rintro rfl
        revert hn
        decide
  rw [removeEachNamed_addNamedImports m "ui" _ _ hnodup horder (List.cons_ne_nil _ _) hnew]
  rfl

end Module

end JsxEdit
