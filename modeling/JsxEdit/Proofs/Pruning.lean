import JsxEdit.Proofs.RemoveNames

/-!
  **Removal of named specifiers as plain pruning.**

  Before it takes specifiers out of an import, a removal asks four questions: are there
  any, is there more than a default name, is there one that matches, does the source match.
  `Module.prune` asks none of them. It goes through all imports, leaves out the specifiers
  that are to go, and leaves out an import that had specifiers and keeps none.

  The two are the same (`Module.removeNamedImports_eq`). What the questions hide is then
  plain: pruning for one reason and then for another is pruning for either
  (`Module.prune_prune`), and what is counted is what is missing afterwards
  (`Module.length_specifiers_prune`). From these two facts a second removal finds nothing to
  do, and the order of two removals makes no difference, though each of them may change the
  answers that the other gets.
-/

namespace JsxEdit

/-! ### Pruning -/

/-- A named specifier whose imported name is asked for. That name is the one that is
    written, as an identifier or as a string; where none is written it is the local one. -/
def Specifier.importsAsked (asked : String → Bool) : Specifier → Bool
  | named _ (some (.ident name)) _ => asked name
  | named _ (some (.str literal)) _ => asked literal.value
  | named binding none _ => asked binding
  | defaultAs _ => false
  | namespaceAs _ => false

/-- Some named specifier imports a name that is asked for. -/
def Import.importsAsked (i : Import) (asked : String → Bool) : Bool :=
  i.specifiers.any (·.importsAsked asked)

/-- The import without the specifiers that go, or nothing if all that it had go. -/
def Import.prune? (i : Import) (gone : Specifier → Bool) : Option Import :=
  let kept := i.specifiers.filter fun s => !gone s
  if !i.specifiers.isEmpty && kept.isEmpty then none else some { i with specifiers := kept }

namespace Item

/-- Which specifiers go may depend on the source that they are imported from. -/
def prune? (gone : String → Specifier → Bool) : Item → Option Item
  | importing i => (i.prune? (gone i.source.value)).map importing
  | node n => some (node n)

def specifiers : Item → List Specifier
  | importing i => i.specifiers
  | node _ => []

/-- The specifiers of the item that go. -/
def pruned (gone : String → Specifier → Bool) : Item → List Specifier
  | importing i => i.specifiers.filter (gone i.source.value)
  | node _ => []

end Item

/-- The module without the specifiers that go, and their number. -/
def Module.prune (m : Module) (gone : String → Specifier → Bool) : Module × Nat :=
  (⟨m.body.filterMap (Item.prune? gone)⟩, (m.body.flatMap (Item.pruned gone)).length)

/-- All specifiers of the module, in order. -/
def Module.specifiers (m : Module) : List Specifier := m.body.flatMap Item.specifiers

/-! ### Pruning twice -/

namespace Import

variable {i : Import} {gone : Specifier → Bool}

theorem prune?_eq_none (hsome : i.specifiers ≠ []) (hall : ∀ s ∈ i.specifiers, gone s = true) :
    i.prune? gone = none := by
  have hkept : (i.specifiers.filter fun s => !gone s) = [] := by
    refine List.filter_eq_nil_iff.mpr fun s hs => ?_
    simp [hall s hs]
  simp [prune?, hsome, hkept]

/-- If one specifier stays, or there was none to begin with, the import stays. -/
theorem isEmpty_kept (h : i.specifiers = [] ∨ ∃ s ∈ i.specifiers, gone s = false) :
    (i.specifiers.filter fun s => !gone s).isEmpty = i.specifiers.isEmpty := by
  rcases h with hnil | ⟨s, hs, hstays⟩
  · rw [hnil]
    rfl
  · have hkept : s ∈ i.specifiers.filter fun s => !gone s := by
      simp [hs, hstays]
    rw [List.isEmpty_eq_false_iff.mpr (List.ne_nil_of_mem hkept),
      List.isEmpty_eq_false_iff.mpr (List.ne_nil_of_mem hs)]

theorem prune?_eq_some (h : i.specifiers = [] ∨ ∃ s ∈ i.specifiers, gone s = false) :
    i.prune? gone = some { i with specifiers := i.specifiers.filter fun s => !gone s } := by
  simp only [prune?, isEmpty_kept h, Bool.not_and_self, Bool.false_eq_true, if_false]

/-- An import that is pruned for one reason after the other goes if it has to go for either. -/
theorem prune?_prune? (i : Import) (gone also : Specifier → Bool) :
    (i.prune? gone).bind (·.prune? also) = i.prune? fun s => gone s || also s := by
  by_cases hfirst : i.specifiers = [] ∨ ∃ s ∈ i.specifiers, gone s = false
  · have hkept : (i.specifiers.filter fun s => !gone s).filter (fun s => !also s) =
        i.specifiers.filter fun s => !(gone s || also s) := by
      rw [List.filter_filter]
      refine List.filter_congr fun s _ => ?_
      rw [Bool.not_or, Bool.and_comm]
    rw [prune?_eq_some hfirst, Option.bind_some]
    simp only [prune?, hkept, isEmpty_kept hfirst]
  · -- The first pruning leaves nothing, and so does pruning for either reason.
    simp only [not_or, not_exists, not_and, Bool.not_eq_false] at hfirst
    obtain ⟨hsome, hall⟩ := hfirst
    have hboth : ∀ s ∈ i.specifiers, (gone s || also s) = true := by
      intro s hs
      rw [hall s hs, Bool.true_or]
    rw [prune?_eq_none hsome hall, prune?_eq_none hsome hboth, Option.bind_none]

theorem source_prune? {i j : Import} {gone : Specifier → Bool} (h : i.prune? gone = some j) :
    j.source = i.source := by
  unfold prune? at h
  dsimp only at h
  split at h
  · cases h
  · cases h
    rfl

/-- An import that goes has no specifier left that stays. -/
theorem specifiers_prune? (i : Import) (gone : Specifier → Bool) :
    (i.prune? gone).toList.flatMap specifiers = i.specifiers.filter fun s => !gone s := by
  unfold prune?
  dsimp only
  split
  · rename_i hnone
    have hkept := List.isEmpty_iff.mp (Bool.and_eq_true_iff.mp hnone).2
    rw [hkept]
    rfl
  · simp

end Import

namespace Item

theorem prune?_prune? (gone also : String → Specifier → Bool) (item : Item) :
    (item.prune? gone).bind (prune? also) =
      item.prune? fun source s => gone source s || also source s := by
  cases item with
  | node n => rfl
  | importing i =>
    have hboth := i.prune?_prune? (gone i.source.value) (also i.source.value)
    cases hfirst : i.prune? (gone i.source.value) with
    | none =>
      rw [hfirst, Option.bind_none] at hboth
      simp [prune?, hfirst, ← hboth]
    | some j =>
      rw [hfirst, Option.bind_some] at hboth
      simp [prune?, hfirst, ← hboth, Import.source_prune? hfirst]

/-- What the item keeps and what goes make up what it had. -/
theorem length_specifiers_prune? (gone : String → Specifier → Bool) (item : Item) :
    ((item.prune? gone).toList.flatMap specifiers).length + (item.pruned gone).length =
      item.specifiers.length := by
  cases item with
  | node n => rfl
  | importing i =>
    have hkept : ((importing i).prune? gone).toList.flatMap specifiers =
        i.specifiers.filter fun s => !gone i.source.value s := by
      rw [← i.specifiers_prune? (gone i.source.value), prune?]
      cases i.prune? (gone i.source.value) <;> rfl
    rw [hkept, pruned, specifiers, Nat.add_comm]
    exact (List.length_eq_length_filter_add _).symm

end Item

namespace Module

variable (m : Module) (gone also : String → Specifier → Bool)

/-- **Pruning for one reason and then for another** is pruning for either. -/
theorem prune_prune :
    ((m.prune gone).1.prune also).1 =
      (m.prune fun source s => gone source s || also source s).1 := by
  simp only [prune, List.filterMap_filterMap, Item.prune?_prune?]

/-- **What is counted is what is missing.** -/
theorem length_specifiers_prune :
    (m.prune gone).1.specifiers.length + (m.prune gone).2 = m.specifiers.length := by
  obtain ⟨body⟩ := m
  simp only [prune, specifiers]
  induction body with
  | nil => rfl
  | cons item rest ih =>
    have hitem := item.length_specifiers_prune? gone
    have hcons : (item :: rest).filterMap (Item.prune? gone) =
        (item.prune? gone).toList ++ rest.filterMap (Item.prune? gone) := by
      cases h : item.prune? gone <;> simp [h]
    rw [hcons]
    simp only [List.flatMap_append, List.flatMap_cons, List.length_append] at ih hitem ⊢
    omega

/-- Two prunings together count what one for either reason counts. -/
theorem prune_count_add :
    (m.prune gone).2 + ((m.prune gone).1.prune also).2 =
      (m.prune fun source s => gone source s || also source s).2 := by
  have hfirst := m.length_specifiers_prune gone
  have hsecond := (m.prune gone).1.length_specifiers_prune also
  have hboth := m.length_specifiers_prune fun source s => gone source s || also source s
  rw [prune_prune] at hsecond
  omega

theorem prune_idem : (m.prune gone).1.prune gone = ((m.prune gone).1, 0) := by
  have hsame : (fun source s => gone source s || gone source s) = gone := by
    funext source s
    exact Bool.or_self _
  have hmodule := m.prune_prune gone gone
  have hcount := m.prune_count_add gone gone
  rw [hsame] at hmodule hcount
  exact Prod.ext hmodule (by omega)

theorem prune_comm :
    ((m.prune gone).1.prune also).1 = ((m.prune also).1.prune gone).1 ∧
      (m.prune gone).2 + ((m.prune gone).1.prune also).2 =
        (m.prune also).2 + ((m.prune also).1.prune gone).2 := by
  rw [prune_prune, prune_prune, prune_count_add, prune_count_add]
  simp only [Bool.or_comm, and_self]

end Module

/-! ### The questions make no difference -/

/-- What a removal takes: from a matching source, the named specifiers that match. -/
def removalOf (name path : String → Bool) (source : String) (s : Specifier) : Bool :=
  path source && s.importsAsked name

theorem Specifier.any_imported? (asked : String → Bool) (s : Specifier) :
    s.imported?.any asked = s.importsAsked asked := by
  cases s with
  | defaultAs binding => rfl
  | namespaceAs binding => rfl
  | named binding imported typeOnly =>
    cases imported with
    | none => rfl
    | some written => cases written <;> rfl

theorem Specifier.isNamedBy_eq (name : Matcher) (s : Specifier) :
    s.isNamedBy name = s.importsAsked name.accepts :=
  s.any_imported? name.accepts

/-- An import goes if something went and nothing is left, that is, if it had specifiers and
    nothing is left. -/
theorem Import.countNamed_pos_and (i : Import) (name : Matcher) :
    (decide (i.countNamed name > 0) && (i.withoutNamed name).specifiers.isEmpty) =
      (!i.specifiers.isEmpty && (i.withoutNamed name).specifiers.isEmpty) := by
  have hlength := List.length_eq_length_filter_add (l := i.specifiers) (·.isNamedBy name)
  rw [← List.countP_eq_length_filter, ← countNamed] at hlength
  cases hempty : (i.withoutNamed name).specifiers.isEmpty with
  | false => simp only [Bool.and_false]
  | true =>
    have hkept : (i.specifiers.filter fun s => !s.isNamedBy name) = [] := List.isEmpty_iff.mp hempty
    rw [hkept, List.length_nil, Nat.add_zero] at hlength
    rw [Bool.and_true, Bool.and_true, ← hlength]
    cases i.specifiers <;> simp

theorem Item.removeNamed_eq_prune (name path : Matcher) (item : Item) :
    item.removeNamed name path =
      (item.prune? (removalOf name.accepts path.accepts),
        (item.pruned (removalOf name.accepts path.accepts)).length) := by
  cases item with
  | node n => rfl
  | importing i =>
    have hgone : removalOf name.accepts path.accepts i.source.value =
        fun s => i.isFrom path && s.isNamedBy name := by
      funext s
      rw [removalOf, Specifier.isNamedBy_eq]
      rfl
    rw [removeNamed_importing, prune?, pruned, hgone]
    cases hfrom : i.isFrom path with
    | false => simp [Import.prune?]
    | true =>
      simp only [if_true, Bool.true_and, Import.countNamed_pos_and, Import.prune?,
        ← List.countP_eq_length_filter]
      refine Prod.ext ?_ rfl
      rw [apply_ite (Option.map importing)]
      rfl

namespace Module

theorem removeNamedImports_eq (m : Module) (name path : Matcher) :
    m.removeNamedImports name path = m.prune (removalOf name.accepts path.accepts) := by
  have hcount : ∀ body : List Item,
      (body.map fun item => (item.pruned (removalOf name.accepts path.accepts)).length).foldr
        (· + ·) 0 = (body.flatMap (Item.pruned (removalOf name.accepts path.accepts))).length := by
    intro body
    induction body with
    | nil => rfl
    | cons item rest ih => simp [ih]
  simp only [removeNamedImports, prune, List.filterMap_map, List.map_map, Function.comp_def,
    Item.removeNamed_eq_prune, hcount]

/-- **A removal is plain pruning.** From every import whose source matches go the named
    specifiers whose imported names match, and with them the imports that had specifiers and
    have none left; everything else stays as it is and where it is, and the count is that of
    the specifiers that went. So a second removal has nothing to do. -/
theorem removeNamedImports_eq_prune (m : Module) (name path : Matcher) :
    m.removeNamedImports name path =
      m.prune (fun source s => path.accepts source && s.importsAsked name.accepts) ∧
    (m.removeNamedImports name path).1.removeNamedImports name path =
      ((m.removeNamedImports name path).1, 0) := by
  refine ⟨m.removeNamedImports_eq name path, ?_⟩
  simp only [removeNamedImports_eq]
  exact m.prune_idem _

/-- **The order of two removals makes no difference**, neither to the module nor to what
    they count together. -/
theorem removeNamedImports_comm (m : Module) (name₁ path₁ name₂ path₂ : Matcher) :
    let first := m.removeNamedImports name₁ path₁
    let second := m.removeNamedImports name₂ path₂
    (first.1.removeNamedImports name₂ path₂).1 = (second.1.removeNamedImports name₁ path₁).1 ∧
      first.2 + (first.1.removeNamedImports name₂ path₂).2 =
        second.2 + (second.1.removeNamedImports name₁ path₁).2 := by
  simp only [removeNamedImports_eq]
  exact m.prune_comm _ _

end Module

end JsxEdit
