import Mathlib.Data.List.Forall2
import Mathlib.Data.List.Nodup
import JsxEdit.Proofs.Pruning

/-!
  **Adding `Fragment` to the imports from `react`.**

  Each value import from `react` is looked at by itself. If none of its named specifiers imports
  `Fragment`, it gets `Fragment as F`, and nothing else changes. What was added is found by the
  next look, so there is nothing left to add (`Module.not_wantsFragment_importFragment`).

  What other imports bind is not asked. Two imports that want `Fragment` both get it, each time
  as `F`, and the module binds `F` twice. The names after the addition are those from before and
  as many `F` as were counted (`Module.bindings_importFragment`), which settles when they are
  distinct.
-/

namespace JsxEdit

/-! ### The imports that get it -/

/-- `Fragment as F` -/
def Specifier.fragment : Specifier := .named "F" (some (.ident "Fragment")) false

namespace Import

/-- A value import from `react` in which no named specifier imports `Fragment`. -/
def wantsFragment (i : Import) : Bool :=
  i.source.value == "react" && !i.typeOnly && !i.importsAsked (· == "Fragment")

variable {i : Import}

theorem hasFragment_eq (i : Import) : i.hasFragment = i.importsAsked (· == "Fragment") := by
  have hsame : ∀ s : Specifier, (s.imported? == some "Fragment") = s.importsAsked (· == "Fragment") := by
    intro s
    rw [← Specifier.any_imported?]
    cases s.imported? <;> rfl
  simp only [hasFragment, importsAsked, hsame]

theorem lacksFragment_eq : lacksFragment = wantsFragment := by
  funext i
  rw [lacksFragment, wantsFragment, hasFragment_eq]

theorem withFragment_eq (i : Import) :
    i.withFragment = { i with specifiers := i.specifiers ++ [.fragment] } := rfl

/-- The specifier that is added is one that imports `Fragment`. -/
theorem not_wantsFragment_withFragment (i : Import) : i.withFragment.wantsFragment = false := by
  have hnew : i.withFragment.importsAsked (· == "Fragment") = true := by
    simp [withFragment_eq, importsAsked, Specifier.fragment, Specifier.importsAsked]
  simp [wantsFragment, hnew]

theorem hasFragment_of_not_wantsFragment (h : i.wantsFragment = false)
    (hsource : i.source.value = "react") (hvalue : i.typeOnly = false) : i.hasFragment = true := by
  rw [hasFragment_eq]
  simpa [wantsFragment, hsource, hvalue] using h

end Import

namespace Item

/-- What becomes of an item when `Fragment` is added. -/
inductive GetsFragment : Item → Item → Prop where
  | added (i : Import) (h : i.wantsFragment = true) :
      GetsFragment (.importing i)
        (.importing { i with specifiers := i.specifiers ++ [.fragment] })
  | kept (item : Item) (h : ∀ i, item = .importing i → i.wantsFragment = false) :
      GetsFragment item item

theorem withFragment_importing (i : Import) :
    (importing i).withFragment = .importing (if i.wantsFragment then i.withFragment else i) := by
  rw [withFragment, Import.lacksFragment_eq]

theorem getsFragment_withFragment (item : Item) : item.GetsFragment item.withFragment := by
  cases item with
  | node n => exact .kept _ nofun
  | importing i =>
    rw [withFragment_importing]
    cases hwants : i.wantsFragment with
    | true => exact .added i hwants
    | false =>
      refine .kept _ ?_
      intro j hj
      cases hj
      exact hwants

end Item

namespace Module

variable {m : Module}

theorem importFragment_count (m : Module) :
    m.importFragment.2 = m.imports.countP Import.wantsFragment := by
  rw [importFragment, Import.lacksFragment_eq]

/-- Where no import wants `Fragment`, nothing is done. -/
theorem importFragment_of_forall (h : ∀ i ∈ m.imports, i.wantsFragment = false) :
    m.importFragment = (m, 0) := by
  have hitem : ∀ item ∈ m.body, item.withFragment = id item := by
    intro item hitem
    cases item with
    | node n => rfl
    | importing i =>
      rw [Item.withFragment_importing, h i (mem_imports.mpr hitem)]
      rfl
  have hsame : m.body.map Item.withFragment = m.body := by
    rw [List.map_congr_left hitem, List.map_id]
  refine Prod.ext ?_ ?_
  · rw [importFragment, hsame]
  · rw [importFragment_count, List.countP_eq_zero]
    intro i hi
    rw [h i hi]
    exact Bool.false_ne_true

/-- Afterwards no import wants `Fragment`. -/
theorem not_wantsFragment_importFragment (m : Module) :
    ∀ i ∈ m.importFragment.1.imports, i.wantsFragment = false := by
  intro i hi
  obtain ⟨item, hitem, hchanged⟩ := List.mem_map.mp (mem_imports.mp hi)
  cases item with
  | node n => cases hchanged
  | importing j =>
    rw [Item.withFragment_importing] at hchanged
    cases hchanged
    split
    · exact j.not_wantsFragment_withFragment
    · rename_i hwants
      exact Bool.not_eq_true _ ▸ hwants

/-- **Adding `Fragment` is exact.** The count is that of the value imports from `react` in which
    no named specifier imports `Fragment`; each of them gets `Fragment as F` at its end, and
    every other item stays as it is. Afterwards all value imports from `react` have `Fragment`,
    and a second addition does nothing. -/
theorem importFragment_exact (m : Module) :
    m.importFragment.2 = m.imports.countP Import.wantsFragment ∧
    List.Forall₂ Item.GetsFragment m.body m.importFragment.1.body ∧
    (∀ i ∈ m.importFragment.1.imports,
      i.source.value = "react" → i.typeOnly = false → i.hasFragment = true) ∧
    m.importFragment.1.importFragment = (m.importFragment.1, 0) := by
  refine ⟨m.importFragment_count, ?_, ?_, ?_⟩
  · refine List.forall₂_map_right_iff.mpr (List.forall₂_same.mpr ?_)
    intro item _
    exact item.getsFragment_withFragment
  · intro i hi hsource hvalue
    have hwants := m.not_wantsFragment_importFragment i hi
    exact Import.hasFragment_of_not_wantsFragment hwants hsource hvalue
  · exact importFragment_of_forall m.not_wantsFragment_importFragment

/-! ### The names that are bound -/

/-- The local names that the imports bind. -/
def bindings (m : Module) : List String := m.specifiers.map Specifier.binding

theorem bindings_cons (item : Item) (rest : List Item) :
    (⟨item :: rest⟩ : Module).bindings =
      item.specifiers.map Specifier.binding ++ (⟨rest⟩ : Module).bindings := by
  simp only [bindings, specifiers, List.flatMap_cons, List.map_append]

/-- **The names after the addition**: one `F` for each import that gets it. -/
theorem bindings_importFragment (m : Module) :
    m.importFragment.1.bindings.Perm (m.bindings ++ List.replicate m.importFragment.2 "F") := by
  obtain ⟨body⟩ := m
  induction body with
  | nil => exact List.Perm.nil
  | cons item rest ih =>
    have hcons : (⟨item :: rest⟩ : Module).importFragment.1.bindings =
        item.withFragment.specifiers.map Specifier.binding ++
          (⟨rest⟩ : Module).importFragment.1.bindings := bindings_cons _ _
    rw [hcons, bindings_cons, List.append_assoc]
    cases item with
    | node n => exact ih
    | importing i =>
      have hcount : (⟨.importing i :: rest⟩ : Module).importFragment.2 =
          (⟨rest⟩ : Module).importFragment.2 + if i.wantsFragment then 1 else 0 := by
        rw [importFragment_count, importFragment_count]
        exact List.countP_cons
      rw [hcount, Item.withFragment_importing]
      cases hwants : i.wantsFragment with
      | false => exact ih.append_left _
      | true =>
        have hnew : (Item.importing i.withFragment).specifiers.map Specifier.binding =
            (Item.importing i).specifiers.map Specifier.binding ++ ["F"] := by
          simp [Item.specifiers, Import.withFragment_eq, Specifier.fragment, Specifier.binding]
        rw [if_pos rfl, if_pos rfl, hnew, List.append_assoc, List.replicate_succ]
        -- The new `F` stands before what the later imports bind, and not at the end.
        exact ((ih.cons "F").trans List.perm_middle.symm).append_left _

/-- **Distinct names stay distinct** if and only if no two imports want `Fragment`. -/
theorem nodup_bindings_importFragment_iff (m : Module) (hnodup : m.bindings.Nodup)
    (hfree : "F" ∉ m.bindings) :
    m.importFragment.1.bindings.Nodup ↔ m.imports.countP Import.wantsFragment ≤ 1 := by
  rw [m.bindings_importFragment.nodup_iff, List.nodup_append, List.nodup_replicate,
    importFragment_count]
  constructor
  · rintro ⟨-, hcount, -⟩
    exact hcount
  · intro hcount
    refine ⟨hnodup, hcount, ?_⟩
    rintro n hn _ hF rfl
    exact hfree (List.eq_of_mem_replicate hF ▸ hn)

/-- One import from `react` has `Fragment`, one is a type import, and one gets it. -/
theorem nodup_bindings_importFragment_iff_once :
    let m : Module :=
      ⟨[.importing { Import.bare "react" with specifiers := [.defaultAs "React"] },
        .importing { Import.bare "react" with specifiers := [.named "Fragment" none false] },
        .importing
          { Import.bare "react" with specifiers := [.named "FC" none false], typeOnly := true }]⟩
    m.bindings.Nodup ∧ "F" ∉ m.bindings ∧ m.importFragment.1.bindings.Nodup := by
  intro m
  have hnodup : m.bindings.Nodup := by decide
  have hfree : "F" ∉ m.bindings := by decide
  refine ⟨hnodup, hfree, ?_⟩
  exact (nodup_bindings_importFragment_iff m hnodup hfree).mpr (by decide)

/-- `import React from "react"` and `import { useState } from "react"` both get
    `Fragment as F`. -/
theorem not_nodup_bindings_importFragment :
    let m : Module :=
      ⟨[.importing { Import.bare "react" with specifiers := [.defaultAs "React"] },
        .importing { Import.bare "react" with specifiers := [.named "useState" none false] }]⟩
    m.bindings.Nodup ∧ "F" ∉ m.bindings ∧ ¬ m.importFragment.1.bindings.Nodup := by
  decide

end Module

end JsxEdit
