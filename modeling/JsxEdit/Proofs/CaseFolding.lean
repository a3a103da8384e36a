import Mathlib.Data.List.Sort
import Mathlib.Data.List.TakeWhile
import JsxEdit.Pattern.CharSet

/-!
  **Closing sets of characters under case.**

  The characters that agree with one up to case are found by going to what it folds to and from
  there back through all runs of the table. `Text.FoldsTo` says of two code points that one run
  takes the first to the second, and both directions of the way are described by it.

  Two sets matter for names. All that the table mentions are word characters, so closing a set that
  holds them all adds nothing (`mem_folded_union_word`). The letters from `a` to `z` are mentioned
  as what something else folds to, and not only the capital letters do: the long s and the Kelvin
  sign fold to `s` and `k` (`mem_folded_letters`). The table enters by facts about all its runs
  (`foldRuns_table`, `coversAll_sources`, `coversAll_targets`), which are checked run by run.
-/

namespace JsxEdit

namespace Text

/-! ### Ranges within ranges -/

namespace CharRanges

/-- Each of the inner ranges lies within one of the outer ranges. One pass through both is enough
    if they ascend. -/
def coversAll : CharRanges → List (Nat × Nat) → Bool
  | [], inner => inner.isEmpty
  | (lo, hi) :: outer, inner =>
    match inner.dropWhile fun range => Nat.ble lo range.1 && Nat.ble range.2 hi with
    | [] => true
    | range :: left => coversAll outer (range :: left)

theorem exists_of_coversAll {outer : CharRanges} {inner : List (Nat × Nat)}
    (h : outer.coversAll inner = true) {range : Nat × Nat} (hrange : range ∈ inner) :
    ∃ found ∈ outer, found.1 ≤ range.1 ∧ range.2 ≤ found.2 := by
  induction outer generalizing inner with
  | nil =>
    rw [coversAll, List.isEmpty_iff] at h
    rw [h] at hrange
    cases hrange
  | cons first outer ih =>
    obtain ⟨lo, hi⟩ := first
    rw [← List.takeWhile_append_dropWhile (l := inner)
      (p := fun range => Nat.ble lo range.1 && Nat.ble range.2 hi), List.mem_append] at hrange
    rcases hrange with hwithin | hleft
    · have hcovers := List.mem_takeWhile_imp hwithin
      rw [Bool.and_eq_true, Nat.ble_eq, Nat.ble_eq] at hcovers
      exact ⟨(lo, hi), List.mem_cons_self, hcovers⟩
    · rw [coversAll] at h
      split at h
      · rename_i hnone
        rw [hnone] at hleft
        cases hleft
      · rename_i hsome
        rw [hsome] at hleft
        obtain ⟨found, hfound, hcovers⟩ := ih h hleft
        exact ⟨found, List.mem_cons_of_mem _ hfound, hcovers⟩

/-- Looking a code point up stops early only where no later range can hold it. -/
theorem contains_of_mem {ranges : CharRanges} (hsorted : ranges.Pairwise (·.1 ≤ ·.1))
    {range : Nat × Nat} (hrange : range ∈ ranges) {n : Nat} (hlo : range.1 ≤ n)
    (hhi : n ≤ range.2) : ranges.contains n = true := by
  induction ranges with
  | nil => cases hrange
  | cons first rest ih =>
    rw [List.pairwise_cons] at hsorted
    obtain ⟨hfirst, hrest⟩ := hsorted
    rcases List.mem_cons.mp hrange with rfl | hrange
    · rw [contains, if_neg (Nat.not_lt.mpr hlo), decide_eq_true hhi, Bool.true_or]
    · have hstart : ¬ n < first.1 := Nat.not_lt.mpr (Nat.le_trans (hfirst range hrange) hlo)
      rw [contains, if_neg hstart, ih hrest hrange, Bool.or_true]

end CharRanges

theorem pairwise_wordRanges : wordRanges.Pairwise (·.1 ≤ ·.1) := by
  have hchain : wordRanges.IsChain (·.1 ≤ ·.1) := by decide +kernel
  exact List.isChain_iff_pairwise.mp hchain

/-- A code point in a range that lies within a range of word characters. -/
theorem wordRanges_contains {inner : List (Nat × Nat)}
    (h : CharRanges.coversAll wordRanges inner = true) {range : Nat × Nat} (hrange : range ∈ inner)
    {n : Nat} (hlo : range.1 ≤ n) (hhi : n ≤ range.2) : wordRanges.contains n = true := by
  obtain ⟨found, hfound, hfirst, hlast⟩ := CharRanges.exists_of_coversAll h hrange
  exact CharRanges.contains_of_mem pairwise_wordRanges hfound (Nat.le_trans hfirst hlo)
    (Nat.le_trans hhi hlast)

/-! ### One step of folding -/

/-- A run of the table takes the first code point to the second. -/
def FoldsTo (m t : Nat) : Prop := ∃ r ∈ foldRuns, r.covers m = true ∧ (m : Int) + r.shift = t

theorem FoldRun.covers_iff {r : FoldRun} {m : Nat} :
    r.covers m = true ↔ r.first ≤ m ∧ m ≤ r.last ∧ (m - r.first) % r.stride = 0 := by
  simp only [covers, Bool.and_eq_true, decide_eq_true_eq, beq_iff_eq, and_assoc]

/-- **The table, run by run.** No run leads below zero, so that nothing is cut off when shifts are
    added. A run that leads to lowercase letters comes from capital letters, the long s or the
    Kelvin sign; no run comes from lowercase letters; and from capital letters the shift is 32. -/
theorem foldRuns_table : ∀ r ∈ foldRuns,
    0 ≤ (r.first : Int) + r.shift ∧
    ((r.last : Int) + r.shift < 0x61 ∨ 0x7a < (r.first : Int) + r.shift ∨
      (0x41 ≤ r.first ∧ r.last ≤ 0x5a) ∨ (0x17f ≤ r.first ∧ r.last ≤ 0x17f) ∨
      (0x212a ≤ r.first ∧ r.last ≤ 0x212a)) ∧
    (r.last < 0x61 ∨ 0x7a < r.first) ∧
    (r.last < 0x41 ∨ 0x5a < r.first ∨ r.shift = 32) := by
  decide +kernel

theorem foldPoint_cases (n : Nat) :
    FoldsTo n (foldPoint n) ∨ (∀ r ∈ foldRuns, r.covers n = false) ∧ foldPoint n = n := by
  unfold foldPoint
  split
  · rename_i r hfound
    have hr := List.mem_of_find?_eq_some hfound
    have hcovers : r.covers n = true := by simpa using List.find?_some hfound
    have hstart := (foldRuns_table r hr).1
    obtain ⟨hfirst, -, -⟩ := r.covers_iff.mp hcovers
    exact .inl ⟨r, hr, hcovers, by omega⟩
  · rename_i hnone
    refine .inr ⟨?_, rfl⟩
    intro r hr
    exact Bool.eq_false_iff.mpr (List.find?_eq_none.mp hnone r hr)

theorem mem_foldSources_iff {m t : Nat} : m ∈ foldSources t ↔ FoldsTo m t := by
  rw [foldSources, List.mem_filterMap]
  constructor
  · rintro ⟨r, hr, hsource⟩
    simp only [Option.ite_none_right_eq_some, Option.some.injEq, Bool.and_eq_true,
      beq_iff_eq] at hsource
    obtain ⟨⟨hcovers, hback⟩, hm⟩ := hsource
    rw [hm] at hcovers hback
    have hstart := (foldRuns_table r hr).1
    obtain ⟨hfirst, -, -⟩ := r.covers_iff.mp hcovers
    exact ⟨r, hr, hcovers, by omega⟩
  · rintro ⟨r, hr, hcovers, hshift⟩
    have hm : ((t : Int) - r.shift).toNat = m := by omega
    have hback : ((m : Int) + r.shift).toNat = t := by omega
    refine ⟨r, hr, ?_⟩
    simp [hm, hcovers, hback]

theorem foldsTo_foldPoint {n : Nat} (h : foldPoint n ≠ n) : FoldsTo n (foldPoint n) := by
  rcases foldPoint_cases n with hfolds | ⟨-, hsame⟩
  · exact hfolds
  · exact absurd hsame h

/-- Every character agrees with itself up to case. -/
theorem self_mem_variants (c : Char) : c ∈ variants c := by
  rw [variants, List.mem_map]
  refine ⟨c.toNat, ?_, Char.ofNat_toNat c⟩
  rcases foldPoint_cases c.toNat with hfolds | ⟨-, hsame⟩
  · exact List.mem_cons_of_mem _ (mem_foldSources_iff.mpr hfolds)
  · rw [hsame]
    exact List.mem_cons_self

/-! ### Word characters -/

namespace FoldRun

/-- The code points that a run covers, as ranges. -/
def sources (r : FoldRun) : List (Nat × Nat) :=
  if r.stride = 1 then [(r.first, r.last)]
  else
    (List.range ((r.last - r.first) / r.stride + 1)).map fun i =>
      (r.first + i * r.stride, r.first + i * r.stride)

def shifted (r : FoldRun) (n : Nat) : Nat := ((n : Int) + r.shift).toNat

/-- The code points that a run leads to, as ranges. -/
def targets (r : FoldRun) : List (Nat × Nat) :=
  r.sources.map fun range => (r.shifted range.1, r.shifted range.2)

theorem exists_source {r : FoldRun} {m : Nat} (h : r.covers m = true) :
    ∃ range ∈ r.sources, range.1 ≤ m ∧ m ≤ range.2 := by
  obtain ⟨hfirst, hlast, hstep⟩ := r.covers_iff.mp h
  unfold sources
  split
  · exact ⟨(r.first, r.last), List.mem_singleton_self _, hfirst, hlast⟩
  · have hpoint : r.first + (m - r.first) / r.stride * r.stride = m := by
      rw [Nat.div_mul_cancel (Nat.dvd_of_mod_eq_zero hstep)]
      omega
    refine ⟨(m, m), List.mem_map.mpr ⟨(m - r.first) / r.stride, ?_, ?_⟩, Nat.le_refl m,
      Nat.le_refl m⟩
    · rw [List.mem_range, Nat.lt_succ_iff]
      exact Nat.div_le_div_right (by omega)
    · rw [hpoint]

theorem exists_target {r : FoldRun} {m t : Nat} (h : r.covers m = true)
    (hshift : (m : Int) + r.shift = t) : ∃ range ∈ r.targets, range.1 ≤ t ∧ t ≤ range.2 := by
  obtain ⟨range, hrange, hlo, hhi⟩ := exists_source h
  refine ⟨_, List.mem_map_of_mem hrange, ?_, ?_⟩
  · simp only [shifted]
    omega
  · simp only [shifted]
    omega

end FoldRun

theorem coversAll_sources :
    CharRanges.coversAll wordRanges (foldRuns.flatMap FoldRun.sources) = true := by
  decide +kernel

/-- What runs lead to does not ascend as the table does, so it is put in order first. -/
theorem coversAll_targets :
    CharRanges.coversAll wordRanges
      ((foldRuns.insertionSort fun r r' => r.shifted r.first ≤ r'.shifted r'.first).flatMap
        FoldRun.targets) = true := by
  decide +kernel

/-- Runs lead from word characters to word characters. -/
theorem FoldsTo.word {m t : Nat} (h : FoldsTo m t) :
    wordRanges.contains m = true ∧ wordRanges.contains t = true := by
  obtain ⟨r, hr, hcovers, hshift⟩ := h
  constructor
  · obtain ⟨range, hrange, hlo, hhi⟩ := FoldRun.exists_source hcovers
    exact wordRanges_contains coversAll_sources (List.mem_flatMap.mpr ⟨r, hr, hrange⟩) hlo hhi
  · obtain ⟨range, hrange, hlo, hhi⟩ := FoldRun.exists_target hcovers hshift
    have hsorted := (List.mem_insertionSort
      fun r r' : FoldRun => r.shifted r.first ≤ r'.shifted r'.first).mpr hr
    exact wordRanges_contains coversAll_targets (List.mem_flatMap.mpr ⟨r, hsorted, hrange⟩) hlo hhi

theorem variants_of_not_isWord {c : Char} (h : isWord c = false) : variants c = [c] := by
  have hpoint : ∀ {t : Nat}, ¬ FoldsTo c.toNat t := by
    intro t hfolds
    rw [isWord, hfolds.word.1] at h
    cases h
  have hsame : foldPoint c.toNat = c.toNat := by
    rcases foldPoint_cases c.toNat with hfolds | ⟨-, hsame⟩
    · exact absurd hfolds hpoint
    · exact hsame
  have hsources : foldSources c.toNat = [] := by
    rw [List.eq_nil_iff_forall_not_mem]
    intro m hm
    rw [isWord, (mem_foldSources_iff.mp hm).word.2] at h
    cases h
  rw [variants, hsame, hsources, List.map_singleton, Char.ofNat_toNat]

/-! ### Letters -/

/-- A letter from `a` to `z` up to case: an ASCII letter, the long s or the Kelvin sign. -/
def IsLetter (c : Char) : Prop := c.isAlpha = true ∨ c = '\u017f' ∨ c = '\u212a'

theorem isAlpha_iff {c : Char} :
    c.isAlpha = true ↔
      (0x41 ≤ c.toNat ∧ c.toNat ≤ 0x5a) ∨ (0x61 ≤ c.toNat ∧ c.toNat ≤ 0x7a) := by
  change (decide (c.val ≥ 'A'.val ∧ c.val ≤ 'Z'.val) ||
    (decide (c.val ≥ 'a'.val) && decide (c.val ≤ 'z'.val))) = true ↔ _
  rw [Bool.or_eq_true, Bool.and_eq_true, decide_eq_true_eq, decide_eq_true_eq, decide_eq_true_eq]
  rfl

/-- Which code points lead to a lowercase letter. -/
theorem FoldsTo.letter {m t : Nat} (h : FoldsTo m t) (hlo : 0x61 ≤ t) (hhi : t ≤ 0x7a) :
    (0x41 ≤ m ∧ m ≤ 0x5a) ∨ m = 0x17f ∨ m = 0x212a := by
  obtain ⟨r, hr, hcovers, hshift⟩ := h
  obtain ⟨hfirst, hlast, -⟩ := r.covers_iff.mp hcovers
  obtain ⟨-, hrun, -, -⟩ := foldRuns_table r hr
  omega

/-- Lowercase letters lead nowhere. -/
theorem FoldsTo.not_lowercase {m t : Nat} (h : FoldsTo m t) : m < 0x61 ∨ 0x7a < m := by
  obtain ⟨r, hr, hcovers, -⟩ := h
  obtain ⟨hfirst, hlast, -⟩ := r.covers_iff.mp hcovers
  obtain ⟨-, -, hrun, -⟩ := foldRuns_table r hr
  omega

/-- Capital letters lead to the letters 32 places after them. -/
theorem foldPoint_of_capital {n : Nat} (hlo : 0x41 ≤ n) (hhi : n ≤ 0x5a) :
    foldPoint n = n + 32 := by
  have hcovered : (⟨0x41, 0x5a, 1, 32⟩ : FoldRun).covers n = true := by
    rw [FoldRun.covers_iff]
    exact ⟨hlo, hhi, Nat.mod_one _⟩
  rcases foldPoint_cases n with ⟨r, hr, hcovers, hshift⟩ | ⟨hnone, -⟩
  · obtain ⟨hfirst, hlast, -⟩ := r.covers_iff.mp hcovers
    obtain ⟨-, -, -, hrun⟩ := foldRuns_table r hr
    omega
  · rw [hnone _ (.head _)] at hcovered
    cases hcovered

theorem foldPoint_longS : foldPoint 0x17f = 0x73 := by decide

theorem foldPoint_kelvin : foldPoint 0x212a = 0x6b := by decide

/-- The table mentions every letter, the lowercase ones as what the capitals lead to. -/
theorem IsLetter.isWord {c : Char} (h : IsLetter c) : isWord c = true := by
  rcases h with hletter | rfl | rfl
  · rcases isAlpha_iff.mp hletter with ⟨hlo, hhi⟩ | ⟨hlo, hhi⟩
    · have hpoint := foldPoint_of_capital hlo hhi
      exact (foldsTo_foldPoint (by omega)).word.1
    · have hpoint := foldPoint_of_capital (n := c.toNat - 32) (by omega) (by omega)
      have hfolds := foldsTo_foldPoint (n := c.toNat - 32) (by omega)
      rw [hpoint, Nat.sub_add_cancel (by omega)] at hfolds
      exact hfolds.word.2
  · exact (foldsTo_foldPoint (n := 0x17f) (by rw [foldPoint_longS]; decide)).word.1
  · exact (foldsTo_foldPoint (n := 0x212a) (by rw [foldPoint_kelvin]; decide)).word.1

end Text

namespace CharSet

open Text

theorem mem_folded (a : CharSet) (c : Char) : (folded a).mem c = (variants c).any a.mem := rfl

theorem mem_folded_of_mem {a : CharSet} {c : Char} (h : a.mem c = true) :
    (folded a).mem c = true :=
  List.any_eq_true.mpr ⟨c, self_mem_variants c, h⟩

/-- A set with all word characters is closed under case. -/
theorem mem_folded_union_word {a : CharSet} {c : Char} :
    (folded (union word a)).mem c = (union word a).mem c := by
  cases hc : isWord c with
  | true =>
    have hmem : (union word a).mem c = true := by simp [mem, hc]
    rw [mem_folded_of_mem hmem, hmem]
  | false =>
    rw [mem_folded, variants_of_not_isWord hc, List.any_cons, List.any_nil, Bool.or_false]

theorem mem_range_iff {lo hi c : Char} :
    (range lo hi).mem c = true ↔ lo.toNat ≤ c.toNat ∧ c.toNat ≤ hi.toNat := by
  simp only [mem, decide_eq_true_eq]
  rfl

/-- A number that is no code point is taken for zero, which is no letter. -/
theorem ofNat_mem_lowercase_iff {n : Nat} :
    (range 'a' 'z').mem (Char.ofNat n) = true ↔ 0x61 ≤ n ∧ n ≤ 0x7a := by
  rw [mem_range_iff]
  by_cases hvalid : n.isValidChar
  · have hpoint : (Char.ofNat n).toNat = n := by
      rw [Char.ofNat, dif_pos hvalid]
      rfl
    rw [hpoint]
    rfl
  · have hzero : (Char.ofNat n).toNat = 0 := by
      rw [Char.ofNat, dif_neg hvalid]
      rfl
    have hlarge : ¬ n < 0xd800 := by
      intro hsmall
      exact hvalid (.inl hsmall)
    rw [hzero]
    refine iff_of_false ?_ (by omega)
    rintro ⟨hlo, -⟩
    exact absurd hlo (by decide)

theorem mem_folded_lowercase_of_foldPoint {c : Char} (hlo : 0x61 ≤ foldPoint c.toNat)
    (hhi : foldPoint c.toNat ≤ 0x7a) : (folded (range 'a' 'z')).mem c = true := by
  rw [mem_folded, variants, List.any_map, List.any_eq_true]
  exact ⟨foldPoint c.toNat, List.mem_cons_self, ofNat_mem_lowercase_iff.mpr ⟨hlo, hhi⟩⟩

theorem mem_folded_letters {c : Char} :
    (folded (range 'a' 'z')).mem c = true ↔ IsLetter c := by
  constructor
  · intro h
    rw [mem_folded, variants, List.any_map, List.any_eq_true] at h
    obtain ⟨v, hv, hmem⟩ := h
    obtain ⟨hlo, hhi⟩ := ofNat_mem_lowercase_iff.mp hmem
    rcases List.mem_cons.mp hv with rfl | hsource
    · rcases foldPoint_cases c.toNat with hfolds | ⟨-, hsame⟩
      · rcases hfolds.letter hlo hhi with hcapital | hlong | hkelvin
        · exact .inl (isAlpha_iff.mpr (.inl hcapital))
        · exact .inr (.inl (Char.toNat_inj.mp hlong))
        · exact .inr (.inr (Char.toNat_inj.mp hkelvin))
      · rw [hsame] at hlo hhi
        exact .inl (isAlpha_iff.mpr (.inr ⟨hlo, hhi⟩))
    · have hnot := (mem_foldSources_iff.mp hsource).not_lowercase
      omega
  · rintro (hletter | rfl | rfl)
    · rcases isAlpha_iff.mp hletter with ⟨hlo, hhi⟩ | hlower
      · have hpoint := foldPoint_of_capital hlo hhi
        exact mem_folded_lowercase_of_foldPoint (by omega) (by omega)
      · exact mem_folded_of_mem (mem_range_iff.mpr hlower)
    · have hpoint : foldPoint '\u017f'.toNat = 0x73 := foldPoint_longS
      exact mem_folded_lowercase_of_foldPoint (by omega) (by omega)
    · have hpoint : foldPoint '\u212a'.toNat = 0x6b := foldPoint_kelvin
      exact mem_folded_lowercase_of_foldPoint (by omega) (by omega)

end CharSet

end JsxEdit
