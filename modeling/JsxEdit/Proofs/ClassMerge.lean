import JsxEdit.Proofs.ClassForm

/-!
  **Merging class strings is putting lists of names together.**

  Two class strings are merged by a space between them, and the blanks at the ends of the whole
  are dropped. For the words this is concatenation, whatever the blanks. The strings themselves
  are another matter: a blank at an end of one of them may come to stand inside, where it stays,
  so that the order in which three strings are merged can be seen in the outcome.

  `Text.IsTrimmed` leaves these strings out. On the others merging puts one space between what is
  not empty (`ClassName.merge_of_ne_empty`), and everything else follows from that.
-/

namespace JsxEdit

/-! ### Texts without blanks at their ends -/

namespace Text

/-- The text neither starts nor ends with a blank. -/
structure IsTrimmed (s : String) : Prop where
  head : ∀ c ∈ s.toList.head?, isBlank c = false
  last : ∀ c ∈ s.toList.getLast?, isBlank c = false

theorem not_isBlank_head_dropWhile {cs : List Char} {c : Char}
    (h : c ∈ (cs.dropWhile isBlank).head?) : isBlank c = false := by
  have hnot := List.head?_dropWhile_not isBlank cs
  rw [Option.mem_def.mp h] at hnot
  exact hnot

/-- What is left of a list at its front is still its first element. -/
theorem mem_head?_of_rdropWhile {cs : List Char} {c : Char}
    (h : c ∈ (cs.rdropWhile isBlank).head?) : c ∈ cs.head? := by
  obtain ⟨dropped, hcs⟩ := List.rdropWhile_prefix isBlank (l := cs)
  rw [← hcs, List.head?_append, Option.mem_def.mp h]
  rfl

theorem isTrimmed_trim (s : String) : IsTrimmed (trim s) := by
  have hends : (trim s).toList = (s.toList.dropWhile isBlank).rdropWhile isBlank :=
    String.toList_ofList
  constructor
  · intro c hc
    rw [hends] at hc
    exact not_isBlank_head_dropWhile (mem_head?_of_rdropWhile hc)
  · intro c hc
    rw [hends, List.rdropWhile, List.getLast?_reverse] at hc
    exact not_isBlank_head_dropWhile hc

theorem dropWhile_isBlank_of_head {cs : List Char} (h : ∀ c ∈ cs.head?, isBlank c = false) :
    cs.dropWhile isBlank = cs := by
  cases cs with
  | nil => rfl
  | cons c cs => rw [List.dropWhile_cons_of_neg (Bool.eq_false_iff.mp (h c rfl))]

theorem trim_of_isTrimmed {s : String} (h : IsTrimmed s) : trim s = s := by
  have hlast : ∀ c ∈ s.toList.reverse.head?, isBlank c = false := by
    intro c hc
    rw [List.head?_reverse] at hc
    exact h.last c hc
  rw [trim, trimChars, dropWhile_isBlank_of_head h.head, dropWhile_isBlank_of_head hlast,
    List.reverse_reverse, String.ofList_toList]

theorem isTrimmed_iff {s : String} : IsTrimmed s ↔ trim s = s := by
  constructor
  · exact trim_of_isTrimmed
  · intro h
    rw [← h]
    exact isTrimmed_trim s

instance (s : String) : Decidable (IsTrimmed s) := decidable_of_iff _ isTrimmed_iff.symm

/-- Blanks between two texts are not at an end, unless one of the texts is empty. -/
theorem IsTrimmed.append_space {s t : String} (hs : IsTrimmed s) (ht : IsTrimmed t)
    (hsne : s ≠ "") (htne : t ≠ "") : IsTrimmed (s ++ " " ++ t) := by
  obtain ⟨first, rest, hfirst⟩ :=
    List.exists_cons_of_ne_nil (mt String.toList_eq_nil_iff.mp hsne)
  obtain ⟨init, final, hfinal⟩ :=
    (List.eq_nil_or_concat' t.toList).resolve_left (mt String.toList_eq_nil_iff.mp htne)
  constructor
  · intro c hc
    rw [String.toList_append, String.toList_append, hfirst] at hc
    apply hs.head c
    rw [hfirst]
    exact hc
  · intro c hc
    rw [String.toList_append, hfinal, ← List.append_assoc, List.getLast?_concat] at hc
    apply ht.last c
    rw [hfinal, List.getLast?_concat]
    exact hc

theorem trim_space_append (s : String) : trim (" " ++ s) = trim s := by
  have hchars : (" " ++ s).toList = ' ' :: s.toList := by
    rw [String.toList_append]
    rfl
  rw [trim, hchars, trimChars, List.dropWhile_cons_of_pos isBlank_space, ← trimChars, ← trim]

theorem trim_append_space (s : String) : trim (s ++ " ") = trim s := by
  have hchars : (s ++ " ").toList = s.toList ++ [' '] := String.toList_append
  have hends : trimChars (s.toList ++ [' ']) = trimChars s.toList := by
    unfold trimChars
    rw [List.dropWhile_append]
    split
    · rename_i hblank
      rw [List.isEmpty_iff.mp hblank, List.dropWhile_cons_of_pos isBlank_space]
      rfl
    · rw [List.reverse_concat, List.dropWhile_cons_of_pos isBlank_space]
  rw [trim, hchars, hends, ← trim]

end Text

/-! ### Merging -/

namespace ClassName

open Text

theorem merge_prepend (a b : String) : merge a b .prepend = merge b a .append := rfl

theorem isTrimmed_merge (a b : String) (mode : Mode) : IsTrimmed (merge a b mode) := by
  cases mode with
  | append => exact isTrimmed_trim _
  | prepend => exact isTrimmed_trim _

variable {a b c : String}

theorem merge_empty_left (ha : IsTrimmed a) : merge "" a .append = a := by
  rw [merge, String.empty_append, trim_space_append, trim_of_isTrimmed ha]

theorem merge_empty_right (ha : IsTrimmed a) : merge a "" .append = a := by
  rw [merge, String.append_empty, trim_append_space, trim_of_isTrimmed ha]

theorem merge_of_ne_empty (ha : IsTrimmed a) (hb : IsTrimmed b) (hane : a ≠ "") (hbne : b ≠ "") :
    merge a b .append = a ++ " " ++ b :=
  trim_of_isTrimmed (ha.append_space hb hane hbne)

theorem merge_assoc (ha : IsTrimmed a) (hb : IsTrimmed b) (hc : IsTrimmed c) :
    merge (merge a b .append) c .append = merge a (merge b c .append) .append := by
  by_cases hane : a = ""
  · subst hane
    rw [merge_empty_left hb, merge_empty_left (isTrimmed_merge b c .append)]
  by_cases hbne : b = ""
  · subst hbne
    rw [merge_empty_right ha, merge_empty_left hc]
  by_cases hcne : c = ""
  · subst hcne
    rw [merge_empty_right (isTrimmed_merge a b .append), merge_empty_right hb]
  have hab := merge_of_ne_empty ha hb hane hbne
  have hbc := merge_of_ne_empty hb hc hbne hcne
  have habne : merge a b .append ≠ "" := by simp [hab]
  have hbcne : merge b c .append ≠ "" := by simp [hbc]
  rw [merge_of_ne_empty (isTrimmed_merge a b .append) hc habne hcne,
    merge_of_ne_empty ha (isTrimmed_merge b c .append) hane hbcne, hab, hbc]
  simp only [String.append_assoc]

/-- **Merging concatenates lists of class names.** The words of one string follow those of the
    other, as the mode asks, and the outcome never starts or ends with a blank. On strings without
    blanks at their ends appending is associative and has the empty string as its identity on both
    sides; prepending is appending the other way round. -/
theorem merge_concatenates :
    (∀ a b, words (merge a b .append) = words a ++ words b ∧
      words (merge a b .prepend) = words b ++ words a) ∧
    (∀ a b mode, IsTrimmed (merge a b mode)) ∧
    (∀ a b c, IsTrimmed a → IsTrimmed b → IsTrimmed c →
      merge (merge a b .append) c .append = merge a (merge b c .append) .append) ∧
    (∀ a, IsTrimmed a → merge a "" .append = a ∧ merge "" a .append = a) ∧
    ∀ a b, merge a b .prepend = merge b a .append := by
  refine ⟨?_, isTrimmed_merge, ?_, ?_, merge_prepend⟩
  · intro a b
    exact ⟨words_merge a b .append, words_merge a b .prepend⟩
  · intro a b c ha hb hc
    exact merge_assoc ha hb hc
  · intro a ha
    exact ⟨merge_empty_right ha, merge_empty_left ha⟩

/-- Strings with blanks inside, one of them no ASCII character, and an empty one. -/
theorem merge_concatenates_inner_blanks :
    let a := "btn  big"
    let b := "x\u2003y"
    IsTrimmed a ∧ IsTrimmed b ∧
      merge (merge a "" .append) b .append = merge a (merge "" b .append) .append ∧
      merge b "" .append = b ∧ merge "" b .append = b := by
  intro a b
  have ha : IsTrimmed a := by decide
  have hb : IsTrimmed b := by decide
  have hempty : IsTrimmed "" := by decide
  obtain ⟨-, -, hassoc, hidentity, -⟩ := merge_concatenates
  exact ⟨ha, hb, hassoc a "" b ha hempty hb, hidentity b hb⟩

-- a blank at an end comes to stand inside in one order and is dropped in the other
example : merge (merge "a " "" .append) "b" .append = "a b" ∧
    merge "a " (merge "" "b" .append) .append = "a  b" := by
  decide

end ClassName

end JsxEdit
