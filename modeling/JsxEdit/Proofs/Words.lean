import Mathlib.Data.List.DropRight
import JsxEdit.Text.Blank

/-!
  **The words of a text.**

  A class string is a list of names with blanks around them. `Text.words` reads it as
  such: the longest stretches without blanks, in order. How many blanks stand between
  two names, and whether any stand at the ends, makes no difference to the words, so
  joining two texts by a blank joins their words, and trimming keeps them.
-/

namespace JsxEdit.Text

/-- The longest stretches of characters that are no blanks, in order. -/
def wordChars (cs : List Char) : List (List Char) :=
  (cs.splitOnP isBlank).filter (!·.isEmpty)

/-- The words of a text, without the blanks around them. -/
def words (s : String) : List String := (wordChars s.toList).map String.ofList

/-! ### Lists of characters -/

theorem wordChars_nil : wordChars [] = [] := rfl

theorem wordChars_append_blank (cs ds : List Char) {c : Char} (hc : isBlank c = true) :
    wordChars (cs ++ c :: ds) = wordChars cs ++ wordChars ds := by
  rw [wordChars, List.splitOnP_append_cons cs ds hc, List.filter_append]
  rfl

theorem wordChars_dropWhile (cs : List Char) : wordChars (cs.dropWhile isBlank) = wordChars cs := by
  induction cs with
  | nil => rfl
  | cons c cs ih =>
    by_cases hc : isBlank c = true
    · rw [List.dropWhile_cons_of_pos hc, ih]
      exact (wordChars_append_blank [] cs hc).symm
    · rw [List.dropWhile_cons_of_neg hc]

theorem wordChars_rdropWhile (cs : List Char) :
    wordChars (cs.rdropWhile isBlank) = wordChars cs := by
  induction cs using List.reverseRecOn with
  | nil => rfl
  | append_singleton cs c ih =>
    by_cases hc : isBlank c = true
    · rw [List.rdropWhile_concat_pos _ _ _ hc, ih, wordChars_append_blank cs [] hc, wordChars_nil,
        List.append_nil]
    · rw [List.rdropWhile_concat_neg _ _ _ hc]

theorem wordChars_trimChars (cs : List Char) : wordChars (trimChars cs) = wordChars cs := by
  have hends : trimChars cs = (cs.dropWhile isBlank).rdropWhile isBlank := rfl
  rw [hends, wordChars_rdropWhile, wordChars_dropWhile]

/-- A word is never empty, so a text without words is blank throughout. -/
theorem wordChars_eq_nil_iff (cs : List Char) : wordChars cs = [] ↔ cs.all isBlank = true := by
  induction cs with
  | nil => exact ⟨fun _ => rfl, fun _ => rfl⟩
  | cons c cs ih =>
    rw [List.all_cons, Bool.and_eq_true]
    by_cases hc : isBlank c = true
    · have hskip : wordChars (c :: cs) = wordChars cs := wordChars_append_blank [] cs hc
      rw [hskip, ih]
      exact ⟨fun h => ⟨hc, h⟩, fun h => h.2⟩
    · refine ⟨fun h => ?_, fun h => absurd h.1 hc⟩
      -- the first stretch starts with `c`
      obtain ⟨w, ws, hsplit⟩ := List.exists_cons_of_ne_nil (List.splitOnP_ne_nil isBlank cs)
      rw [wordChars, List.splitOnP_cons_eq_if_modifyHead, if_neg hc, hsplit] at h
      simp at h

/-! ### Texts -/

theorem words_empty : words "" = [] := rfl

theorem isBlank_space : isBlank ' ' = true := rfl

/-- **A space separates words.** -/
theorem words_append_space (s t : String) : words (s ++ " " ++ t) = words s ++ words t := by
  have hchars : (s ++ " " ++ t).toList = s.toList ++ ' ' :: t.toList := by
    simp only [String.toList_append, List.append_assoc]
    rfl
  rw [words, hchars, wordChars_append_blank _ _ isBlank_space, List.map_append]
  rfl

/-- Texts joined by a space have the words of all of them. -/
theorem words_intercalate_space (texts : List String) :
    words (" ".intercalate texts) = texts.flatMap words := by
  induction texts with
  | nil => rw [String.intercalate_nil, words_empty, List.flatMap_nil]
  | cons t texts ih =>
    cases texts with
    | nil => rw [String.intercalate_singleton, List.flatMap_singleton]
    | cons u texts =>
      rw [String.intercalate_cons_cons, words_append_space, ih]
      rfl

theorem words_trim (s : String) : words (trim s) = words s := by
  rw [words, trim, String.toList_ofList, wordChars_trimChars, words]

/-- A text is not blank exactly if it has words. -/
theorem isAllBlank_eq_false_iff (s : String) : isAllBlank s = false ↔ words s ≠ [] := by
  rw [Ne, words, List.map_eq_nil_iff, wordChars_eq_nil_iff, isAllBlank, Bool.not_eq_true]

theorem ne_empty_of_isAllBlank_eq_false {s : String} (h : isAllBlank s = false) : s ≠ "" := by
  rintro rfl
  cases h

end JsxEdit.Text
