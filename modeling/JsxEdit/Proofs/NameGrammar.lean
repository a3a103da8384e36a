import JsxEdit.Proofs.CaseFolding
import JsxEdit.Proofs.PatternLanguage
import JsxEdit.Proofs.ValidNames

/-!
  **The names that attributes may be given, character by character.**

  Names are checked by a pattern with three parts that overlap: a letter is a word character too,
  so that most names can be divided between the parts in many ways. `Attribute.IsName` describes
  the same names by their characters alone. That the search for the pattern decides it takes what
  the pattern matches (`Pattern.occursIn_iff`) and what its sets hold once they are closed under
  case (`CharSet.mem_folded_letters`, `CharSet.mem_folded_union_word`).

  The check stands in front of everything that makes an attribute, and nothing else is in its way:
  a value that cannot be written is no reason to decline a name.
-/

namespace JsxEdit

/-! ### Repeated characters -/

namespace Pattern

variable {set : CharSet} {before after : Option Char} {s : List Char}

theorem rounds_chars_iff {n : Nat} :
    (chars set).Matches.rounds n before s after ↔ s.length = n ∧ ∀ c ∈ s, set.mem c = true := by
  induction n generalizing before s with
  | zero =>
    rw [Stretches.rounds, List.length_eq_zero_iff]
    constructor
    · rintro rfl
      exact ⟨rfl, List.forall_mem_nil _⟩
    · exact And.left
  | succ n ih =>
    constructor
    · rintro ⟨t, u, rfl, ⟨c, hc, rfl⟩, hrounds⟩
      obtain ⟨hlength, hall⟩ := ih.mp hrounds
      exact ⟨congrArg Nat.succ hlength, List.forall_mem_cons.mpr ⟨hc, hall⟩⟩
    · rintro ⟨hlength, hall⟩
      cases s with
      | nil => cases hlength
      | cons c s =>
        obtain ⟨hc, hall⟩ := List.forall_mem_cons.mp hall
        exact ⟨[c], s, rfl, ⟨c, hc, rfl⟩, ih.mpr ⟨Nat.succ.inj hlength, hall⟩⟩

theorem matches_times_chars_iff {least : Nat} :
    (times (chars set) least none).Matches before s after ↔
      least ≤ s.length ∧ ∀ c ∈ s, set.mem c = true := by
  constructor
  · rintro ⟨n, hn, hrounds⟩
    obtain ⟨rfl, hall⟩ := rounds_chars_iff.mp hrounds
    exact ⟨isAllowed_none.mp hn, hall⟩
  · rintro ⟨hleast, hall⟩
    exact ⟨s.length, isAllowed_none.mpr hleast, rounds_chars_iff.mpr ⟨rfl, hall⟩⟩

end Pattern

/-! ### Names by their characters -/

namespace Attribute

open Text

/-- A name has at least two characters; it starts with a letter from `a` to `z` up to case, goes
    on with word characters and minus signs, and does not end in a minus sign. -/
structure IsName (name : String) : Prop where
  two_le_length : 2 ≤ name.length
  first : ∀ c ∈ name.toList.head?, IsLetter c
  later : ∀ c ∈ name.toList.tail, isWord c = true ∨ c = '-'
  last : name.toList.getLast? ≠ some '-'

theorem isName_iff {name : String} :
    IsName name ↔ ∃ first middle last, name.toList = first :: (middle ++ [last]) ∧
      IsLetter first ∧ (∀ c ∈ middle, isWord c = true ∨ c = '-') ∧ isWord last = true := by
  constructor
  · rintro ⟨hlength, hfirst, hlater, hlast⟩
    rw [← String.length_toList] at hlength
    match hname : name.toList with
    | [] | [_] =>
      rw [hname] at hlength
      simp at hlength
    | first :: second :: rest =>
      obtain ⟨middle, last, hrest⟩ :=
        (List.eq_nil_or_concat' (second :: rest)).resolve_left (List.cons_ne_nil _ _)
      rw [hname, hrest] at hfirst hlater hlast
      have hend : last ≠ '-' := by
        rintro rfl
        rw [← List.cons_append, List.getLast?_concat] at hlast
        exact hlast rfl
      refine ⟨first, middle, last, by rw [hrest], hfirst first rfl, ?_, ?_⟩
      · intro c hc
        exact hlater c (List.mem_append_left _ hc)
      · exact (hlater last (by simp)).resolve_right hend
  · rintro ⟨first, middle, last, hname, hfirst, hmiddle, hlast⟩
    refine ⟨?_, ?_, ?_, ?_⟩
    · rw [← String.length_toList, hname]
      simp
    · rw [hname]
      intro c hc
      obtain rfl := Option.mem_some_iff.mp hc
      exact hfirst
    · rw [hname]
      intro c hc
      rcases List.mem_append.mp hc with hc | hc
      · exact hmiddle c hc
      · obtain rfl := List.mem_singleton.mp hc
        exact .inl hlast
    · rw [hname, ← List.cons_append, List.getLast?_concat]
      intro hminus
      rw [Option.some.inj hminus] at hlast
      revert hlast
      decide

/-! ### Names by the pattern -/

theorem mem_inner_iff {c : Char} :
    (CharSet.folded (.union .word (.single '-'))).mem c = true ↔ isWord c = true ∨ c = '-' := by
  have hminus : (CharSet.single '-').mem c = true ↔ c = '-' := by
    rw [CharSet.single, CharSet.mem_range_iff, ← Char.toNat_inj]
    omega
  rw [CharSet.mem_folded_union_word, CharSet.mem, Bool.or_eq_true, hminus]
  rfl

theorem matches_namePattern_iff {before after : Option Char} {s : List Char} :
    namePattern.Matches before s after ↔ before = none ∧ after = none ∧
      ∃ letters middle last, s = letters ++ (middle ++ [last]) ∧ letters ≠ [] ∧
        (∀ c ∈ letters, IsLetter c) ∧
        (∀ c ∈ middle, isWord c = true ∨ c = '-') ∧ isWord last = true := by
  constructor
  · rintro ⟨_, _, rfl, ⟨rfl, hstart⟩, letters, _, rfl, hletters, middle, _, rfl, hmiddle, _, _, rfl,
      ⟨last, hlast, rfl⟩, rfl, hend⟩
    obtain ⟨hsome, hletters⟩ := Pattern.matches_times_chars_iff.mp hletters
    obtain ⟨-, hmiddle⟩ := Pattern.matches_times_chars_iff.mp hmiddle
    refine ⟨Option.isNone_iff_eq_none.mp hstart, Option.isNone_iff_eq_none.mp hend, letters, middle,
      last, rfl, List.ne_nil_of_length_pos hsome, ?_, ?_, hlast⟩
    · intro c hc
      exact CharSet.mem_folded_letters.mp (hletters c hc)
    · intro c hc
      exact mem_inner_iff.mp (hmiddle c hc)
  · rintro ⟨rfl, rfl, letters, middle, last, rfl, hsome, hletters, hmiddle, hlast⟩
    refine ⟨[], _, rfl, ⟨rfl, rfl⟩, letters, _, rfl, Pattern.matches_times_chars_iff.mpr ⟨?_, ?_⟩,
      middle, _, rfl, Pattern.matches_times_chars_iff.mpr ⟨Nat.zero_le _, ?_⟩, [last], [], rfl,
      ⟨last, hlast, rfl⟩, rfl, rfl⟩
    · exact List.length_pos_iff.mpr hsome
    · intro c hc
      exact CharSet.mem_folded_letters.mpr (hletters c hc)
    · intro c hc
      exact mem_inner_iff.mpr (hmiddle c hc)

/-- The anchors leave one place for a match: the whole text. -/
theorem occursIn_namePattern_iff {name : String} :
    namePattern.occursIn name = true ↔ namePattern.Matches none name.toList none := by
  rw [Pattern.occursIn_iff]
  constructor
  · rintro ⟨skipped, _, hname, s, rest, rfl, hmatch⟩
    obtain ⟨hstart, hend, -⟩ := matches_namePattern_iff.mp hmatch
    obtain rfl : skipped = [] := by simpa using hstart
    obtain rfl : rest = [] := by simpa using hend
    rw [List.nil_append, List.append_nil] at hname
    rw [hname]
    exact hmatch
  · intro hmatch
    exact ⟨[], _, rfl, name.toList, [], (List.append_nil _).symm, hmatch⟩

/-- The first part of the pattern may take all letters up to some place. They are word characters,
    so it is enough that it takes one. -/
theorem isValidName_iff_isName {name : String} : isValidName name = true ↔ IsName name := by
  rw [isName_iff]
  constructor
  · intro hvalid
    have hoccurs := (Bool.and_eq_true_iff.mp hvalid).2
    obtain ⟨-, -, letters, middle, last, hname, hsome, hletters, hmiddle, hlast⟩ :=
      matches_namePattern_iff.mp (occursIn_namePattern_iff.mp hoccurs)
    obtain ⟨first, more, rfl⟩ := List.exists_cons_of_ne_nil hsome
    obtain ⟨hfirst, hmore⟩ := List.forall_mem_cons.mp hletters
    refine ⟨first, more ++ middle, last, by rw [hname]; simp, hfirst, ?_, hlast⟩
    intro c hc
    rcases List.mem_append.mp hc with hc | hc
    · exact .inl ((hmore c hc).isWord)
    · exact hmiddle c hc
  · rintro ⟨first, middle, last, hname, hfirst, hmiddle, hlast⟩
    have hne : name ≠ "" := by
      rintro rfl
      cases hname
    have hmatch : namePattern.Matches none name.toList none :=
      matches_namePattern_iff.mpr ⟨rfl, rfl, [first], middle, last, hname, List.cons_ne_nil _ _,
        by simpa using hfirst, hmiddle, hlast⟩
    rw [isValidName, occursIn_namePattern_iff.mpr hmatch]
    simpa using hne

end Attribute

/-! ### Making attributes -/

open Attribute

theorem Attr.makeStrict_eq_invalid_iff {name asked : String} {value : NewValue} :
    Attr.makeStrict name value = .error (.invalidAttributeName asked) ↔
      isValidName name = false ∧ asked = name := by
  unfold Attr.makeStrict
  split
  · rename_i hmake
    have hinvalid : isValidName name = false := by
      rw [← Bool.not_eq_true]
      intro hvalid
      rw [Attr.make?_eq_some_iff.mpr ⟨hvalid, rfl⟩] at hmake
      cases hmake
    simp [hinvalid, eq_comm]
  · rename_i hmake
    simp [(Attr.make?_eq_some_iff.mp hmake).1]
  · rename_i hmake
    simp [(Attr.make?_eq_some_iff.mp hmake).1]

/-- **The check of names accepts exactly the names of the grammar.** So do both ways to make an
    attribute, whatever the value. -/
theorem Attribute.isValidName_exact (name : String) :
    (isValidName name = true ↔ IsName name) ∧
    (∀ value : NewValue, (∃ a, Attr.make? name value = some a) ↔ IsName name) ∧
    ∀ value : NewValue,
      (∀ asked, Attr.makeStrict name value ≠ .error (.invalidAttributeName asked)) ↔
        IsName name := by
  refine ⟨isValidName_iff_isName, ?_, ?_⟩
  · intro value
    rw [← isValidName_iff_isName]
    constructor
    · rintro ⟨a, ha⟩
      exact (Attr.make?_eq_some_iff.mp ha).1
    · intro hvalid
      exact ⟨_, Attr.make?_eq_some_iff.mpr ⟨hvalid, rfl⟩⟩
  · intro value
    rw [← isValidName_iff_isName]
    simp [Attr.makeStrict_eq_invalid_iff]

/-- The long s is a letter up to case. -/
example : isValidName "\u017f-1" = true ∧ isValidName "a" = false ∧ isValidName "aria-" = false := by
  decide

end JsxEdit
