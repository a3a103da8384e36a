import JsxEdit.Pattern.Basic

/-!
  **What patterns match, said without a search.**

  A pattern describes stretches of a text. Because of its anchors, whether a stretch is among them
  depends on the characters around it as well; `Pattern.Matches` is this description, constructor
  by constructor, with repetition as a number of rounds.

  The search goes through a text by residuals. Two theorems tie them to the description:
  `matches_nil_iff` says when the empty stretch is matched, and `matches_cons_iff` that a stretch
  is matched exactly if a residual for its first character matches the rest. Repetition is where
  this takes an argument: any number of empty rounds may come before the one that takes the
  character. `occursIn_iff` carries both to whole texts.
-/

namespace JsxEdit

/-! ### Stretches of text -/

/-- A set of stretches, each with the characters before and after it, which are absent at the
    ends of a text. -/
abbrev Stretches := Option Char → List Char → Option Char → Prop

namespace Stretches

variable {P Q : Stretches} {before after : Option Char} {c : Char} {s : List Char}

/-- A stretch of `P` and then one of `Q`: each is the surroundings of the other. -/
def seq (P Q : Stretches) : Stretches := fun before s after =>
  ∃ t u, s = t ++ u ∧ P before t (u.head?.or after) ∧ Q (t.getLast?.or before) u after

/-- `n` stretches of `P`, one after another. -/
def rounds (P : Stretches) : Nat → Stretches
  | 0 => fun _ s _ => s = []
  | n + 1 => P.seq (P.rounds n)

theorem seq_nil_iff : P.seq Q before [] after ↔ P before [] after ∧ Q before [] after := by
  constructor
  · rintro ⟨t, u, htu, hP, hQ⟩
    obtain ⟨rfl, rfl⟩ := List.append_eq_nil_iff.mp htu.symm
    exact ⟨hP, hQ⟩
  · rintro ⟨hP, hQ⟩
    exact ⟨[], [], rfl, hP, hQ⟩

/-- The stretches of `P` that start with the character `c`, without it. -/
def without (P : Stretches) (before : Option Char) (c : Char) : Stretches := fun _ s after =>
  P before (c :: s) after

/-- The first character is taken by the first of two stretches, or by the second if the first is
    empty. -/
theorem seq_cons_iff :
    P.seq Q before (c :: s) after ↔
      (P.without before c).seq Q (some c) s after ∨
        (P before [] (some c) ∧ Q before (c :: s) after) := by
  constructor
  · rintro ⟨t, u, htu, hP, hQ⟩
    cases t with
    | nil =>
      obtain rfl : c :: s = u := htu
      exact .inr ⟨hP, hQ⟩
    | cons d t =>
      obtain ⟨rfl, rfl⟩ := List.cons.inj htu
      refine .inl ⟨t, u, rfl, hP, ?_⟩
      cases t <;> exact hQ
  · rintro (⟨t, u, rfl, hP, hQ⟩ | ⟨hP, hQ⟩)
    · refine ⟨c :: t, u, rfl, hP, ?_⟩
      cases t <;> exact hQ
    · exact ⟨[], c :: s, rfl, hP, hQ⟩

theorem rounds_nil_iff {n : Nat} : P.rounds n before [] after ↔ n = 0 ∨ P before [] after := by
  induction n with
  | zero => exact iff_of_true rfl (.inl rfl)
  | succ n ih =>
    rw [rounds, seq_nil_iff, ih]
    constructor
    · rintro ⟨hP, -⟩
      exact .inr hP
    · rintro (hn | hP)
      · cases hn
      · exact ⟨hP, .inr hP⟩

/-- **A repetition that takes a character.** One round takes it, and `m` rounds are left. All
    rounds before that one are empty. -/
theorem rounds_cons_iff {n : Nat} :
    P.rounds n before (c :: s) after ↔
      ∃ m, (m + 1 = n ∨ m + 1 < n ∧ P before [] (some c)) ∧
        (P.without before c).seq (P.rounds m) (some c) s after := by
  induction n with
  | zero =>
    constructor
    · intro h
      cases h
    · rintro ⟨m, hm | ⟨hm, -⟩, -⟩
      · cases hm
      · cases hm
  | succ n ih =>
    rw [rounds, seq_cons_iff, ih]
    constructor
    · rintro (hfirst | ⟨hempty, m, hm, hlater⟩)
      · exact ⟨n, .inl rfl, hfirst⟩
      · refine ⟨m, .inr ⟨?_, hempty⟩, hlater⟩
        rcases hm with hm | ⟨hm, -⟩ <;> omega
    · rintro ⟨m, hm | ⟨hm, hempty⟩, hround⟩
      · obtain rfl : m = n := by omega
        exact .inl hround
      · refine .inr ⟨hempty, m, ?_, hround⟩
        rcases Nat.lt_or_eq_of_le (Nat.le_of_lt_succ hm) with hlt | heq
        · exact .inr ⟨hlt, hempty⟩
        · exact .inl heq

end Stretches

/-! ### What a pattern matches -/

namespace Pattern

/-- The number of rounds is within the bounds of a repetition. -/
def IsAllowed (least : Nat) (more : Option Nat) (n : Nat) : Prop :=
  least ≤ n ∧ ∀ k ∈ more, n ≤ least + k

@[simp] theorem isAllowed_none {least n : Nat} : IsAllowed least none n ↔ least ≤ n := by
  simp [IsAllowed]

@[simp] theorem isAllowed_some {least more n : Nat} :
    IsAllowed least (some more) n ↔ least ≤ n ∧ n ≤ least + more := by
  simp [IsAllowed]

theorem isAllowed_succ_iff {least : Nat} {more : Option Nat} {n : Nat} :
    IsAllowed (least + 1) more (n + 1) ↔ IsAllowed least more n := by
  simp only [IsAllowed, Nat.add_le_add_iff_right, Nat.add_right_comm least 1]

/-- With rounds that take nothing, those that are asked for may as well be left out. -/
theorem isAllowed_map_add_iff {least : Nat} {more : Option Nat} {n : Nat} :
    IsAllowed 0 (more.map (· + least)) n ↔ ∀ k ∈ more, n ≤ k + least := by
  simp [IsAllowed]

/-- The stretches that a pattern matches. -/
def Matches : Pattern → Stretches
  | empty => fun _ s _ => s = []
  | chars set => fun _ s _ => ∃ c, set.mem c = true ∧ s = [c]
  | anchor a => fun before s after => s = [] ∧ a.holds before after = true
  | seq p q => p.Matches.seq q.Matches
  | alt p q => fun before s after => p.Matches before s after ∨ q.Matches before s after
  | times p least more => fun before s after =>
    ∃ n, IsAllowed least more n ∧ p.Matches.rounds n before s after
  | group _ p => p.Matches

variable {p q : Pattern} {before after : Option Char} {c : Char} {s : List Char}

theorem matches_nil_iff : p.Matches before [] after ↔ p.matchesEmpty before after = true := by
  induction p with
  | empty => exact iff_of_true rfl rfl
  | chars set => simp [Matches, matchesEmpty]
  | anchor a => simp [Matches, matchesEmpty]
  | seq p q ihp ihq => rw [Matches, Stretches.seq_nil_iff, ihp, ihq, matchesEmpty, Bool.and_eq_true]
  | alt p q ihp ihq => simp only [Matches, ihp, ihq, matchesEmpty, Bool.or_eq_true]
  | times p least more ih =>
    simp only [Matches, matchesEmpty, Stretches.rounds_nil_iff, ih, Bool.or_eq_true, beq_iff_eq]
    constructor
    · rintro ⟨n, ⟨hleast, -⟩, rfl | hempty⟩
      · exact .inl (Nat.le_zero.mp hleast)
      · exact .inr hempty
    · intro h
      exact ⟨least, ⟨Nat.le_refl least, fun k _ => Nat.le_add_right least k⟩, h⟩
  | group remembered p ih => exact ih

theorem matches_followedBy :
    (p.followedBy q).Matches before s after ↔ p.Matches.seq q.Matches before s after := by
  unfold followedBy
  split
  · constructor
    · intro h
      exact ⟨[], s, rfl, rfl, h⟩
    · rintro ⟨t, u, rfl, rfl, h⟩
      exact h
  · rfl

theorem roundsLeft_eq_times {optional : Bool} {least : Nat} {more : Option Nat} {rest : Pattern}
    (h : roundsLeft p optional least more = some rest) : ∃ l k, rest = times p l k := by
  unfold roundsLeft at h
  split at h
  · exact ⟨0, none, (Option.some.inj h).symm⟩
  · cases h
  · exact ⟨0, _, (Option.some.inj h).symm⟩
  · split at h
    · exact ⟨0, _, (Option.some.inj h).symm⟩
    · exact ⟨_, _, (Option.some.inj h).symm⟩

/-- After a round that took a character `m` rounds may follow exactly if some number of rounds in
    all is allowed: that round, those after it and, where `p` matches the empty text, empty ones
    before it. -/
theorem isAllowed_roundsLeft_iff {optional : Bool} {least : Nat} {more : Option Nat} {m : Nat} :
    (∃ l k, roundsLeft p optional least more = some (times p l k) ∧ IsAllowed l k m) ↔
      ∃ n, IsAllowed least more n ∧ (m + 1 = n ∨ m + 1 < n ∧ optional = true) := by
  have hsome : ∀ a b, (∃ l k, some (times p a b) = some (times p l k) ∧ IsAllowed l k m) ↔
      IsAllowed a b m := by
    intro a b
    constructor
    · rintro ⟨l, k, hlk, hm⟩
      cases hlk
      exact hm
    · intro hm
      exact ⟨a, b, rfl, hm⟩
  cases least with
  | zero =>
    cases more with
    | none =>
      rw [roundsLeft, hsome]
      exact iff_of_true (by simp) ⟨m + 1, by simp, .inl rfl⟩
    | some k =>
      cases k with
      | zero => simp [roundsLeft]
      | succ k =>
        rw [roundsLeft, hsome, isAllowed_some]
        constructor
        · intro hm
          exact ⟨m + 1, isAllowed_some.mpr (by omega), .inl rfl⟩
        · rintro ⟨n, hn, hm⟩
          rw [isAllowed_some] at hn
          omega
  | succ least =>
    rw [roundsLeft]
    cases optional with
    | false =>
      rw [if_neg nofun, hsome]
      constructor
      · intro hm
        exact ⟨m + 1, isAllowed_succ_iff.mpr hm, .inl rfl⟩
      · rintro ⟨n, hn, rfl | ⟨-, hfalse⟩⟩
        · exact isAllowed_succ_iff.mp hn
        · cases hfalse
    | true =>
      rw [if_pos rfl, hsome, isAllowed_map_add_iff]
      constructor
      · intro hm
        -- empty rounds make up for those that are missing
        refine ⟨max (least + 1) (m + 1), ⟨Nat.le_max_left _ _, ?_⟩, ?_⟩
        · intro k hk
          have hround := hm k hk
          omega
        · rcases Nat.lt_or_ge m least with hlt | hge
          · exact .inr ⟨by omega, rfl⟩
          · exact .inl (by omega)
      · rintro ⟨n, ⟨-, hn⟩, hm⟩ k hk
        have hround := hn k hk
        omega

/-- Residuals of the first of two stretches, given that they describe it. -/
theorem without_seq_iff {Q : Stretches}
    (hp : ∀ t after, p.Matches before (c :: t) after ↔
      ∃ r ∈ p.residuals before c, r.Matches (some c) t after) :
    (p.Matches.without before c).seq Q (some c) s after ↔
      ∃ r ∈ p.residuals before c, r.Matches.seq Q (some c) s after := by
  constructor
  · rintro ⟨t, u, hs, hfirst, hQ⟩
    obtain ⟨r, hr, hmatch⟩ := (hp t _).mp hfirst
    exact ⟨r, hr, t, u, hs, hmatch, hQ⟩
  · rintro ⟨r, hr, t, u, hs, hmatch, hQ⟩
    exact ⟨t, u, hs, (hp t _).mpr ⟨r, hr, hmatch⟩, hQ⟩

theorem seq_times_iff {P : Stretches} {least : Nat} {more : Option Nat} :
    P.seq (times p least more).Matches before s after ↔
      ∃ n, IsAllowed least more n ∧ P.seq (p.Matches.rounds n) before s after := by
  constructor
  · rintro ⟨t, u, hs, hP, n, hn, hrounds⟩
    exact ⟨n, hn, t, u, hs, hP, hrounds⟩
  · rintro ⟨n, hn, t, u, hs, hP, hrounds⟩
    exact ⟨t, u, hs, hP, n, hn, hrounds⟩

theorem mem_residuals_times_iff {least : Nat} {more : Option Nat} {r : Pattern} :
    r ∈ (times p least more).residuals before c ↔
      ∃ l k, roundsLeft p (p.matchesEmpty before (some c)) least more = some (times p l k) ∧
        ∃ r' ∈ p.residuals before c, r'.followedBy (times p l k) = r := by
  rw [residuals]
  split
  · rename_i rest hrest
    obtain ⟨l, k, rfl⟩ := roundsLeft_eq_times hrest
    rw [List.mem_map]
    constructor
    · intro h
      exact ⟨l, k, hrest, h⟩
    · rintro ⟨l', k', hrest', h⟩
      rw [hrest] at hrest'
      cases hrest'
      exact h
  · rename_i hnone
    simp [hnone]

/-- **A character is taken.** A pattern matches a stretch exactly if a residual for the first
    character matches the rest. -/
theorem matches_cons_iff :
    p.Matches before (c :: s) after ↔
      ∃ r ∈ p.residuals before c, r.Matches (some c) s after := by
  induction p generalizing s after with
  | empty => simp [Matches, residuals]
  | chars set =>
    constructor
    · rintro ⟨d, hd, hs⟩
      obtain ⟨rfl, rfl⟩ := List.cons.inj hs
      exact ⟨empty, by simp [residuals, hd], rfl⟩
    · rintro ⟨r, hr, hmatch⟩
      simp only [residuals] at hr
      split at hr
      · rename_i hc
        obtain rfl := List.mem_singleton.mp hr
        obtain rfl : s = [] := hmatch
        exact ⟨c, hc, rfl⟩
      · cases hr
  | anchor a => simp [Matches, residuals]
  | seq p q ihp ihq =>
    rw [Matches, Stretches.seq_cons_iff, without_seq_iff fun t after => ihp, matches_nil_iff, ihq,
      residuals]
    constructor
    · rintro (⟨r, hr, hmatch⟩ | ⟨hempty, r, hr, hmatch⟩)
      · exact ⟨_, List.mem_append_left _ (List.mem_map_of_mem hr), matches_followedBy.mpr hmatch⟩
      · rw [if_pos hempty]
        exact ⟨r, List.mem_append_right _ hr, hmatch⟩
    · rintro ⟨r, hr, hmatch⟩
      rcases List.mem_append.mp hr with hr | hr
      · obtain ⟨r', hr', rfl⟩ := List.mem_map.mp hr
        exact .inl ⟨r', hr', matches_followedBy.mp hmatch⟩
      · split at hr
        · rename_i hempty
          exact .inr ⟨hempty, r, hr, hmatch⟩
        · cases hr
  | alt p q ihp ihq =>
    simp only [Matches, ihp, ihq, residuals, List.mem_append, or_and_right, exists_or]
  | times p least more ih =>
    constructor
    · rintro ⟨n, hn, hrounds⟩
      obtain ⟨m, hm, hround⟩ := Stretches.rounds_cons_iff.mp hrounds
      rw [matches_nil_iff] at hm
      obtain ⟨l, k, hrest, hallowed⟩ := isAllowed_roundsLeft_iff.mpr ⟨n, hn, hm⟩
      obtain ⟨r, hr, hmatch⟩ :=
        (without_seq_iff fun t after => ih).mp (seq_times_iff.mpr ⟨m, hallowed, hround⟩)
      exact ⟨_, mem_residuals_times_iff.mpr ⟨l, k, hrest, r, hr, rfl⟩,
        matches_followedBy.mpr hmatch⟩
    · rintro ⟨r, hr, hmatch⟩
      obtain ⟨l, k, hrest, r', hr', rfl⟩ := mem_residuals_times_iff.mp hr
      obtain ⟨m, hallowed, hround⟩ := seq_times_iff.mp
        ((without_seq_iff fun t after => ih).mpr ⟨r', hr', matches_followedBy.mp hmatch⟩)
      obtain ⟨n, hn, hm⟩ := isAllowed_roundsLeft_iff.mp ⟨l, k, hrest, hallowed⟩
      rw [← matches_nil_iff] at hm
      exact ⟨n, hn, Stretches.rounds_cons_iff.mpr ⟨m, hm, hround⟩⟩
  | group remembered p ih => exact ih

/-! ### Search -/

/-- The pattern matches some stretch at the start of a text. -/
def Begins (p : Pattern) (before : Option Char) (cs : List Char) : Prop :=
  ∃ s rest, cs = s ++ rest ∧ p.Matches before s rest.head?

/-- The pattern matches some stretch of a text, the character before which is given. -/
def Occurs (p : Pattern) (before : Option Char) (cs : List Char) : Prop :=
  ∃ skipped rest, cs = skipped ++ rest ∧ p.Begins (skipped.getLast?.or before) rest

variable {cs : List Char}

theorem begins_nil_iff : p.Begins before [] ↔ p.matchesEmpty before none = true := by
  rw [← matches_nil_iff]
  constructor
  · rintro ⟨s, rest, hs, hmatch⟩
    obtain ⟨rfl, rfl⟩ := List.append_eq_nil_iff.mp hs.symm
    exact hmatch
  · intro hmatch
    exact ⟨[], [], rfl, hmatch⟩

theorem begins_cons_iff :
    p.Begins before (c :: cs) ↔
      p.matchesEmpty before (some c) = true ∨ ∃ r ∈ p.residuals before c, r.Begins (some c) cs := by
  rw [← matches_nil_iff]
  constructor
  · rintro ⟨s, rest, hs, hmatch⟩
    cases s with
    | nil =>
      obtain rfl : c :: cs = rest := hs
      exact .inl hmatch
    | cons d s =>
      obtain ⟨rfl, rfl⟩ := List.cons.inj hs
      obtain ⟨r, hr, hrest⟩ := matches_cons_iff.mp hmatch
      exact .inr ⟨r, hr, s, rest, rfl, hrest⟩
  · rintro (hmatch | ⟨r, hr, s, rest, rfl, hmatch⟩)
    · exact ⟨[], c :: cs, rfl, hmatch⟩
    · exact ⟨c :: s, rest, rfl, matches_cons_iff.mpr ⟨r, hr, hmatch⟩⟩

theorem occurs_nil_iff : p.Occurs before [] ↔ p.Begins before [] := by
  constructor
  · rintro ⟨skipped, rest, hs, hbegins⟩
    obtain ⟨rfl, rfl⟩ := List.append_eq_nil_iff.mp hs.symm
    exact hbegins
  · intro hbegins
    exact ⟨[], [], rfl, hbegins⟩

theorem occurs_cons_iff :
    p.Occurs before (c :: cs) ↔ p.Begins before (c :: cs) ∨ p.Occurs (some c) cs := by
  constructor
  · rintro ⟨skipped, rest, hs, hbegins⟩
    cases skipped with
    | nil =>
      obtain rfl : c :: cs = rest := hs
      exact .inl hbegins
    | cons d skipped =>
      obtain ⟨rfl, rfl⟩ := List.cons.inj hs
      refine .inr ⟨skipped, rest, rfl, ?_⟩
      cases skipped <;> exact hbegins
  · rintro (hbegins | ⟨skipped, rest, rfl, hbegins⟩)
    · exact ⟨[], c :: cs, rfl, hbegins⟩
    · refine ⟨c :: skipped, rest, rfl, ?_⟩
      cases skipped <;> exact hbegins

/-- One step of the search: some pattern is matched at once, or goes on with a residual. Residuals
    that come up again are dropped, and none is lost by it. -/
theorem exists_begins_cons_iff {patterns : List Pattern} :
    (∃ q ∈ patterns, q.Begins before (c :: cs)) ↔
      patterns.any (matchesEmpty before (some c)) = true ∨
        ∃ r ∈ (patterns.flatMap (residuals before c)).eraseDups, r.Begins (some c) cs := by
  simp only [begins_cons_iff, List.any_eq_true, List.mem_eraseDups, List.mem_flatMap]
  constructor
  · rintro ⟨q, hq, hempty | ⟨r, hr, hbegins⟩⟩
    · exact .inl ⟨q, hq, hempty⟩
    · exact .inr ⟨r, ⟨q, hq, hr⟩, hbegins⟩
  · rintro (⟨q, hq, hempty⟩ | ⟨r, ⟨q, hq, hr⟩, hbegins⟩)
    · exact ⟨q, hq, .inl hempty⟩
    · exact ⟨q, hq, .inr ⟨r, hr, hbegins⟩⟩

/-- **The search is exact.** It finds the pattern anywhere in what is left of the text, and the
    rest of a match that has begun at the start of it. -/
theorem search_iff {pending : List Pattern} :
    p.search before pending cs = true ↔
      p.Occurs before cs ∨ ∃ r ∈ pending, r.Begins before cs := by
  induction cs generalizing before pending with
  | nil => simp [search, occurs_nil_iff, begins_nil_iff]
  | cons c cs ih =>
    have hall : (∃ q ∈ p :: pending, q.Begins before (c :: cs)) ↔
        p.Begins before (c :: cs) ∨ ∃ r ∈ pending, r.Begins before (c :: cs) := by
      simp only [List.mem_cons, exists_eq_or_imp]
    rw [search, Bool.or_eq_true, ih, or_left_comm, ← exists_begins_cons_iff, hall, occurs_cons_iff,
      or_left_comm, or_assoc]

/-- The outcome of a search in a whole text. -/
theorem occursIn_iff {text : String} : p.occursIn text = true ↔ p.Occurs none text.toList := by
  rw [occursIn, search_iff]
  simp

end Pattern

end JsxEdit
