import JsxEdit.Proofs.AttrNames

/-!
  **Adding attributes with overriding, as one change.**

  Attributes are added one at a time, and each addition looks at the list that the ones
  before it have left. `Attribute.overridden` says what comes of it in terms of the list at the
  start: the first attribute of a name gives way to the last addition of the name, and names
  that are new come to the end, each once, in the order in which they first turn up.

  The induction is on the additions from the front. One addition changes the list that is
  there at the start, and the rest meet a list that differs from it in one place
  (`Attribute.overridden_put`).
-/

namespace JsxEdit

namespace Attribute

/-! ### The last addition of a name -/

theorem plainNames_cons_of_name? {entry : AttrEntry} {name : String}
    (h : entry.name? = some name) (rest : List AttrEntry) :
    plainNames (entry :: rest) = name :: plainNames rest := by
  rw [plainNames_cons, h, Option.toList_some, List.singleton_append]

/-- The last entry with the given plain name. -/
def lastNamed? (name : String) (entries : List AttrEntry) : Option AttrEntry :=
  entries.reverse.find? (·.hasName name)

@[simp] theorem lastNamed?_nil (name : String) : lastNamed? name [] = none := rfl

theorem lastNamed?_cons (name : String) (entry : AttrEntry) (rest : List AttrEntry) :
    lastNamed? name (entry :: rest) =
      (lastNamed? name rest).or (if entry.hasName name then some entry else none) := by
  rw [lastNamed?, List.reverse_cons, List.find?_append, ← lastNamed?]
  cases h : entry.hasName name <;> simp [h]

theorem hasName_of_lastNamed? {name : String} {entries : List AttrEntry} {entry : AttrEntry}
    (h : lastNamed? name entries = some entry) : entry.hasName name = true := by
  rw [lastNamed?] at h
  exact List.find?_some h

theorem mem_of_lastNamed? {name : String} {entries : List AttrEntry} {entry : AttrEntry}
    (h : lastNamed? name entries = some entry) : entry ∈ entries :=
  List.mem_reverse.mp (List.mem_of_find?_eq_some h)

theorem lastNamed?_cons_of_not_hasName {name : String} {entry : AttrEntry}
    (h : ¬ entry.hasName name = true) (rest : List AttrEntry) :
    lastNamed? name (entry :: rest) = lastNamed? name rest := by
  rw [lastNamed?_cons, if_neg h, Option.or_none]

/-- A later entry of the name takes precedence. -/
theorem lastNamed?_cons_of_mem {name : String} {rest : List AttrEntry}
    (h : name ∈ plainNames rest) (entry : AttrEntry) :
    lastNamed? name (entry :: rest) = lastNamed? name rest := by
  obtain ⟨later, hlater, hname⟩ := mem_plainNames.mp h
  have hsome : (lastNamed? name rest).isSome = true := by
    rw [lastNamed?, List.find?_isSome]
    exact ⟨later, List.mem_reverse.mpr hlater, hname⟩
  obtain ⟨last, hlast⟩ := Option.isSome_iff_exists.mp hsome
  rw [lastNamed?_cons, hlast, Option.some_or]

theorem lastNamed?_of_cut {name : String} {entry : AttrEntry} (before : List AttrEntry)
    {after : List AttrEntry} (hentry : entry.hasName name = true)
    (hafter : name ∉ plainNames after) :
    lastNamed? name (before ++ entry :: after) = some entry := by
  induction before with
  | nil =>
    have hnone : lastNamed? name after = none := by
      rw [lastNamed?, List.find?_eq_none]
      intro later hlater hname
      exact hafter (mem_plainNames.mpr ⟨later, List.mem_reverse.mp hlater, hname⟩)
    rw [List.nil_append, lastNamed?_cons, hnone, if_pos hentry, Option.none_or]
  | cons first before ih =>
    have hmem : name ∈ plainNames (before ++ entry :: after) :=
      mem_plainNames.mpr ⟨entry, List.mem_append_right _ List.mem_cons_self, hentry⟩
    rw [List.cons_append, lastNamed?_cons_of_mem hmem, ih]

/-! ### The list after all additions -/

/-- The entries, with the first one of each name replaced by what `new?` has for the name.
    `seen` are the names that have had their first entry. -/
def overrideFirsts (new? : String → Option AttrEntry) (seen : List String) :
    List AttrEntry → List AttrEntry
  | [] => []
  | entry :: rest =>
    match entry.name? with
    | none => entry :: overrideFirsts new? seen rest
    | some name =>
      (if name ∈ seen then entry else (new? name).getD entry) ::
        overrideFirsts new? (name :: seen) rest

/-- The names among the additions that the entries do not have, each once, in the order in
    which they first turn up. -/
def newNames (added entries : List AttrEntry) : List String :=
  ((plainNames added).filter (· ∉ plainNames entries)).eraseDups

/-- The entries after all additions: the last addition of each name stands in the place of the
    first entry of the name, or at the end. -/
def overridden (added entries : List AttrEntry) : List AttrEntry :=
  overrideFirsts (lastNamed? · added) [] entries ++
    (newNames added entries).filterMap (lastNamed? · added)

variable {new? other? : String → Option AttrEntry} {seen : List String}
  {entries : List AttrEntry}

theorem overrideFirsts_cons_unnamed {entry : AttrEntry} (h : entry.name? = none)
    (rest : List AttrEntry) :
    overrideFirsts new? seen (entry :: rest) = entry :: overrideFirsts new? seen rest := by
  rw [overrideFirsts, h]

theorem overrideFirsts_cons_named {entry : AttrEntry} {name : String}
    (h : entry.name? = some name) (rest : List AttrEntry) :
    overrideFirsts new? seen (entry :: rest) =
      (if name ∈ seen then entry else (new? name).getD entry) ::
        overrideFirsts new? (name :: seen) rest := by
  rw [overrideFirsts, h]

/-- Only the names of the entries matter, and of these only those that are still to come. -/
theorem overrideFirsts_congr
    (h : ∀ name ∈ plainNames entries, name ∉ seen → new? name = other? name) :
    overrideFirsts new? seen entries = overrideFirsts other? seen entries := by
  induction entries generalizing seen with
  | nil => rfl
  | cons entry rest ih =>
    cases hname : entry.name? with
    | none =>
      rw [overrideFirsts_cons_unnamed hname, overrideFirsts_cons_unnamed hname, ih]
      intro name hmem hseen
      exact h name (by rw [plainNames_cons, hname]; exact hmem) hseen
    | some n =>
      rw [plainNames_cons_of_name? hname] at h
      have hrest : overrideFirsts new? (n :: seen) rest =
          overrideFirsts other? (n :: seen) rest := by
        apply ih
        intro name hmem hseen
        exact h name (List.mem_cons_of_mem n hmem) (fun hin => hseen (List.mem_cons_of_mem n hin))
      rw [overrideFirsts_cons_named hname, overrideFirsts_cons_named hname, hrest]
      split
      · rfl
      · rename_i hseen
        rw [h n List.mem_cons_self hseen]

theorem overrideFirsts_none (seen : List String) (entries : List AttrEntry) :
    overrideFirsts (fun _ => none) seen entries = entries := by
  induction entries generalizing seen with
  | nil => rfl
  | cons entry rest ih =>
    cases hname : entry.name? with
    | none => rw [overrideFirsts_cons_unnamed hname, ih]
    | some n => rw [overrideFirsts_cons_named hname, ih, Option.getD_none, ite_self]

/-- An entry of a new name that comes last. -/
theorem overrideFirsts_concat {entry : AttrEntry} {name : String} (hname : entry.name? = some name)
    (hseen : name ∉ seen) (hnew : name ∉ plainNames entries) :
    overrideFirsts new? seen (entries ++ [entry]) =
      overrideFirsts new? seen entries ++ [(new? name).getD entry] := by
  induction entries generalizing seen with
  | nil => rw [List.nil_append, overrideFirsts_cons_named hname, if_neg hseen]; rfl
  | cons first rest ih =>
    rw [not_mem_plainNames_cons, AttrEntry.hasName_iff] at hnew
    obtain ⟨hfirst, hrest⟩ := hnew
    rw [List.cons_append]
    cases hn : first.name? with
    | none =>
      rw [overrideFirsts_cons_unnamed hn, overrideFirsts_cons_unnamed hn, ih hseen hrest,
        List.cons_append]
    | some n =>
      have hne : name ≠ n := by
        rintro rfl
        exact hfirst hn
      have hseen' : name ∉ n :: seen := List.not_mem_cons_of_ne_of_not_mem hne hseen
      rw [overrideFirsts_cons_named hn, overrideFirsts_cons_named hn, ih hseen' hrest,
        List.cons_append]

/-- Replacing the first entry of a name beforehand only shows where nothing else replaces it
    later. -/
theorem overrideFirsts_updateFirst {entry : AttrEntry} {name : String}
    (hname : entry.name? = some name) (hseen : name ∉ seen) :
    overrideFirsts new? seen (updateFirst name (fun _ => entry) entries) =
      overrideFirsts (fun n => (new? n).or (if entry.hasName n then some entry else none)) seen
        entries := by
  have hother {n : String} (hne : name ≠ n) : ¬ entry.hasName n = true := by
    rw [AttrEntry.hasName_iff, hname, Option.some.injEq]
    exact hne
  induction entries generalizing seen with
  | nil => rfl
  | cons first rest ih =>
    by_cases hfirst : first.hasName name = true
    · -- from here on the name has been seen, so the entries that follow are the same
      have hrest : overrideFirsts new? (name :: seen) rest =
          overrideFirsts (fun n => (new? n).or (if entry.hasName n then some entry else none))
            (name :: seen) rest := by
        apply overrideFirsts_congr
        intro n _ hn
        have hne : name ≠ n := by
          rintro rfl
          exact hn List.mem_cons_self
        rw [if_neg (hother hne), Option.or_none]
      rw [updateFirst, if_pos hfirst, overrideFirsts_cons_named hname,
        overrideFirsts_cons_named (AttrEntry.hasName_iff.mp hfirst), if_neg hseen, if_neg hseen,
        hrest, if_pos (AttrEntry.hasName_iff.mpr hname)]
      cases new? name <;> rfl
    · rw [updateFirst, if_neg hfirst]
      cases hn : first.name? with
      | none => rw [overrideFirsts_cons_unnamed hn, overrideFirsts_cons_unnamed hn, ih hseen]
      | some n =>
        have hne : name ≠ n := by
          rintro rfl
          exact hfirst (AttrEntry.hasName_iff.mpr hn)
        rw [overrideFirsts_cons_named hn, overrideFirsts_cons_named hn,
          ih (List.not_mem_cons_of_ne_of_not_mem hne hseen), if_neg (hother hne), Option.or_none]

/-! ### One addition at a time -/

theorem put_unnamed {entry : AttrEntry} (h : entry.name? = none) (override : Bool)
    (entries : List AttrEntry) : put override entries entry = entries := by
  rw [put, h]

theorem put_of_mem {entry : AttrEntry} {name : String} (hname : entry.name? = some name)
    (h : name ∈ plainNames entries) :
    put true entries entry = updateFirst name (fun _ => entry) entries := by
  simp only [put, hname, if_pos (any_hasName_iff.mpr h), if_true]

theorem put_of_not_mem {entry : AttrEntry} {name : String} (hname : entry.name? = some name)
    (h : name ∉ plainNames entries) (override : Bool) :
    put override entries entry = entries ++ [entry] := by
  simp only [put, hname, if_neg (mt any_hasName_iff.mp h)]

theorem mem_newNames {name : String} {added entries : List AttrEntry} :
    name ∈ newNames added entries ↔ name ∈ plainNames added ∧ name ∉ plainNames entries := by
  simp [newNames]

/-- A name that the entries have is not new. -/
theorem newNames_cons_of_mem {entry : AttrEntry} {name : String} (hname : entry.name? = some name)
    (h : name ∈ plainNames entries) (added : List AttrEntry) :
    newNames (entry :: added) entries = newNames added entries := by
  rw [newNames, newNames, plainNames_cons_of_name? hname, List.filter_cons_of_neg]
  simpa using h

/-- A name that they do not have is the first of the new ones, and it is no longer new after
    it has been added. -/
theorem newNames_cons_of_not_mem {entry : AttrEntry} {name : String}
    (hname : entry.name? = some name) (h : name ∉ plainNames entries) (added : List AttrEntry) :
    newNames (entry :: added) entries = name :: newNames added (entries ++ [entry]) := by
  rw [newNames, plainNames_cons_of_name? hname, List.filter_cons_of_pos (by simpa using h),
    List.eraseDups_cons, List.filter_filter, newNames, plainNames_append,
    plainNames_cons_of_name? hname, plainNames_nil]
  congr 2
  apply List.filter_congr
  intro n _
  by_cases hn : n = name <;> simp [hn]

theorem overridden_put (entries : List AttrEntry) (entry : AttrEntry) (added : List AttrEntry) :
    overridden added (put true entries entry) = overridden (entry :: added) entries := by
  cases hname : entry.name? with
  | none =>
    have hnot (n : String) : ¬ entry.hasName n = true := by
      rw [AttrEntry.hasName_iff, hname]
      exact nofun
    have hlast : (lastNamed? · (entry :: added)) = (lastNamed? · added) := by
      funext n
      exact lastNamed?_cons_of_not_hasName (hnot n) added
    have hnames : plainNames (entry :: added) = plainNames added := by
      rw [plainNames_cons, hname, Option.toList_none, List.nil_append]
    rw [put_unnamed hname, overridden, overridden, newNames, newNames, hlast, hnames]
  | some name =>
    -- names that are new to a longer list are among the additions that are left
    have hends (longer : List AttrEntry) :
        (newNames added longer).filterMap (lastNamed? · (entry :: added)) =
          (newNames added longer).filterMap (lastNamed? · added) := by
      apply List.filterMap_congr
      intro n hn
      exact lastNamed?_cons_of_mem (mem_newNames.mp hn).1 entry
    by_cases hmem : name ∈ plainNames entries
    · have hfirsts : overrideFirsts (lastNamed? · added) []
            (updateFirst name (fun _ => entry) entries) =
          overrideFirsts (lastNamed? · (entry :: added)) [] entries := by
        rw [overrideFirsts_updateFirst hname List.not_mem_nil]
        simp only [lastNamed?_cons]
      have hkept : newNames added (updateFirst name (fun _ => entry) entries) =
          newNames added entries := by
        rw [newNames, plainNames_updateFirst (fun _ => hname), newNames]
      rw [put_of_mem hname hmem, overridden, overridden, hfirsts, hkept,
        newNames_cons_of_mem hname hmem, hends]
    · have hfirsts : overrideFirsts (lastNamed? · added) [] entries =
          overrideFirsts (lastNamed? · (entry :: added)) [] entries := by
        apply overrideFirsts_congr
        intro n hn _
        refine (lastNamed?_cons_of_not_hasName ?_ added).symm
        rw [AttrEntry.hasName_iff, hname, Option.some.injEq]
        rintro rfl
        exact hmem hn
      have hself : lastNamed? name (entry :: added) =
          some ((lastNamed? name added).getD entry) := by
        rw [lastNamed?_cons, if_pos (AttrEntry.hasName_iff.mpr hname)]
        cases lastNamed? name added <;> rfl
      rw [put_of_not_mem hname hmem, overridden, overridden,
        overrideFirsts_concat hname List.not_mem_nil hmem, hfirsts,
        newNames_cons_of_not_mem hname hmem, List.filterMap_cons, hself, hends, List.append_assoc]
      rfl

/-- **Adding attributes one at a time, with overriding, is one change.** -/
theorem foldl_put_eq_overridden (added entries : List AttrEntry) :
    added.foldl (put true) entries = overridden added entries := by
  induction added generalizing entries with
  | nil =>
    rw [List.foldl_nil, overridden, newNames]
    simp [overrideFirsts_none]
  | cons entry added ih => rw [List.foldl_cons, ih, overridden_put]

/-! ### What is left alone -/

section Filter

variable {added : List AttrEntry} {keep : AttrEntry → Bool}
  (h : ∀ (entry : AttrEntry) (name : String), entry.hasName name = true →
    name ∈ plainNames added → keep entry = false)
include h

theorem filter_overrideFirsts (seen : List String) (entries : List AttrEntry) :
    (overrideFirsts (lastNamed? · added) seen entries).filter keep = entries.filter keep := by
  induction entries generalizing seen with
  | nil => rfl
  | cons entry rest ih =>
    cases hname : entry.name? with
    | none => rw [overrideFirsts_cons_unnamed hname, List.filter_cons, List.filter_cons, ih]
    | some name =>
      rw [overrideFirsts_cons_named hname]
      cases hlast : lastNamed? name added with
      | none => rw [Option.getD_none, ite_self, List.filter_cons, List.filter_cons, ih]
      | some new =>
        -- the old entry and the new one have the same name, and neither is kept
        have hnew := hasName_of_lastNamed? hlast
        have hmem : name ∈ plainNames added :=
          mem_plainNames.mpr ⟨new, mem_of_lastNamed? hlast, hnew⟩
        have hdrop : keep entry = false := h entry name (AttrEntry.hasName_iff.mpr hname) hmem
        have hdropNew : keep new = false := h new name hnew hmem
        have hhead : keep (if name ∈ seen then entry else (some new).getD entry) = false := by
          split
          · exact hdrop
          · exact hdropNew
        rw [List.filter_cons, List.filter_cons, ih, hhead, hdrop]
        rfl

/-- Entries that no addition has the name of stay, in their order. -/
theorem filter_overridden (entries : List AttrEntry) :
    (overridden added entries).filter keep = entries.filter keep := by
  have hends : ((newNames added entries).filterMap (lastNamed? · added)).filter keep = [] := by
    rw [List.filter_eq_nil_iff]
    intro entry hentry
    obtain ⟨name, hname, hlast⟩ := List.mem_filterMap.mp hentry
    rw [h entry name (hasName_of_lastNamed? hlast) (mem_newNames.mp hname).1]
    exact nofun
  rw [overridden, List.filter_append, filter_overrideFirsts h, hends, List.append_nil]

end Filter

/-! ### What is found afterwards -/

theorem find?_append (name : String) (before after : List AttrEntry) :
    find? name (before ++ after) = (find? name before).or (find? name after) := by
  induction before with
  | nil => rfl
  | cons entry before ih =>
    rw [List.cons_append]
    by_cases h : entry.hasName name = true
    · obtain ⟨value, rfl⟩ := AttrEntry.name?_eq_some_iff.mp (AttrEntry.hasName_iff.mp h)
      rw [find?_cons_attr_of_eq _ rfl, find?_cons_attr_of_eq _ rfl, Option.some_or]
    · rw [find?_cons_of_not_hasName _ h, find?_cons_of_not_hasName _ h, ih]

theorem find?_put (name : String) (entries : List AttrEntry) (entry : AttrEntry) :
    find? name (put true entries entry) =
      if entry.hasName name then entry.attr? else find? name entries := by
  split
  · rename_i hentry
    have hname := AttrEntry.hasName_iff.mp hentry
    obtain ⟨new, rfl⟩ := AttrEntry.name?_eq_some_iff.mp hname
    by_cases hmem : name ∈ plainNames entries
    · obtain ⟨before, old, after, rfl, hbefore⟩ := exists_cut hmem
      rw [put_of_mem hname hmem, updateFirst_cut hbefore, find?_cut hbefore]
      rfl
    · rw [put_of_not_mem hname hmem]
      exact find?_concat_of_none (find?_eq_none_iff.mpr hmem) rfl
  · rename_i hentry
    cases hn : entry.name? with
    | none => rw [put_unnamed hn]
    | some n =>
      by_cases hmem : n ∈ plainNames entries
      · obtain ⟨before, old, after, rfl, hbefore⟩ := exists_cut hmem
        have hold : ¬ (AttrEntry.attr ⟨.plain n, old⟩).hasName name = true := by
          rw [AttrEntry.hasName_iff] at hentry ⊢
          rwa [hn] at hentry
        rw [put_of_mem hn hmem, updateFirst_cut hbefore, find?_append, find?_append,
          find?_cons_of_not_hasName _ hentry, find?_cons_of_not_hasName _ hold]
      · rw [put_of_not_mem hn hmem, find?_append, find?_cons_of_not_hasName _ hentry]
        exact Option.or_none

/-- The last addition of a name is found under the name. -/
theorem find?_foldl_put (name : String) (added entries : List AttrEntry) :
    find? name (added.foldl (put true) entries) =
      match lastNamed? name added with
      | some last => last.attr?
      | none => find? name entries := by
  induction added generalizing entries with
  | nil => rfl
  | cons entry added ih =>
    rw [List.foldl_cons, ih, lastNamed?_cons, find?_put]
    cases lastNamed? name added with
    | some last => rfl
    | none =>
      rw [Option.none_or]
      cases entry.hasName name <;> rfl

/-- Taking out entries of other names makes no difference. -/
theorem find?_filter {name : String} {keep : AttrEntry → Bool}
    (h : ∀ entry, entry.hasName name = true → keep entry = true) (entries : List AttrEntry) :
    find? name (entries.filter keep) = find? name entries := by
  have hsame : (fun entry : AttrEntry => decide (keep entry = true ∧ entry.hasName name = true)) =
      (·.hasName name) := by
    funext entry
    cases hname : entry.hasName name with
    | true => simp [h entry hname]
    | false => simp
  rw [find?, List.find?_filter, hsame, find?]

theorem mem_of_find?_eq_some {name : String} {entries : List AttrEntry} {a : Attr}
    (h : find? name entries = some a) : .attr a ∈ entries := by
  obtain ⟨entry, hentry, ha⟩ := Option.bind_eq_some_iff.mp h
  cases entry with
  | spread inner => cases ha
  | attr b =>
    cases ha
    exact List.mem_of_find?_eq_some hentry

end Attribute

end JsxEdit
