import JsxEdit.Proofs.AttrOverride

/-!
  **Adding attributes, with and without overriding.**

  Attributes are added one after the other, and each addition looks at what the ones before it
  have left. What comes of it can be said in terms of the list at the start alone. Names that
  are new come to the end, each once, in the order in which they first turn up; with overriding
  it is the last addition of a name that counts, without it the first. The attributes that are
  there stay where they are; with overriding the first one of a name gives way to the last
  addition of the name.

  After that every name that was added is there, and with overriding its first attribute is the
  last addition. So the same additions made once more find nothing to do.
-/

namespace JsxEdit

namespace Attribute

variable {name : String} {entry : AttrEntry} {added entries : List AttrEntry}

/-! ### The first entry of a name -/

/-- The first entry with the given plain name. -/
def firstNamed? (name : String) (entries : List AttrEntry) : Option AttrEntry :=
  entries.find? (·.hasName name)

theorem firstNamed?_cons_of_hasName (h : entry.hasName name = true) (rest : List AttrEntry) :
    firstNamed? name (entry :: rest) = some entry := by
  rw [firstNamed?, List.find?_cons_of_pos h]

theorem firstNamed?_cons_of_not_hasName (h : ¬ entry.hasName name = true)
    (rest : List AttrEntry) : firstNamed? name (entry :: rest) = firstNamed? name rest := by
  rw [firstNamed?, List.find?_cons_of_neg h, firstNamed?]

theorem exists_firstNamed? (h : name ∈ plainNames entries) :
    ∃ first, firstNamed? name entries = some first ∧ first.name? = some name := by
  have hsome : (firstNamed? name entries).isSome = true := by
    rw [firstNamed?, List.find?_isSome]
    exact mem_plainNames.mp h
  obtain ⟨first, hfirst⟩ := Option.isSome_iff_exists.mp hsome
  exact ⟨first, hfirst, AttrEntry.hasName_iff.mp (List.find?_some hfirst)⟩

theorem exists_lastNamed? (h : name ∈ plainNames entries) :
    ∃ last, lastNamed? name entries = some last ∧ last.name? = some name := by
  have hreverse : name ∈ plainNames entries.reverse := by
    rw [plainNames, List.filterMap_reverse, List.mem_reverse]
    exact h
  exact exists_firstNamed? hreverse

theorem map_attr?_of_hasName (h : entry.hasName name = true) :
    entry.attr?.map .attr = some entry := by
  obtain ⟨value, rfl⟩ := AttrEntry.name?_eq_some_iff.mp (AttrEntry.hasName_iff.mp h)
  rfl

theorem firstNamed?_eq_map_find? (name : String) (entries : List AttrEntry) :
    firstNamed? name entries = (find? name entries).map .attr := by
  rw [find?, ← firstNamed?]
  cases h : firstNamed? name entries with
  | none => rfl
  | some first => rw [Option.bind_some, map_attr?_of_hasName (List.find?_some h)]

/-! ### Replacing in place -/

/-- The entries, with the first one of each name replaced by what `new?` has for the name. -/
def replaceFirsts (new? : String → Option AttrEntry) (entries : List AttrEntry) :
    List AttrEntry :=
  entries.mapIdx fun i entry =>
    match entry.name? with
    | none => entry
    | some name =>
      if name ∈ plainNames (entries.take i) then entry else (new? name).getD entry

theorem overrideFirsts_eq_mapIdx (new? : String → Option AttrEntry) (seen : List String)
    (entries : List AttrEntry) :
    overrideFirsts new? seen entries = entries.mapIdx fun i entry =>
      match entry.name? with
      | none => entry
      | some name =>
        if name ∈ seen ++ plainNames (entries.take i) then entry else (new? name).getD entry := by
  induction entries generalizing seen with
  | nil => rfl
  | cons first rest ih =>
    rw [List.mapIdx_cons]
    cases hname : first.name? with
    | none =>
      rw [overrideFirsts_cons_unnamed hname, ih]
      simp [plainNames_cons, hname]
    | some n =>
      rw [overrideFirsts_cons_named hname, ih]
      simp [plainNames_cons, hname, or_left_comm]

theorem overrideFirsts_eq_replaceFirsts (new? : String → Option AttrEntry)
    (entries : List AttrEntry) : overrideFirsts new? [] entries = replaceFirsts new? entries :=
  overrideFirsts_eq_mapIdx new? [] entries

/-- One entry for each of the names, in their order. -/
theorem map_name?_filterMap {names : List String} {new? : String → Option AttrEntry}
    (h : ∀ name ∈ names, ∃ new, new? name = some new ∧ new.name? = some name) :
    (names.filterMap new?).map AttrEntry.name? = names.map some := by
  induction names with
  | nil => rfl
  | cons name names ih =>
    obtain ⟨new, hnew, hname⟩ := h name List.mem_cons_self
    have hrest := ih fun n hn => h n (List.mem_cons_of_mem name hn)
    rw [List.filterMap_cons, hnew, List.map_cons, hname, hrest, List.map_cons]

/-- Nothing changes if the first entry of each name is the one that would replace it. -/
theorem overrideFirsts_of_forall {new? : String → Option AttrEntry} {seen : List String}
    (h : ∀ name ∉ seen, ∀ new, new? name = some new → ∀ first,
      firstNamed? name entries = some first → first = new) :
    overrideFirsts new? seen entries = entries := by
  induction entries generalizing seen with
  | nil => rfl
  | cons entry rest ih =>
    cases hname : entry.name? with
    | none =>
      rw [overrideFirsts_cons_unnamed hname, ih]
      intro name hseen new hnew first hfirst
      refine h name hseen new hnew first ?_
      rw [firstNamed?_cons_of_not_hasName]
      · exact hfirst
      · rw [AttrEntry.hasName_iff, hname]
        exact nofun
    | some n =>
      have hentry : entry.hasName n = true := AttrEntry.hasName_iff.mpr hname
      have hrest : overrideFirsts new? (n :: seen) rest = rest := by
        apply ih
        intro name hseen new hnew first hfirst
        rw [List.mem_cons, not_or] at hseen
        refine h name hseen.2 new hnew first ?_
        rw [firstNamed?_cons_of_not_hasName]
        · exact hfirst
        · rw [AttrEntry.hasName_iff, hname, Option.some.injEq]
          exact Ne.symm hseen.1
      rw [overrideFirsts_cons_named hname, hrest]
      congr 1
      split
      · rfl
      · rename_i hseen
        cases hnew : new? n with
        | none => rfl
        | some new =>
          exact (h n hseen new hnew entry (firstNamed?_cons_of_hasName hentry rest)).symm

/-! ### Additions without overriding -/

/-- The entries after all additions when none is overridden: the first addition of each new
    name is at the end. -/
def completed (added entries : List AttrEntry) : List AttrEntry :=
  entries ++ (newNames added entries).filterMap (firstNamed? · added)

theorem put_keeping_of_mem (hname : entry.name? = some name) (h : name ∈ plainNames entries) :
    put false entries entry = entries := by
  simp only [put, hname, if_pos (any_hasName_iff.mpr h), Bool.false_eq_true, if_false]

/-- Only the additions of a new name matter for what is put at the end. -/
theorem filterMap_firstNamed?_cons {names : List String}
    (h : ∀ name ∈ names, ¬ entry.hasName name = true) (added : List AttrEntry) :
    names.filterMap (firstNamed? · (entry :: added)) = names.filterMap (firstNamed? · added) := by
  apply List.filterMap_congr
  intro name hname
  exact firstNamed?_cons_of_not_hasName (h name hname) added

theorem completed_put (entries : List AttrEntry) (entry : AttrEntry) (added : List AttrEntry) :
    completed added (put false entries entry) = completed (entry :: added) entries := by
  cases hname : entry.name? with
  | none =>
    have hnot (n : String) : ¬ entry.hasName n = true := by
      rw [AttrEntry.hasName_iff, hname]
      exact nofun
    have hnames : newNames (entry :: added) entries = newNames added entries := by
      rw [newNames, newNames, plainNames_cons, hname, Option.toList_none, List.nil_append]
    rw [put_unnamed hname, completed, completed, hnames,
      filterMap_firstNamed?_cons fun n _ => hnot n]
  | some name =>
    have hself : entry.hasName name = true := AttrEntry.hasName_iff.mpr hname
    -- a name that is new to a list that has `name` is another name
    have hother {longer : List AttrEntry} (hmem : name ∈ plainNames longer) :
        ∀ n ∈ newNames added longer, ¬ entry.hasName n = true := by
      intro n hn hentry
      rw [AttrEntry.hasName_iff, hname, Option.some.injEq] at hentry
      subst hentry
      exact (mem_newNames.mp hn).2 hmem
    by_cases hmem : name ∈ plainNames entries
    · rw [put_keeping_of_mem hname hmem, completed, completed, newNames_cons_of_mem hname hmem,
        filterMap_firstNamed?_cons (hother hmem)]
    · have hlonger : name ∈ plainNames (entries ++ [entry]) :=
        mem_plainNames.mpr ⟨entry, by simp, hself⟩
      rw [put_of_not_mem hname hmem, completed, completed, newNames_cons_of_not_mem hname hmem,
        List.filterMap_cons, firstNamed?_cons_of_hasName hself,
        filterMap_firstNamed?_cons (hother hlonger), List.append_assoc]
      rfl

/-- **Adding attributes one at a time, without overriding, is one change.** -/
theorem foldl_put_eq_completed (added entries : List AttrEntry) :
    added.foldl (put false) entries = completed added entries := by
  induction added generalizing entries with
  | nil => simp [completed, newNames]
  | cons entry added ih => rw [List.foldl_cons, ih, completed_put]

/-! ### Additions that change nothing -/

theorem foldl_put_filter (override : Bool) (added entries : List AttrEntry) :
    (added.filter (·.name?.isSome)).foldl (put override) entries =
      added.foldl (put override) entries := by
  induction added generalizing entries with
  | nil => rfl
  | cons entry added ih =>
    cases hname : entry.name? with
    | none =>
      rw [List.filter_cons_of_neg (by simp [hname]), List.foldl_cons, put_unnamed hname, ih]
    | some name =>
      rw [List.filter_cons_of_pos (by simp [hname]), List.foldl_cons, List.foldl_cons, ih]

/-- After the additions none of their names is new. -/
theorem newNames_foldl_put (override : Bool) (added entries : List AttrEntry) :
    newNames added (added.foldl (put override) entries) = [] := by
  rw [List.eq_nil_iff_forall_not_mem]
  intro name hname
  obtain ⟨hadded, hnew⟩ := mem_newNames.mp hname
  apply hnew
  rw [plainNames_foldl_put, mem_foldl_addName]
  exact .inr hadded

/-- After the additions the last one of each name is the first entry of the name. -/
theorem firstNamed?_foldl_put {last : AttrEntry} (h : lastNamed? name added = some last)
    (entries : List AttrEntry) :
    firstNamed? name (added.foldl (put true) entries) = some last := by
  rw [firstNamed?_eq_map_find?, find?_foldl_put, h]
  exact map_attr?_of_hasName (hasName_of_lastNamed? h)

/-- The same additions once more change nothing. -/
theorem foldl_put_idem (override : Bool) (added entries : List AttrEntry) :
    added.foldl (put override) (added.foldl (put override) entries) =
      added.foldl (put override) entries := by
  cases override with
  | false =>
    rw [foldl_put_eq_completed added (added.foldl (put false) entries), completed,
      newNames_foldl_put, List.filterMap_nil, List.append_nil]
  | true =>
    rw [foldl_put_eq_overridden added (added.foldl (put true) entries), overridden,
      newNames_foldl_put, List.filterMap_nil, List.append_nil]
    apply overrideFirsts_of_forall
    intro name _ new hnew first hfirst
    rw [firstNamed?_foldl_put hnew entries] at hfirst
    exact (Option.some.inj hfirst).symm

end Attribute

open Attribute

/-- **Adding attributes in closed form.** With overriding, the first attribute of each name that
    is added gives way to the last addition of the name, and the last addition of each new name
    comes to the end. Without it all attributes stay as they are, and the first addition of each
    new name comes to the end. There is one such entry for each new name. Entries without a
    plain name are not added, and the same additions made twice are as good as made once. -/
theorem Element.addAttributes_closed_form (e : Element) (added : List AttrEntry) :
    e.addAttributes added { overrideExisting := true } =
      { e with attrs := replaceFirsts (lastNamed? · added) e.attrs ++
          (newNames added e.attrs).filterMap (lastNamed? · added) } ∧
    e.addAttributes added { overrideExisting := false } =
      { e with attrs := e.attrs ++ (newNames added e.attrs).filterMap (firstNamed? · added) } ∧
    ((newNames added e.attrs).filterMap (lastNamed? · added)).map AttrEntry.name? =
      (newNames added e.attrs).map some ∧
    ((newNames added e.attrs).filterMap (firstNamed? · added)).map AttrEntry.name? =
      (newNames added e.attrs).map some ∧
    (∀ options, e.addAttributes (added.filter (·.name?.isSome)) options =
      e.addAttributes added options) ∧
    ∀ options, (e.addAttributes added options).addAttributes added options =
      e.addAttributes added options := by
  refine ⟨?_, ?_, ?_, ?_, ?_, ?_⟩
  · rw [addAttributes, foldl_put_eq_overridden, overridden, overrideFirsts_eq_replaceFirsts]
  · rw [addAttributes, foldl_put_eq_completed, completed]
  · apply map_name?_filterMap
    intro name hname
    exact exists_lastNamed? (mem_newNames.mp hname).1
  · apply map_name?_filterMap
    intro name hname
    exact exists_firstNamed? (mem_newNames.mp hname).1
  · intro options
    rw [addAttributes, addAttributes, foldl_put_filter]
  · intro options
    rw [addAttributes, addAttributes, foldl_put_idem]

end JsxEdit
