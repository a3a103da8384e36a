import JsxEdit.Attribute.Read
import JsxEdit.Proofs.AttrOverride
import JsxEdit.Proofs.ValidNames

/-!
  **Inlining an object: what becomes of its members and of the other attributes.**

  A member is inlined when it has a plain key or is a shorthand, and its key, under the name
  that it has as an attribute, is a valid name (`Attribute.Converts`, and `Attribute.Inlines` for
  the members of an object together). Inlining is adding the attributes of these members with
  overriding, so `Attribute.overridden` describes the list afterwards, and a repeated name means
  the last member of the name.

  Two things do not carry over. A number that is not finite has no literal, and null is
  written in its place. And with cleanup the inlined attribute goes whether or not its members
  have all been inlined, and takes a member of its own name with it.
-/

namespace JsxEdit

open Attribute

/-! ### Members and the attributes they become -/

namespace Attribute

/-- The member is inlined as the attribute `name`, and `value` is the expression it stands
    for. -/
inductive Converts : Node → String → Node → Prop where
  | identKey {key name : String} {value : Node} : nameOfProperty key = name →
      isValidName name = true → Converts (.keyValue (.ident key) value) name value
  | stringKey {key : StringLiteral} {name : String} {value : Node} :
      nameOfProperty key.value = name → isValidName name = true →
      Converts (.keyValue (.literal (.str key)) value) name value
  | shorthand {key name : String} : nameOfProperty key = name → isValidName name = true →
      Converts (.ident key) name (.ident key)

/-- The key of a member; a spread member has none. -/
def memberKey? : Node → Option Node
  | .keyValue key _ => some key
  | .ident key => some (.ident key)
  | .other .method _ (key :: _) => some key
  | .other .getter _ (key :: _) => some key
  | .other .setter _ (key :: _) => some key
  | _ => none

/-- The attribute name that the key of a member asks for. Numbers and computed keys ask for
    none. -/
def memberName? (member : Node) : Option String :=
  match memberKey? member with
  | some (.ident key) => some (nameOfProperty key)
  | some (.literal (.str key)) => some (nameOfProperty key.value)
  | _ => none

end Attribute

/-- The attribute that `name: value` becomes. -/
def Attr.inlining (name : String) (value : Node) : Attr :=
  ⟨.plain name, (valueOfExpr value).toNode?⟩

namespace Attribute

theorem hasName_inlining (name : String) (value : Node) :
    (AttrEntry.attr (.inlining name value)).hasName name = true :=
  AttrEntry.hasName_iff.mpr rfl

theorem name_eq_of_hasName_inlining {name other : String} {value : Node}
    (h : (AttrEntry.attr (.inlining other value)).hasName name = true) : other = name :=
  Option.some.inj (AttrEntry.hasName_iff.mp h)

theorem Converts.memberName? {member value : Node} {name : String}
    (h : Converts member name value) : memberName? member = some name := by
  cases h with
  | identKey hname _ => exact congrArg some hname
  | stringKey hname _ => exact congrArg some hname
  | shorthand hname _ => exact congrArg some hname

theorem ofMember?_eq_some_iff {member : Node} {a : Attr} :
    ofMember? member = some a ↔
      ∃ name value, Converts member name value ∧ a = .inlining name value := by
  unfold ofMember?
  rw [Option.bind_eq_some_iff]
  constructor
  · rintro ⟨⟨key, value⟩, hproperty, hmake⟩
    obtain ⟨hvalid, rfl⟩ := Attr.make?_eq_some_iff.mp hmake
    unfold propertyOfMember? at hproperty
    split at hproperty
    · cases hproperty
      exact ⟨_, _, .identKey rfl hvalid, rfl⟩
    · cases hproperty
      exact ⟨_, _, .stringKey rfl hvalid, rfl⟩
    · cases hproperty
      exact ⟨_, _, .shorthand rfl hvalid, rfl⟩
    · cases hproperty
  · rintro ⟨name, value, hmember, rfl⟩
    cases hmember with
    | identKey hname hvalid =>
      exact ⟨_, rfl, Attr.make?_eq_some_iff.mpr ⟨hname ▸ hvalid, hname ▸ rfl⟩⟩
    | stringKey hname hvalid =>
      exact ⟨_, rfl, Attr.make?_eq_some_iff.mpr ⟨hname ▸ hvalid, hname ▸ rfl⟩⟩
    | shorthand hname hvalid =>
      exact ⟨_, rfl, Attr.make?_eq_some_iff.mpr ⟨hname ▸ hvalid, hname ▸ rfl⟩⟩

/-- The attributes that the members of an object become, in order. -/
def inlinedEntries (members : List Node) : List AttrEntry :=
  (members.filterMap ofMember?).map .attr

theorem mem_inlinedEntries {members : List Node} {entry : AttrEntry} :
    entry ∈ inlinedEntries members ↔
      ∃ member ∈ members, ∃ name value, Converts member name value ∧
        entry = .attr (.inlining name value) := by
  simp only [inlinedEntries, List.mem_map, List.mem_filterMap, ofMember?_eq_some_iff]
  constructor
  · rintro ⟨a, ⟨member, hmember, name, value, hconverts, rfl⟩, rfl⟩
    exact ⟨member, hmember, name, value, hconverts, rfl⟩
  · rintro ⟨member, hmember, name, value, hconverts, rfl⟩
    exact ⟨_, ⟨member, hmember, name, value, hconverts, rfl⟩, rfl⟩

theorem mem_plainNames_inlinedEntries {members : List Node} {name : String} :
    name ∈ plainNames (inlinedEntries members) ↔
      ∃ member ∈ members, ∃ value, Converts member name value := by
  rw [mem_plainNames]
  constructor
  · rintro ⟨entry, hentry, hname⟩
    obtain ⟨member, hmember, other, value, hconverts, rfl⟩ := mem_inlinedEntries.mp hentry
    obtain rfl := name_eq_of_hasName_inlining hname
    exact ⟨member, hmember, value, hconverts⟩
  · rintro ⟨member, hmember, value, hconverts⟩
    exact ⟨_, mem_inlinedEntries.mpr ⟨member, hmember, name, value, hconverts, rfl⟩,
      hasName_inlining name value⟩

/-- What the members of an object become, one after the other: an attribute, or nothing. -/
inductive Inlines : List Node → List AttrEntry → Prop where
  | nil : Inlines [] []
  | keep {member value : Node} {name : String} {rest : List Node} {entries : List AttrEntry} :
      Converts member name value → Inlines rest entries →
      Inlines (member :: rest) (.attr (.inlining name value) :: entries)
  | drop {member : Node} {rest : List Node} {entries : List AttrEntry} :
      (∀ name value, ¬ Converts member name value) → Inlines rest entries →
      Inlines (member :: rest) entries

theorem inlines_inlinedEntries (members : List Node) :
    Inlines members (inlinedEntries members) := by
  induction members with
  | nil => exact .nil
  | cons member rest ih =>
    unfold inlinedEntries
    rcases hmember : ofMember? member with _ | a
    · rw [List.filterMap_cons_none hmember]
      refine .drop ?_ ih
      intro name value hconverts
      rw [ofMember?_eq_some_iff.mpr ⟨name, value, hconverts, rfl⟩] at hmember
      cases hmember
    · obtain ⟨name, value, hconverts, rfl⟩ := ofMember?_eq_some_iff.mp hmember
      rw [List.filterMap_cons_some hmember, List.map_cons]
      exact .keep hconverts ih

theorem inlinedEntries_append (before after : List Node) :
    inlinedEntries (before ++ after) = inlinedEntries before ++ inlinedEntries after := by
  rw [inlinedEntries, List.filterMap_append, List.map_append]
  rfl

/-- The last member of a name is the one that counts. -/
theorem lastNamed?_inlinedEntries (before : List Node) {after : List Node} {member value : Node}
    {name : String} (hmember : Converts member name value)
    (hafter : ∀ later ∈ after, ∀ other, ¬ Converts later name other) :
    lastNamed? name (inlinedEntries (before ++ member :: after)) =
      some (.attr (.inlining name value)) := by
  have hhead : inlinedEntries (member :: after) =
      .attr (.inlining name value) :: inlinedEntries after := by
    have hone : ofMember? member = some (.inlining name value) :=
      ofMember?_eq_some_iff.mpr ⟨name, value, hmember, rfl⟩
    rw [inlinedEntries, List.filterMap_cons_some hone, List.map_cons]
    rfl
  rw [inlinedEntries_append, hhead]
  apply lastNamed?_of_cut _ (hasName_inlining name value)
  rw [mem_plainNames_inlinedEntries]
  rintro ⟨later, hlater, other, hconverts⟩
  exact hafter later hlater other hconverts

/-- A name that members have has a last member. -/
theorem exists_last_converts {members : List Node} {name : String}
    (h : ∃ member ∈ members, ∃ value, Converts member name value) :
    ∃ before member after value, members = before ++ member :: after ∧
      Converts member name value ∧ ∀ later ∈ after, ∀ other, ¬ Converts later name other := by
  induction members with
  | nil =>
    obtain ⟨member, hmember, -⟩ := h
    cases hmember
  | cons first rest ih =>
    by_cases hrest : ∃ member ∈ rest, ∃ value, Converts member name value
    · obtain ⟨before, member, after, value, rfl, hmember, hafter⟩ := ih hrest
      exact ⟨first :: before, member, after, value, rfl, hmember, hafter⟩
    · obtain ⟨member, hmember, value, hconverts⟩ := h
      rcases List.mem_cons.mp hmember with rfl | hmember
      · refine ⟨[], member, rest, value, rfl, hconverts, ?_⟩
        intro later hlater other hother
        exact hrest ⟨later, hlater, other, hother⟩
      · exact absurd ⟨member, hmember, value, hconverts⟩ hrest

end Attribute

/-! ### The element after inlining -/

theorem Attribute.isNamedIn_singleton {prop : String} (hprop : prop ≠ "") (entry : AttrEntry) :
    isNamedIn [prop] entry = entry.hasName prop := by
  cases hname : entry.name? with
  | none => simp [isNamedIn, AttrEntry.hasName, hname]
  | some name =>
    by_cases h : name = prop <;> simp [isNamedIn, AttrEntry.hasName, hname, h, hprop]

namespace Element

/-- The first attribute of this name has an object literal with these members in braces, and
    there are some. -/
def HoldsObject (e : Element) (prop : String) (members : List Node) : Prop :=
  members ≠ [] ∧ ∃ a, find? prop e.attrs = some a ∧ a.value = some (.braces (.object members))

variable {e : Element} {prop : String} {members : List Node}

theorem HoldsObject.objectMembers_eq (h : e.HoldsObject prop members) :
    objectMembers (find? prop e.attrs) = members := by
  obtain ⟨-, ⟨name, value⟩, hfind, hvalue⟩ := h
  cases hvalue
  rw [hfind]
  rfl

theorem objectMembers_eq_nil (h : ∀ members, ¬ e.HoldsObject prop members) :
    objectMembers (find? prop e.attrs) = [] := by
  unfold objectMembers
  split
  · rename_i name members hfind
    by_contra hmembers
    exact h members ⟨hmembers, _, hfind, rfl⟩
  · rfl

theorem spreadObjectProp_of_not_holdsObject (h : ∀ members, ¬ e.HoldsObject prop members)
    (options : SpreadOptions) : e.spreadObjectProp prop options = e := by
  unfold spreadObjectProp
  rw [objectMembers_eq_nil h]

theorem spreadObjectProp_of_holdsObject (h : e.HoldsObject prop members)
    (options : SpreadOptions) :
    e.spreadObjectProp prop options =
      if options.cleanup then (e.addAttributes (inlinedEntries members) {}).removeAttrs [prop]
      else e.addAttributes (inlinedEntries members) {} := by
  unfold spreadObjectProp
  rw [h.objectMembers_eq]
  split
  · exact absurd rfl h.1
  · rfl

/-- Inlining as one change of the attribute list. -/
theorem spreadObjectProp_eq_overridden (h : e.HoldsObject prop members) (hprop : prop ≠ "")
    (options : SpreadOptions) :
    e.spreadObjectProp prop options =
      { e with attrs := (overridden (inlinedEntries members) e.attrs).filter
                 fun entry => !(options.cleanup && entry.hasName prop) } := by
  have hadded : (e.addAttributes (inlinedEntries members) {}) =
      { e with attrs := overridden (inlinedEntries members) e.attrs } := by
    rw [addAttributes, foldl_put_eq_overridden]
  rw [spreadObjectProp_of_holdsObject h, hadded]
  cases options.cleanup with
  | true => simp [removeAttrs, isNamedIn_singleton hprop]
  | false => simp

/-- The attribute that is found under a name that members have. -/
theorem find?_spreadObjectProp (h : e.HoldsObject prop members) (options : SpreadOptions)
    {name : String} {a : Attr} (hlast : lastNamed? name (inlinedEntries members) = some (.attr a))
    (hprop : options.cleanup = true → name ≠ prop) :
    find? name (e.spreadObjectProp prop options).attrs = some a := by
  have hadded : find? name (e.addAttributes (inlinedEntries members) {}).attrs = some a := by
    rw [addAttributes, find?_foldl_put, hlast]
    rfl
  rw [spreadObjectProp_of_holdsObject h]
  split
  · rename_i hcleanup
    have hkept (entry : AttrEntry) (hentry : entry.hasName name = true) :
        (!isNamedIn [prop] entry) = true := by
      simp [isNamedIn, AttrEntry.hasName_iff.mp hentry, hprop hcleanup]
    rw [removeAttrs, find?_filter hkept]
    exact hadded
  · exact hadded

end Element

/-! ### Values -/

/-- A number literal that is not finite: no literal is written for it. -/
def Node.isUnwritableNumber : Node → Bool
  | .literal (.num x _) => !x.isFinite
  | _ => false

theorem Node.exists_of_isUnwritableNumber {value : Node} (h : value.isUnwritableNumber = true) :
    ∃ x raw, value = .literal (.num x raw) := by
  unfold isUnwritableNumber at h
  split at h
  · exact ⟨_, _, rfl⟩
  · cases h

/-- An inlined value reads as the expression did, unless there is no literal for it. -/
theorem Attr.read_inlining (name : String) (value : Node) :
    (Attr.inlining name value).read =
      if value.isUnwritableNumber then some (.scalar .null)
      else Attr.read ⟨.plain name, some (.braces value)⟩ := by
  cases value with
  | literal l =>
    cases l with
    | str s => rfl
    | bool b => cases b <;> rfl
    | null => rfl
    | num x raw =>
      cases hx : x.isFinite <;>
        simp [Attr.inlining, valueOfExpr, NewValue.toNode?, Scalar.writable, Scalar.toNode,
          Attr.read, Literal.scalar?, Node.isUnwritableNumber, hx]
    | bigInt sign digits raw => rfl
    | regExp pattern flags => rfl
    | text value raw => rfl
  | _ => rfl

namespace Element

/-- **The value of an inlined member.** What is found under a name afterwards reads as the
    expression of the last member of the name does in braces, except for a number that is not
    finite, which reads as null. -/
theorem read_inlined_iff (e : Element) (prop : String) (options : SpreadOptions)
    {before after : List Node} {member value : Node} {name : String}
    (hobject : e.HoldsObject prop (before ++ member :: after))
    (hmember : Converts member name value)
    (hafter : ∀ later ∈ after, ∀ other, ¬ Converts later name other)
    (hprop : options.cleanup = true → name ≠ prop) :
    ∃ a, find? name (e.spreadObjectProp prop options).attrs = some a ∧
      (a.read = Attr.read ⟨.plain name, some (.braces value)⟩ ↔
        value.isUnwritableNumber = false) ∧
      (value.isUnwritableNumber = true → a.read = some (.scalar .null)) := by
  have hlast := lastNamed?_inlinedEntries before hmember hafter
  refine ⟨.inlining name value, find?_spreadObjectProp hobject options hlast hprop, ?_⟩
  rw [Attr.read_inlining]
  cases hvalue : value.isUnwritableNumber with
  | false => simp
  | true =>
    obtain ⟨x, raw, rfl⟩ := Node.exists_of_isUnwritableNumber hvalue
    simp [Attr.read, Literal.scalar?]

/-- `class` and `className` collide, and the last of them is the one that is read. -/
theorem read_inlined_iff_colliding :
    let text : Node := .literal (.ofString "b")
    let e : Element :=
      { tag := .ident "a"
        attrs := [.attr ⟨.plain "className", none⟩,
          .attr ⟨.plain "props", some (.braces (.object
            [.keyValue (.ident "class") (.ident "x"),
              .keyValue (.literal (.ofString "className")) text, .ident "id"]))⟩]
        selfClosing := true, children := [], closing := none }
    ∃ a, find? "className" (e.spreadObjectProp "props" { cleanup := true }).attrs = some a ∧
      a.read = some (.scalar (.str "b")) := by
  intro text e
  have hobject : e.HoldsObject "props" ([.keyValue (.ident "class") (.ident "x")] ++
      .keyValue (.literal (.ofString "className")) text :: [.ident "id"]) :=
    ⟨nofun, _, rfl, rfl⟩
  have hmember : Converts (.keyValue (.literal (.ofString "className")) text) "className" text :=
    .stringKey rfl (by decide)
  have hafter : ∀ later ∈ [Node.ident "id"], ∀ other, ¬ Converts later "className" other := by
    intro later hlater other hconverts
    rw [List.mem_singleton.mp hlater] at hconverts
    cases hconverts with
    | shorthand hname _ => exact absurd hname (by decide)
  obtain ⟨a, hfind, hread, -⟩ := read_inlined_iff e "props" { cleanup := true } hobject hmember
    hafter (fun _ => by decide)
  exact ⟨a, hfind, hread.mpr rfl⟩

/-- `{limit: 1e400}` comes out as `limit={null}`. -/
theorem not_read_inlined_infinity :
    let infinite : Node := .literal (.num (.infinity false) (some "1e400"))
    let member : Node := .keyValue (.ident "limit") infinite
    let e : Element :=
      { tag := .ident "a"
        attrs := [.attr ⟨.plain "props", some (.braces (.object [member]))⟩]
        selfClosing := true, children := [], closing := none }
    e.HoldsObject "props" [member] ∧ Converts member "limit" infinite ∧
      ∃ a, find? "limit" (e.spreadObjectProp "props" {}).attrs = some a ∧
        a.read = some (.scalar .null) ∧
        Attr.read ⟨.plain "limit", some (.braces infinite)⟩ =
          some (.scalar (.num (.infinity false))) := by
  intro infinite member e
  exact ⟨⟨nofun, _, rfl, rfl⟩, .identKey rfl (by decide), _, rfl, rfl, rfl⟩

end Element

/-! ### Members that are lost -/

/-- The member has been inlined into the entries: they have an attribute of its name that
    comes from it or from a member after it. -/
def Attribute.InlinedIn (entries : List AttrEntry) (member : Node) (after : List Node) : Prop :=
  ∃ name, memberName? member = some name ∧ ∃ later ∈ member :: after, ∃ value,
    Converts later name value ∧ .attr (.inlining name value) ∈ entries

namespace Element

theorem not_mem_plainNames_cleanup {e : Element} {prop : String} {members : List Node}
    (h : e.HoldsObject prop members) (hprop : prop ≠ "") (options : SpreadOptions)
    (hcleanup : options.cleanup = true) :
    prop ∉ plainNames (e.spreadObjectProp prop options).attrs := by
  rw [spreadObjectProp_eq_overridden h hprop, mem_plainNames]
  rintro ⟨entry, hentry, hname⟩
  simp [hcleanup, hname] at hentry

/-- **What cleanup loses.** The attribute that was inlined is gone in any case. A member is
    left exactly if it, or a member of the same name after it, can be inlined, and its name is
    not that of the attribute. -/
theorem inlinedIn_cleanup_iff (e : Element) (prop : String) (hprop : prop ≠ "")
    (members : List Node) (hobject : e.HoldsObject prop members) :
    prop ∉ plainNames (e.spreadObjectProp prop { cleanup := true }).attrs ∧
      ∀ before member after, members = before ++ member :: after →
        (InlinedIn (e.spreadObjectProp prop { cleanup := true }).attrs member after ↔
          ∃ name, memberName? member = some name ∧ name ≠ prop ∧
            ∃ later ∈ member :: after, ∃ value, Converts later name value) := by
  have hgone := not_mem_plainNames_cleanup hobject hprop { cleanup := true } rfl
  refine ⟨hgone, ?_⟩
  rintro before member after rfl
  constructor
  · rintro ⟨name, hname, later, hlater, value, hconverts, hentry⟩
    refine ⟨name, hname, ?_, later, hlater, value, hconverts⟩
    rintro rfl
    exact hgone (mem_plainNames.mpr ⟨_, hentry, hasName_inlining name value⟩)
  · rintro ⟨name, hname, hne, hlater⟩
    -- the last of the members that follow is the last of all, so its attribute is found
    obtain ⟨between, last, rest, value, hcut, hlast, hrest⟩ := exists_last_converts hlater
    rw [hcut, ← List.append_assoc] at hobject
    have hfind := find?_spreadObjectProp hobject { cleanup := true }
      (lastNamed?_inlinedEntries _ hlast hrest) (fun _ => hne)
    refine ⟨name, hname, last, ?_, value, hlast, mem_of_find?_eq_some hfind⟩
    rw [hcut]
    exact List.mem_append_right _ List.mem_cons_self

/-- A method is not inlined, but a later member has taken its name. -/
theorem inlinedIn_cleanup_iff_method :
    let method : Node := .other .method [] [.ident "onClick", .list [], .list [], .absent]
    let handler : Node := .keyValue (.ident "onClick") (.ident "f")
    let e : Element :=
      { tag := .ident "a"
        attrs := [.attr ⟨.plain "props", some (.braces (.object [method, handler]))⟩]
        selfClosing := true, children := [], closing := none }
    InlinedIn (e.spreadObjectProp "props" { cleanup := true }).attrs method [handler] := by
  intro method handler e
  have hobject : e.HoldsObject "props" [method, handler] := ⟨nofun, _, rfl, rfl⟩
  obtain ⟨-, hmembers⟩ := inlinedIn_cleanup_iff e "props" (by decide) [method, handler] hobject
  refine (hmembers [] method [handler] rfl).mpr
    ⟨"onClick", rfl, by decide, handler, ?_, .ident "f", ?_⟩
  · exact List.mem_cons_of_mem _ List.mem_cons_self
  · exact .identKey rfl (by decide)

/-- `{...rest}` is gone with the attribute that held it. -/
theorem not_inlinedIn_spread :
    let member : Node := .spread (.ident "rest")
    let e : Element :=
      { tag := .ident "a"
        attrs := [.attr ⟨.plain "props", some (.braces (.object [member]))⟩]
        selfClosing := true, children := [], closing := none }
    e.HoldsObject "props" [member] ∧
      (e.spreadObjectProp "props" { cleanup := true }).attrs = [] ∧
      ¬ InlinedIn (e.spreadObjectProp "props" { cleanup := true }).attrs member [] := by
  intro member e
  refine ⟨⟨nofun, _, rfl, rfl⟩, rfl, ?_⟩
  rintro ⟨name, hname, -⟩
  cases hname

/-! ### The other attributes -/

/-- No member is inlined under the name of this entry, and it is not cleaned up. -/
def isUntouchedBy (members : List Node) (prop : String) (options : SpreadOptions)
    (entry : AttrEntry) : Bool :=
  entry.name?.all fun name =>
    decide (name ∉ plainNames (inlinedEntries members)) && !(options.cleanup && name == prop)

theorem isUntouchedBy_of_mem {members : List Node} (prop : String) (options : SpreadOptions)
    {entry : AttrEntry} {name : String} (hname : entry.hasName name = true)
    (hmem : name ∈ plainNames (inlinedEntries members)) :
    isUntouchedBy members prop options entry = false := by
  simp [isUntouchedBy, AttrEntry.hasName_iff.mp hname, hmem]

/-- Entries that are untouched are not cleaned up. -/
theorem isUntouchedBy_and_kept (members : List Node) (prop : String) (options : SpreadOptions)
    (entry : AttrEntry) :
    (isUntouchedBy members prop options entry && !(options.cleanup && entry.hasName prop)) =
      isUntouchedBy members prop options entry := by
  cases hname : entry.name? with
  | none => simp [isUntouchedBy, AttrEntry.hasName, hname]
  | some name =>
    simp only [isUntouchedBy, AttrEntry.hasName, hname, Option.all_some, Option.some_beq_some,
      Bool.and_assoc, Bool.and_self]

/-- **Inlining, as one change.** Without an object literal that has members nothing happens.
    Otherwise the last member of each name stands in the place of the first attribute of the
    name, or at the end, and with cleanup the attributes of the inlined one's name go. All
    other entries stay, in their order. The names are those under which members are inlined,
    in the order of the members. -/
theorem spreadObjectProp_changes (e : Element) (prop : String) (hprop : prop ≠ "")
    (options : SpreadOptions) :
    ((∀ members, ¬ e.HoldsObject prop members) → e.spreadObjectProp prop options = e) ∧
    ∀ members, e.HoldsObject prop members →
      e.spreadObjectProp prop options =
        { e with attrs := (overridden (inlinedEntries members) e.attrs).filter
                   fun entry => !(options.cleanup && entry.hasName prop) } ∧
      (e.spreadObjectProp prop options).attrs.filter (isUntouchedBy members prop options) =
        e.attrs.filter (isUntouchedBy members prop options) ∧
      (options.cleanup = true → prop ∉ plainNames (e.spreadObjectProp prop options).attrs) ∧
      Inlines members (inlinedEntries members) ∧
      (∀ name, name ∈ plainNames (inlinedEntries members) ↔
        ∃ member ∈ members, ∃ value, Converts member name value) ∧
      ∀ before member after name value, members = before ++ member :: after →
        Converts member name value → (∀ later ∈ after, ∀ other, ¬ Converts later name other) →
        lastNamed? name (inlinedEntries members) = some (.attr (.inlining name value)) := by
  refine ⟨fun h => spreadObjectProp_of_not_holdsObject h options, ?_⟩
  intro members hobject
  have hresult := spreadObjectProp_eq_overridden hobject hprop options
  refine ⟨hresult, ?_, not_mem_plainNames_cleanup hobject hprop options,
    inlines_inlinedEntries members, fun _ => mem_plainNames_inlinedEntries, ?_⟩
  · rw [hresult]
    simp only [List.filter_filter, isUntouchedBy_and_kept]
    exact filter_overridden (fun _ _ => isUntouchedBy_of_mem prop options) e.attrs
  · rintro before member after name value rfl hmember hafter
    exact lastNamed?_inlinedEntries before hmember hafter

/-- The members take the place of `id` and of `props` itself, `title` is new, and the second
    `id` and the spread stay. -/
theorem spreadObjectProp_changes_repeated :
    let text (s : String) : Option Node := some (.literal (.ofString s))
    let member (key s : String) : Node := .keyValue (.ident key) (.literal (.ofString s))
    let members : List Node :=
      [member "title" "1", member "id" "2", .spread (.ident "more"), member "props" "3",
        member "title" "4"]
    let e : Element :=
      { tag := .ident "a"
        attrs := [.attr ⟨.plain "id", none⟩, .spread (.ident "rest"),
          .attr ⟨.plain "props", some (.braces (.object members))⟩,
          .attr ⟨.plain "id", text "old"⟩]
        selfClosing := true, children := [], closing := none }
    (e.spreadObjectProp "props" {}).attrs =
      [.attr ⟨.plain "id", text "2"⟩, .spread (.ident "rest"), .attr ⟨.plain "props", text "3"⟩,
        .attr ⟨.plain "id", text "old"⟩, .attr ⟨.plain "title", text "4"⟩] ∧
      lastNamed? "title" (inlinedEntries members) = some (.attr ⟨.plain "title", text "4"⟩) := by
  intro text member members e
  have hobject : e.HoldsObject "props" members := ⟨nofun, _, rfl, rfl⟩
  obtain ⟨hresult, -, -, -, -, hlast⟩ :=
    (spreadObjectProp_changes e "props" (by decide) {}).2 members hobject
  refine ⟨?_, ?_⟩
  · rw [hresult]
    rfl
  · exact hlast (members.take 4) (member "title" "4") [] "title" _ rfl
      (.identKey rfl (by decide)) nofun

end Element

end JsxEdit
