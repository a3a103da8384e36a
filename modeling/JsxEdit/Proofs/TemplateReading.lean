import JsxEdit.Proofs.ClassTemplate
import JsxEdit.Text.Hex

/-!
  **How the texts of a template are read.**

  What is written between the substitutions of a template is read from left to right:

  1. a backtick, or a dollar sign in front of an opening brace, ends the text;
  2. a backslash and what follows it are an escape, which stands for a code unit, for a code
     point, for the character after the backslash, or for nothing at the end of a line; some
     escapes have no meaning;
  3. a carriage return, with or without a line feed after it, stands for a line feed;
  4. any other character stands for itself.

  A text means a sequence of UTF-16 code units, since an escape can stand for one half of a
  character.

  The library makes the texts of a template from strings, and takes each of them for what is
  written and for what it means. That is right for a string that reads as itself. An escape is
  always longer than what it stands for, so these are exactly the strings in which none of the
  first three rules applies.
-/

namespace JsxEdit

namespace TemplateText

/-! ### Code units -/

/-- The UTF-16 code units of a code point. -/
def unitsOfPoint (n : Nat) : List Nat :=
  if n < 0x10000 then [n]
  else [0xD800 + (n - 0x10000) / 0x400, 0xDC00 + (n - 0x10000) % 0x400]

/-- The UTF-16 code units of a text. -/
def unitsOf (cs : List Char) : List Nat := cs.flatMap fun c => unitsOfPoint c.toNat

/-! ### Reading -/

def hexNumber? (digits : List Char) : Option Nat :=
  (digits.mapM Text.hexValue?).map fun values => values.foldl (fun n v => 16 * n + v) 0

/-- A code unit, written with `count` hexadecimal digits. -/
def readUnit? (count : Nat) (cs : List Char) : Option (List Nat × List Char) :=
  if (cs.take count).length = count then
    (hexNumber? (cs.take count)).map fun unit => ([unit], cs.drop count)
  else none

/-- A code point, written with hexadecimal digits up to a closing brace. -/
def readPoint? (cs : List Char) : Option (List Nat × List Char) :=
  match cs.takeWhile Text.isHexDigit, cs.dropWhile Text.isHexDigit with
  | digit :: digits, '}' :: rest =>
    (hexNumber? (digit :: digits)).bind fun n =>
      if n ≤ 0x10FFFF then some (unitsOfPoint n, rest) else none
  | _, _ => none

/-- The rest of a text after a carriage return. -/
def skipLineFeed : List Char → List Char
  | '\n' :: rest => rest
  | rest => rest

/-- A code unit after `\u`: a code point in braces, or four digits. -/
def readUnicode? : List Char → Option (List Nat × List Char)
  | '{' :: rest => readPoint? rest
  | rest => readUnit? 4 rest

/-- A backslash at the end of a line takes the end of the line away. The carriage return is
    apart, since a line feed may follow it. -/
def lineEnds : List Char := ['\n', '\u2028', '\u2029']

/-- Letters that stand for a control character after a backslash. -/
def controls : List (Char × Nat) :=
  [('b', 8), ('t', 9), ('n', 10), ('v', 11), ('f', 12), ('r', 13)]

/-- What an escaped character stands for: a control character, or itself. -/
def unitsOfEscaped (c : Char) : List Nat :=
  match controls.lookup c with
  | some unit => [unit]
  | none => unitsOfPoint c.toNat

/-- What follows a backslash, and the rest of the text after it. A digit has no meaning, except
    for a zero without a digit behind it. -/
def readEscape? : List Char → Option (List Nat × List Char)
  | [] => none
  | c :: rest =>
    if c = '\r' then some ([], skipLineFeed rest)
    else if c ∈ lineEnds then some ([], rest)
    else if c = 'x' then readUnit? 2 rest
    else if c = 'u' then readUnicode? rest
    else if c.isDigit then
      if c = '0' ∧ rest.head?.any Char.isDigit = false then some ([0], rest) else none
    else some (unitsOfEscaped c, rest)

/-- What the text starts with stands for, and the rest of the text after it. -/
def next? : List Char → Option (List Nat × List Char)
  | [] => none
  | c :: rest =>
    if c = '\x60' ∨ c = '$' ∧ rest.head? = some '{' then none
    else if c = '\\' then readEscape? rest
    else if c = '\r' then some ([10], skipLineFeed rest)
    else some (unitsOfPoint c.toNat, rest)

/-! ### An escape is longer than what it stands for -/

theorem one_le_length_unitsOfPoint (n : Nat) : 1 ≤ (unitsOfPoint n).length := by
  unfold unitsOfPoint
  split <;> simp

theorem length_unitsOfPoint_le (n : Nat) : (unitsOfPoint n).length ≤ 2 := by
  unfold unitsOfPoint
  split <;> simp

theorem length_unitsOfEscaped_le (c : Char) :
    (unitsOfEscaped c).length ≤ (unitsOfPoint c.toNat).length := by
  unfold unitsOfEscaped
  split
  · exact one_le_length_unitsOfPoint c.toNat
  · exact Nat.le_refl _

/-- The number of code units of a text. -/
def width (cs : List Char) : Nat := (unitsOf cs).length

@[simp] theorem width_nil : width [] = 0 := rfl

@[simp] theorem width_cons (c : Char) (cs : List Char) :
    width (c :: cs) = (unitsOfPoint c.toNat).length + width cs := by
  simp [width, unitsOf]

@[simp] theorem width_append (cs ds : List Char) : width (cs ++ ds) = width cs + width ds := by
  simp [width, unitsOf]

theorem length_le_width (cs : List Char) : cs.length ≤ width cs := by
  induction cs with
  | nil => simp
  | cons c cs ih =>
    have hone := one_le_length_unitsOfPoint c.toNat
    simp only [List.length_cons, width_cons]
    omega

theorem width_skipLineFeed_le (cs : List Char) : width (skipLineFeed cs) ≤ width cs := by
  unfold skipLineFeed
  split
  · rw [width_cons]
    omega
  · exact Nat.le_refl _

/-- What has been read, and the rest, have no more code units than the text. -/
def Bounded (cs : List Char) (read : List Nat × List Char) : Prop :=
  read.1.length + width read.2 ≤ width cs

theorem bounded_readUnit? {count : Nat} (hcount : 1 ≤ count) {cs : List Char}
    {read : List Nat × List Char} (h : readUnit? count cs = some read) : Bounded cs read := by
  unfold readUnit? at h
  split at h
  · rename_i hlength
    obtain ⟨unit, -, rfl⟩ := Option.map_eq_some_iff.mp h
    have hsplit : width cs = width (cs.take count) + width (cs.drop count) := by
      rw [← width_append, List.take_append_drop]
    have hdigits := length_le_width (cs.take count)
    simp only [Bounded, List.length_singleton]
    omega
  · cases h

theorem bounded_readPoint? {cs : List Char} {read : List Nat × List Char}
    (h : readPoint? cs = some read) : Bounded cs read := by
  unfold readPoint? at h
  split at h
  · rename_i digit digits rest hdigits hrest
    obtain ⟨n, -, hn⟩ := Option.bind_eq_some_iff.mp h
    split at hn
    · cases hn
      have hsplit : width cs = width (digit :: digits) + width ('}' :: rest) := by
        rw [← hdigits, ← hrest, ← width_append, List.takeWhile_append_dropWhile]
      have hdigit := one_le_length_unitsOfPoint digit.toNat
      have hbrace := one_le_length_unitsOfPoint '}'.toNat
      have hunits := length_unitsOfPoint_le n
      simp only [width_cons] at hsplit
      simp only [Bounded]
      omega
    · cases hn
  · cases h

theorem bounded_readUnicode? {cs : List Char} {read : List Nat × List Char}
    (h : readUnicode? cs = some read) : Bounded cs read := by
  unfold readUnicode? at h
  split at h
  · have hbounded := bounded_readPoint? h
    simp only [Bounded, width_cons] at hbounded ⊢
    omega
  · exact bounded_readUnit? (by decide) h

theorem bounded_readEscape? {cs : List Char} {read : List Nat × List Char}
    (h : readEscape? cs = some read) : Bounded cs read := by
  cases cs with
  | nil => cases h
  | cons c rest =>
    have hc := one_le_length_unitsOfPoint c.toNat
    -- what is read of the rest is bounded by the rest, and `c` only adds to it
    have hrest {read : List Nat × List Char} (hread : Bounded rest read) :
        Bounded (c :: rest) read := by
      simp only [Bounded, width_cons] at hread ⊢
      omega
    have hunits {units : List Nat} (hle : units.length ≤ (unitsOfPoint c.toNat).length) :
        Bounded (c :: rest) (units, rest) := by
      simp only [Bounded, width_cons]
      omega
    rw [readEscape?] at h
    split at h
    · cases h
      have hskip := width_skipLineFeed_le rest
      refine hrest ?_
      simpa [Bounded] using hskip
    split at h
    · cases h
      exact hunits (Nat.zero_le _)
    split at h
    · exact hrest (bounded_readUnit? (by decide) h)
    split at h
    · exact hrest (bounded_readUnicode? h)
    split at h
    · split at h
      · cases h
        exact hunits hc
      · cases h
    · cases h
      exact hunits (length_unitsOfEscaped_le c)

/-! ### Texts that read as themselves -/

/-- No rule but the last one applies: there is no backslash, no backtick, no carriage return,
    and no dollar sign in front of an opening brace. -/
def IsPlain (cs : List Char) : Prop :=
  '\\' ∉ cs ∧ '\x60' ∉ cs ∧ '\r' ∉ cs ∧ ¬ ['$', '{'] <:+: cs

instance (cs : List Char) : Decidable (IsPlain cs) :=
  inferInstanceAs (Decidable (_ ∧ _ ∧ _ ∧ _))

/-- The first character of a text stands for itself. -/
def IsPlainAt (c : Char) (rest : List Char) : Prop :=
  c ≠ '\\' ∧ c ≠ '\x60' ∧ c ≠ '\r' ∧ ¬ (c = '$' ∧ rest.head? = some '{')

theorem isPlain_nil : IsPlain [] := by decide

theorem isPlain_cons {c : Char} {cs : List Char} :
    IsPlain (c :: cs) ↔ IsPlainAt c cs ∧ IsPlain cs := by
  have hpair : ['$', '{'] <+: c :: cs ↔ c = '$' ∧ cs.head? = some '{' := by
    cases cs with
    | nil => simp
    | cons d cs => simp [eq_comm]
  simp only [IsPlain, IsPlainAt, List.mem_cons, not_or, List.infix_cons_iff, hpair]
  grind

theorem isPlain_append_space {cs : List Char} : IsPlain (cs ++ [' ']) ↔ IsPlain cs := by
  induction cs with
  | nil => decide
  | cons c cs ih =>
    have hhead : (cs ++ [' ']).head? = some '{' ↔ cs.head? = some '{' := by
      cases cs <;> simp
    rw [List.cons_append, isPlain_cons, isPlain_cons, ih, IsPlainAt, IsPlainAt, hhead]

/-- The three things that can be read first. -/
theorem next?_cases {c : Char} {cs rest : List Char} {units : List Nat}
    (h : next? (c :: cs) = some (units, rest)) :
    (IsPlainAt c cs ∧ units = unitsOfPoint c.toNat ∧ rest = cs) ∨
    (c = '\\' ∧ Bounded cs (units, rest)) ∨
    (c = '\r' ∧ units = [10] ∧ rest = skipLineFeed cs) := by
  rw [next?] at h
  split at h
  · cases h
  · rename_i hinside
    rw [not_or] at hinside
    split at h
    · rename_i hc
      exact .inr (.inl ⟨hc, bounded_readEscape? h⟩)
    · rename_i hescape
      split at h
      · rename_i hc
        cases h
        exact .inr (.inr ⟨hc, rfl, rfl⟩)
      · rename_i hreturn
        cases h
        exact .inl ⟨⟨hescape, hinside.1, hreturn, hinside.2⟩, rfl, rfl⟩

theorem next?_of_isPlainAt {c : Char} {cs : List Char} (h : IsPlainAt c cs) :
    next? (c :: cs) = some (unitsOfPoint c.toNat, cs) := by
  obtain ⟨hescape, hbacktick, hreturn, hdollar⟩ := h
  simp only [next?, if_neg (not_or.mpr ⟨hbacktick, hdollar⟩), if_neg hescape, if_neg hreturn]

/-- What is read first is bounded, and reading makes progress. -/
theorem bounded_next? {cs rest : List Char} {units : List Nat}
    (h : next? cs = some (units, rest)) :
    Bounded cs (units, rest) ∧ width rest < width cs := by
  cases cs with
  | nil => cases h
  | cons c cs =>
    have hc := one_le_length_unitsOfPoint c.toNat
    have hskip := width_skipLineFeed_le cs
    simp only [Bounded, width_cons]
    rcases next?_cases h with ⟨-, rfl, rfl⟩ | ⟨-, hbounded⟩ | ⟨-, rfl, rfl⟩
    · omega
    · simp only [Bounded] at hbounded
      omega
    · rw [List.length_singleton]
      omega

/-- The code units that a text stands for, if nothing ends it before its last character and all
    its escapes have a meaning. -/
def read? (cs : List Char) : Option (List Nat) :=
  match cs with
  | [] => some []
  | c :: cs =>
    match _h : next? (c :: cs) with
    | none => none
    | some (units, rest) => (read? rest).map (units ++ ·)
termination_by width cs
decreasing_by exact (bounded_next? _h).2

theorem read?_nil : read? [] = some [] := by
  rw [read?]

theorem read?_cons (c : Char) (cs : List Char) :
    read? (c :: cs) =
      (next? (c :: cs)).bind fun first => (read? first.2).map (first.1 ++ ·) := by
  rw [read?]
  split <;> rename_i hnext
  · rw [hnext, Option.bind_none]
  · rw [hnext, Option.bind_some]

example : read? "\\x41\\u\x7b1f600\x7d\\0\\\n\r\n".toList = some [0x41, 0xD83D, 0xDE00, 0, 10] := by
  cbv

/-- A text stands for no more code units than it has. -/
theorem length_le_width_of_read? {cs : List Char} {units : List Nat} (h : read? cs = some units) :
    units.length ≤ width cs := by
  induction cs using read?.induct generalizing units with
  | case1 =>
    rw [read?_nil] at h
    cases h
    exact Nat.zero_le _
  | case2 c cs hnext =>
    rw [read?_cons, hnext] at h
    cases h
  | case3 c cs first rest hnext ih =>
    rw [read?_cons, hnext, Option.bind_some] at h
    obtain ⟨later, hlater, rfl⟩ := Option.map_eq_some_iff.mp h
    have hbounded := (bounded_next? hnext).1
    have hlength := ih hlater
    simp only [Bounded] at hbounded
    simp only [List.length_append]
    omega

theorem read?_of_isPlain {cs : List Char} (h : IsPlain cs) : read? cs = some (unitsOf cs) := by
  induction cs with
  | nil => exact read?_nil
  | cons c cs ih =>
    obtain ⟨hfirst, hrest⟩ := isPlain_cons.mp h
    rw [read?_cons, next?_of_isPlainAt hfirst, Option.bind_some, ih hrest, Option.map_some]
    rfl

theorem isPlain_of_read? {cs : List Char} (h : read? cs = some (unitsOf cs)) : IsPlain cs := by
  induction cs using read?.induct with
  | case1 => exact isPlain_nil
  | case2 c cs hnext =>
    rw [read?_cons, hnext] at h
    cases h
  | case3 c cs first rest hnext ih =>
    rw [read?_cons, hnext, Option.bind_some] at h
    obtain ⟨later, hlater, hunits⟩ := Option.map_eq_some_iff.mp h
    have hsplit : first ++ later = unitsOfPoint c.toNat ++ unitsOf cs := hunits
    rcases next?_cases hnext with ⟨hplain, rfl, rfl⟩ | ⟨-, hbounded⟩ | ⟨rfl, rfl, -⟩
    · rw [List.append_cancel_left hsplit] at hlater
      exact isPlain_cons.mpr ⟨hplain, ih hlater⟩
    · -- the backslash itself stands for nothing, so there are too few code units
      have hlength := congrArg List.length hsplit
      have hc := one_le_length_unitsOfPoint c.toNat
      have hlater := length_le_width_of_read? hlater
      simp only [Bounded, width] at hbounded
      simp only [List.length_append] at hlength
      simp only [width] at hlater
      omega
    · cases hsplit

/-- **A text reads as itself exactly if it is plain.** -/
theorem read?_eq_unitsOf_iff (cs : List Char) : read? cs = some (unitsOf cs) ↔ IsPlain cs :=
  ⟨isPlain_of_read?, read?_of_isPlain⟩

end TemplateText

open TemplateText ClassName

/-! ### Made texts -/

/-- What is written is the whole of a text, and reads as what the text means. -/
def Quasi.ReadsBack (q : Quasi) : Prop :=
  ∃ text, q.cooked = some text ∧ read? q.raw.toList = some (unitsOf text.toList)

theorem Quasi.readsBack_make_iff (text : String) (tail : Bool) :
    (Quasi.make text tail).ReadsBack ↔ IsPlain text.toList := by
  rw [← read?_eq_unitsOf_iff]
  simp [ReadsBack, make]

theorem Quasi.readsBack_of_mem_makeAll_iff {texts : List String} {q : Quasi}
    (h : q ∈ makeAll texts) : q.ReadsBack ↔ IsPlain q.raw.toList := by
  induction texts using makeAll.induct with
  | case1 => cases h
  | case2 last =>
    obtain rfl := List.mem_singleton.mp h
    exact readsBack_make_iff last true
  | case3 text texts htexts ih =>
    rw [makeAll] at h
    · rcases List.mem_cons.mp h with rfl | h
      · exact readsBack_make_iff text false
      · exact ih h
    · exact htexts

theorem ClassName.readsBack_wrapExpr_iff (x : Node) (names : String) (mode : Mode) :
    (∀ q ∈ (wrapExpr x names mode).quasis, q.ReadsBack) ↔ IsPlain names.toList := by
  have hspace : IsPlain (' ' :: names.toList) ↔ IsPlain names.toList := by
    simp [isPlain_cons, IsPlainAt]
  cases mode with
  | append =>
    simp [wrapExpr, Quasi.readsBack_make_iff, isPlain_nil, hspace]
  | prepend =>
    simp [wrapExpr, Quasi.readsBack_make_iff, isPlain_nil, isPlain_append_space]

/-- **Which made texts read back.** The texts of a made template are those that were given, and
    each of them reads as what it means exactly if it is plain. The texts that are put around an
    expression read as what they mean exactly if the class names are plain. -/
theorem made_texts_readBack_iff (texts : List String) (exprs : List Node) (e : Element)
    (x : Node) (names : String) (mode : Mode) :
    (∀ t, Template.make? texts exprs = some t →
      t.quasis.map Quasi.raw = texts ∧
      ∀ q ∈ t.quasis, (q.ReadsBack ↔ IsPlain q.raw.toList)) ∧
    (e.classExpression? = some x →
      ∃ t, (e.resolveClassName names mode).classTemplate? = some t ∧ t.exprs = [x] ∧
        ((∀ q ∈ t.quasis, q.ReadsBack) ↔ IsPlain names.toList)) := by
  constructor
  · intro t ht
    obtain ⟨-, rfl⟩ := Template.make?_eq_some_iff.mp ht
    refine ⟨Quasi.map_raw_makeAll texts, ?_⟩
    intro q hq
    exact Quasi.readsBack_of_mem_makeAll_iff hq
  · intro hx
    refine ⟨wrapExpr x names mode, ?_, exprs_wrapExpr x names mode, ?_⟩
    · exact Element.classTemplate?_resolveClassName_of_expression names mode hx
    · exact readsBack_wrapExpr_iff x names mode

/-- A dollar sign and a brace that do not stand together, on both ways to a made template. -/
theorem made_texts_readBack_iff_dollar :
    let e : Element :=
      { tag := .ident "a"
        attrs := [.attr ⟨.plain attrName, some (.braces (.ident "x"))⟩]
        selfClosing := true, children := [], closing := none }
    let price := "$1 \x7b$\x7d"
    (∃ t, Template.make? [price, ""] [.ident "x"] = some t ∧ ∀ q ∈ t.quasis, q.ReadsBack) ∧
      ∃ t, (e.resolveClassName price .prepend).classTemplate? = some t ∧
        ∀ q ∈ t.quasis, q.ReadsBack := by
  intro e price
  have hprice : IsPlain price.toList := by decide +kernel
  obtain ⟨hmade, hwrapped⟩ :=
    made_texts_readBack_iff [price, ""] [.ident "x"] e (.ident "x") price .prepend
  constructor
  · obtain ⟨hraw, hreads⟩ := hmade _ rfl
    refine ⟨_, rfl, ?_⟩
    intro q hq
    rw [hreads q hq]
    have htext : q.raw ∈ [price, ""] := by
      rw [← hraw]
      exact List.mem_map_of_mem hq
    rcases List.mem_pair.mp htext with htext | htext
    · rw [htext]
      exact hprice
    · rw [htext]
      exact isPlain_nil
  · obtain ⟨t, ht, -, hreads⟩ := hwrapped rfl
    exact ⟨t, ht, hreads.mpr hprice⟩

/-- A class name with a backslash, added to an expression: what is written then has an escape
    without a meaning. -/
theorem not_readsBack_backslash :
    let e : Element :=
      { tag := .ident "a"
        attrs := [.attr ⟨.plain attrName, some (.braces (.ident "x"))⟩]
        selfClosing := true, children := [], closing := none }
    ∃ t, (e.resolveClassName "before:content-['\\2014']" .append).classTemplate? = some t ∧
      ¬ ∀ q ∈ t.quasis, q.ReadsBack := by
  intro e
  refine ⟨_, rfl, ?_⟩
  rw [readsBack_wrapExpr_iff]
  intro hplain
  have hbackslash : '\\' ∈ "before:content-['\\2014']".toList := by simp
  exact hplain.1 hbackslash

end JsxEdit
