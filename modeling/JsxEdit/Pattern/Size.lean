import JsxEdit.Pattern.Basic

/-!
  **How large a pattern is.**

  Repetition makes short patterns describe large machines, so a pattern is refused when
  its machine would take more than ten mebibytes. The measure is that of a machine that
  reads the bytes of the text, one state after another: every state costs the same, and
  the states that choose between several next ones pay for each choice. The machine is
  built twice, to run forwards and to run backwards, and both have to fit.

  A character outside ASCII is a sequence of bytes. A set of such characters is a tree
  of byte ranges: forwards, equal subtrees are built once; backwards, only equal
  beginnings are shared, and these only as long as a table of limited size remembers
  them. What the table forgets depends on the numbers of the states, so the backward
  machine is measured by counting its states in the order in which it is built.
-/

namespace JsxEdit

open Text

/-! ### Characters as bytes -/

abbrev ByteRange := Nat × Nat

/-- The numbers from `lo` to `hi`, written as a byte above `mark` and `more` bytes with
    six bits each: sequences of byte ranges that have these numbers as their members. -/
def byteRangesFrom (mark : Nat) : Nat → Nat → Nat → List (List ByteRange)
  | 0, lo, hi => [[(mark + lo, mark + hi)]]
  | more + 1, lo, hi =>
    let unit := Nat.pow 64 (more + 1)
    let under (first last : Nat) (rest : List (List ByteRange)) : List (List ByteRange) :=
      rest.map ((mark + first, mark + last) :: ·)
    let a := lo / unit
    let b := hi / unit
    if a = b then under a a (byteRangesFrom 0x80 more (lo % unit) (hi % unit))
    else
      let wholeFirst := lo % unit = 0
      let wholeLast := hi % unit = unit - 1
      let first := if wholeFirst then a else a + 1
      let last := if wholeLast then b + 1 else b
      (if wholeFirst then []
        else under a a (byteRangesFrom 0x80 more (lo % unit) (unit - 1))) ++
      (if first < last then under first (last - 1) (byteRangesFrom 0x80 more 0 (unit - 1))
        else []) ++
      (if wholeLast then [] else under b b (byteRangesFrom 0x80 more 0 (hi % unit)))

/-- Code points that are written with equally many bytes: the first and the last, the
    number of bytes after the leading one, and the mark of the leading one. -/
def byteBlocks : List (Nat × Nat × Nat × Nat) :=
  [(0, 0x7f, 0, 0), (0x80, 0x7ff, 1, 0xc0), (0x800, 0xd7ff, 2, 0xe0), (0xe000, 0xffff, 2, 0xe0),
   (0x10000, 0x10ffff, 3, 0xf0)]

/-- The encodings of a set of characters, in ascending order. -/
def byteSequences (set : CharRanges) : List (List ByteRange) :=
  set.flatMap fun (lo, hi) =>
    byteBlocks.flatMap fun (first, last, more, mark) =>
      if max lo first ≤ min hi last then byteRangesFrom mark more (max lo first) (min hi last)
      else []

/-- Adds a sequence that starts with `r` to sequences kept by their first ranges. -/
def insertByFirst (r : ByteRange) (tail : List ByteRange) :
    List (ByteRange × List (List ByteRange)) → List (ByteRange × List (List ByteRange))
  | [] => [(r, [tail])]
  | (r', tails) :: rest =>
    if r = r' then (r, tail :: tails) :: rest else (r', tails) :: insertByFirst r tail rest

/-- The sequences by their first ranges. -/
def byFirst (seqs : List (List ByteRange)) : List (ByteRange × List (List ByteRange)) :=
  seqs.foldr (fun seq groups =>
    match seq with
    | [] => groups
    | r :: tail => insertByFirst r tail groups) []

/-- The inner nodes of the tree of sequences, each as what may follow there with the
    number of ways on; `depth` bounds the length of the sequences. -/
def treeNodes : Nat → List (List ByteRange) → List (List (List ByteRange) × Nat)
  | 0, _ => []
  | depth + 1, seqs =>
    match byFirst seqs with
    | [] => []
    | groups => (seqs, groups.length) :: groups.flatMap fun (_, tails) => treeNodes depth tails

/-! ### Machines under construction -/

/-- One state, in bytes. -/
def stateCost : Nat := 32

/-- One of several ways on. -/
def choiceCost : Nat := 4

/-- One of several byte ranges with a way on. -/
def arrowCost : Nat := 8

def sizeLimit : Nat := 10 * Nat.pow 2 20

/-- How many states a machine has, which are numbered from zero, and what it takes. -/
structure Meter where
  states : Nat
  bytes : Nat

/-- Adds some states, and what they take beyond their number. -/
def Meter.add (m : Meter) (states extra : Nat) : Meter :=
  ⟨m.states + states, m.bytes + stateCost * states + extra⟩

/-- Builds the same part so many times, or until the limit is passed. -/
def Meter.repeated (build : Meter → Meter) : Nat → Meter → Meter
  | 0, m => m
  | n + 1, m => if sizeLimit < m.bytes then m else Meter.repeated build n (build m)

/-! ### Sets backwards

A state of the backward machine reads a byte range and goes on to another state. The
table holds states that have been built, each at a place found by hashing what it does;
a later state takes the place of an earlier one. -/

structure Step where
  range : ByteRange
  next : Nat
deriving DecidableEq

def tableSize : Nat := 1000

/-- The place of a step in the table: its 64-bit FNV-1a hash, modulo the size. -/
def Step.place (s : Step) : Nat :=
  let mix (hash : UInt64) (n : Nat) : UInt64 := (hash ^^^ n.toUInt64) * 1099511628211
  (mix (mix (mix 14695981039346656037 s.next) s.range.1) s.range.2).toNat % tableSize

structure StepTable where
  meter : Meter
  places : Array (Option (Step × Nat))

/-- Builds a state for a step. -/
def StepTable.build (t : StepTable) (s : Step) : StepTable × Nat :=
  let number := t.meter.states
  (⟨t.meter.add 1 0, t.places.setIfInBounds s.place (some (s, number))⟩, number)

/-- The state for a step, which is built if the table does not have it. -/
def StepTable.find (t : StepTable) (s : Step) : StepTable × Nat :=
  match t.places[s.place]? with
  | some (some (known, number)) => if known = s then (t, number) else t.build s
  | _ => t.build s

/-- A set backwards: a state that chooses between the sequences, one where they end, and
    the steps of each sequence. -/
def Meter.addSet (seqs : List (List ByteRange)) (m : Meter) : Meter :=
  let stop := m.states + 1
  let start : StepTable := ⟨m.add 2 (choiceCost * seqs.length), Array.replicate tableSize none⟩
  (seqs.foldl (fun table seq =>
    (seq.foldl (fun (table, next) range => table.find ⟨range, next⟩) (table, stop)).1) start).meter

/-! ### Costs -/

/-- What a part of the forward machine takes, and how the part is built backwards. -/
structure Cost where
  forward : Nat
  backward : Meter → Meter

namespace Cost

/-- Some states in both machines, and what they take beyond their number. -/
def same (states extra : Nat) : Cost := ⟨stateCost * states + extra, (·.add states extra)⟩

/-- Two parts, built in this order. -/
def andThen (a b : Cost) : Cost := ⟨a.forward + b.forward, fun m => b.backward (a.backward m)⟩

/-- The same part several times. -/
def scale (n : Nat) (a : Cost) : Cost := ⟨n * a.forward, Meter.repeated a.backward n⟩

/-- One character out of a set. Sets within ASCII are one state with an arrow for each
    range. -/
def ofSet (set : CharRanges) : Cost :=
  if set.all (fun (_, hi) => decide (hi < 128)) then same 2 (arrowCost * set.length)
  else
    let seqs := byteSequences set
    { forward := (treeNodes 4 seqs).eraseDups.foldl
        (fun cost (_, ways) => cost + (stateCost + arrowCost * ways)) stateCost
      backward := Meter.addSet seqs }

/-- Texts in their order, divided where one of them ends. -/
def divideAtEnds : List (List ByteRange) → List (List (List ByteRange))
  | [] => [[]]
  | text :: rest =>
    match text, divideAtEnds rest with
    | [], chunks => [] :: chunks
    | _ :: _, chunk :: chunks => (text :: chunk) :: chunks
    | _ :: _, [] => [[text]]

/-- A tree of texts, where the first one that matches wins. What comes after the end of
    a text is kept apart from what comes before it, and an end is one more way on. -/
def addTexts : Nat → List (List ByteRange) → Meter → Meter
  | 0, _, m => m
  | depth + 1, texts, m =>
    let chunks := divideAtEnds <|
      match texts with
      | [] :: rest => [] :: rest.dropWhile List.isEmpty
      | texts => texts
    let filled := chunks.filter (!·.isEmpty)
    filled.foldl (fun m chunk =>
      let groups := byFirst chunk
      groups.foldl (fun m (_, tails) => if tails.all List.isEmpty then m else addTexts depth tails m)
        (m.add 1 (if groups.length = 1 then 0 else arrowCost * groups.length)))
      (m.add 1 (choiceCost * (filled.length + chunks.length - 1)))

/-- One of several fixed texts, as a tree of their bytes. -/
def ofTexts (texts : List (List ByteRange)) : Cost :=
  let tree (texts : List (List ByteRange)) (m : Meter) : Meter :=
    addTexts ((texts.map List.length).foldl max 0) texts (m.add 1 0)
  ⟨(tree texts ⟨0, 0⟩).bytes, tree (texts.map List.reverse)⟩

end Cost

/-! ### Measuring a pattern

Patterns are simplified before they are measured. A pattern is a list of branches, and a
branch a list of parts that are matched one after another. -/

/-- A part of a branch. -/
structure Part where
  /-- The pattern measured, by which parts are compared. -/
  source : Pattern
  cost : Cost
  /-- The bytes of the text, if only one text matches. -/
  text : Option (List ByteRange) := none
  /-- The set, if exactly the texts of one character of a set match. -/
  set : Option CharRanges := none
  /-- Every match takes a character. -/
  takes : Bool
  /-- No match takes a character. -/
  takesNone : Bool
  /-- Matches are at the start of the text only. -/
  atStart : Bool := false
  /-- Matches are at the end of the text only. -/
  atEnd : Bool := false

/-- Texts and sets are compared as such, other parts by their patterns. -/
def Part.same (a b : Part) : Bool :=
  match a.text, b.text, a.set, b.set with
  | some s, some t, _, _ => s == t
  | none, none, some s, some t => s == t
  | none, none, none, none => a.source == b.source
  | _, _, _, _ => false

/-- One character out of a set. A set of one character is a fixed text. -/
def Part.ofSet (source : Pattern) (set : CharRanges) : Part :=
  let text : Option (List ByteRange) :=
    match set with
    | [(lo, hi)] => if lo = hi then (byteSequences set).head? else none
    | _ => none
  let cost :=
    match text with
    | some bytes => .same bytes.length 0
    | none => .ofSet set
  { source, cost, text, set := some set, takes := !set.isEmpty, takesNone := false }

/-- Parts that are matched one after another. -/
abbrev Branch := List Part

namespace Branch

/-- Backwards, the last part is built first. -/
def cost : Branch → Cost
  | [] => .same 1 0
  | [part] => part.cost
  | part :: parts => (cost parts).andThen part.cost

def takes (b : Branch) : Bool := b.any (·.takes)

def takesNone (b : Branch) : Bool := b.all (·.takesNone)

/-- An anchor may stand behind parts that take nothing. -/
def atStart : Branch → Bool
  | [] => false
  | part :: parts => part.atStart || (part.takesNone && atStart parts)

def atEnd : Branch → Bool
  | [] => false
  | part :: parts => atEnd parts || (takesNone parts && part.atEnd)

/-- Two texts one after another are one text. -/
def cons (part : Part) (b : Branch) : Branch :=
  match part.text, b with
  | some s, next :: rest =>
    match next.text with
    | some t =>
      { source := .seq part.source next.source, cost := next.cost.andThen part.cost
        text := some (s ++ t), takes := true, takesNone := false } :: rest
    | none => part :: b
  | _, _ => part :: b

/-- One after the other. -/
def append (a b : Branch) : Branch := a.foldr cons b

/-- The beginning that two branches share. -/
def shared : Branch → Branch → Branch
  | a :: as, b :: bs => if a.same b then a :: shared as bs else []
  | _, _ => []

/-- The part, if there is only one. -/
def only? : Branch → Option Part
  | [part] => some part
  | _ => none

/-- Branches of one character each are one set. -/
def uniteSets (source : Pattern) (branches : List Branch) : List Branch :=
  match branches.mapM fun b => b.only?.bind (·.set) with
  | some (set :: more) => [[.ofSet source (.unions (set :: more))]]
  | _ => branches

/-- Any one of several branches. Fixed texts become a tree; else, the states where the
    branches part and meet are built after the first two. -/
def choose (source : Pattern) (branches : List Branch) : Branch :=
  let whole (cost : Cost) : Branch :=
    [{ source, cost, takes := branches.all takes, takesNone := branches.all takesNone
       atStart := branches.all atStart, atEnd := branches.all atEnd }]
  match branches, branches.mapM fun b => b.only?.bind (·.text) with
  | [b], _ => b
  | _, some texts => whole (.ofTexts texts)
  | first :: second :: rest, none =>
    let fork := Cost.same 2 (choiceCost * branches.length)
    whole (rest.foldl (fun cost b => cost.andThen b.cost)
      ((first.cost.andThen second.cost).andThen fork))
  | [], none => []

/-- The branches of a whole alternation. Sets are united; else, what all branches begin
    with is taken out, where each has more than one part. -/
def simplify (source : Pattern) (branches : List Branch) : List Branch :=
  match uniteSets source branches with
  | first :: second :: rest =>
    let branches := first :: second :: rest
    let start :=
      if branches.all (2 ≤ ·.length) then (second :: rest).foldl shared first else []
    if start.isEmpty then branches
    else
      let ends := uniteSets source (branches.map (·.drop start.length))
      [append start (choose source ends)]
  | branches => branches

/-- An alternation as one branch. -/
def anyOf (source : Pattern) (branches : List Branch) : Branch :=
  choose source (simplify source branches)

/-- A repetition. What takes no character is repeated once at most. -/
def times (source : Pattern) (b : Branch) (least : Nat) (most : Option Nat) : Branch :=
  let least := if b.takesNone then min least 1 else least
  let most := if b.takesNone then some (min (most.getD 1) 1) else most
  let repeated (cost : Cost) : Branch :=
    [{ source, cost, takes := 0 < least && b.takes, takesNone := b.takesNone
       atStart := 0 < least && b.atStart, atEnd := 0 < least && b.atEnd }]
  let nothing := Cost.same 1 0
  let fork := Cost.same 1 (2 * choiceCost)
  match least, most with
  | 0, some 0 => []
  | 1, some 1 => b
  | 0, some 1 => repeated ((fork.andThen b.cost).andThen nothing)
  | 0, none =>
    if b.takes then repeated (fork.andThen b.cost)
    else repeated (((b.cost.andThen fork).andThen fork).andThen nothing)
  | least, none => repeated ((b.cost.scale least).andThen fork)
  | least, some most =>
    let required := if least = 0 then nothing else b.cost.scale least
    if least = most then repeated required
    else repeated ((required.andThen nothing).andThen ((fork.andThen b.cost).scale (most - least)))

/-- Groups are remembered forwards only. -/
def group (source : Pattern) (b : Branch) : Branch :=
  let cost := { b.cost with forward := b.cost.forward + 2 * stateCost }
  [{ source, cost, takes := b.takes, takesNone := b.takesNone
     atStart := b.atStart, atEnd := b.atEnd }]

end Branch

namespace Pattern

/-- The branches of a pattern. The alternation of a group that is not remembered is part
    of the one around it. -/
def branches : Pattern → List Branch
  | empty => [[]]
  | chars set => [[.ofSet (chars set) set.ranges]]
  | anchor a =>
    [[{ source := anchor a, cost := .same 1 0, takes := false, takesNone := true
        atStart := a == .textStart, atEnd := a == .textEnd }]]
  | seq p q => [(Branch.anyOf p p.branches).append (.anyOf q q.branches)]
  | alt p q => p.branches ++ q.branches
  | times p least more =>
    [(Branch.anyOf p p.branches).times (times p least more) least (more.map (least + ·))]
  | group true p => [(Branch.anyOf p p.branches).group (group true p)]
  | group false p => Branch.simplify p p.branches

/-- The states that skip to the place where a match may start, of which one is left if
    there is only one such place. -/
def skipping (anchored : Bool) : Meter :=
  (⟨0, 0⟩ : Meter).add (if anchored then 1 else 3)
    (if anchored then 0 else 2 * choiceCost + arrowCost)

/-- Do the machines of a pattern keep to the limit? Besides the pattern they have the
    states that skip and one where the match is complete; forwards, the whole match is
    remembered like a group. -/
def fits (p : Pattern) : Bool :=
  let whole := Branch.anyOf p p.branches
  let forward := (skipping whole.atStart).bytes + 2 * stateCost + whole.cost.forward + stateCost
  let backward := (whole.cost.backward (skipping whole.atEnd)).bytes + stateCost
  decide (forward ≤ sizeLimit ∧ backward ≤ sizeLimit)

end Pattern

end JsxEdit
