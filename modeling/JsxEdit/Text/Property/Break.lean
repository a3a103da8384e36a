import JsxEdit.Text.Property.Binary
import JsxEdit.Text.Property.Script

/-!
  **Where text may be broken.**

  Three properties say what a character is to the rules that divide a text into the
  characters a reader sees, into words and into sentences. Their values are derived
  from the categories, scripts and other properties, as the standard defines them.
-/

namespace JsxEdit.Text

/-- The value under one of the names that go with it. -/
def valueNamed (values : List (List String × (Unit → CharRanges))) (name : String) :
    Option CharRanges :=
  (values.find? (·.1.contains name)).map (·.2 ())

def scriptRanges (name : String) : CharRanges := (script? name).getD []

/-! ### Characters as readers see them -/

def clusterExtendRanges : CharRanges := graphemeExtendRanges.union (listed "emod")

def clusterControlRanges : CharRanges :=
  (CharRanges.unions [inCategories ["zl", "zp", "cc", "cf"],
    unassignedRanges.inter (listed "di")]).diff
    (.unions [.ofText "a d 200c-200d", listed "pcm", graphemeExtendRanges])

def clusterSpacingRanges : CharRanges :=
  (CharRanges.unions [inCategories ["mc"], .ofText "e33 eb3"]).diff
    (.unions [clusterExtendRanges, .ofText "102b-102c 1038 1062-1064 1067-106d 1083 1087-108c 108f
      109a-109c 1a61 1a63-1a64 aa7b aa7d 11720-11721"])

/-- The Hangul syllables without a final consonant: every twenty-eighth. -/
def openSyllableRanges : CharRanges :=
  (List.range 399).map fun i => (0xac00 + 28 * i, 0xac00 + 28 * i)

def graphemeBreak? : String → Option CharRanges :=
  valueNamed
    [(["cr"], fun _ => .ofText "d"),
     (["lf"], fun _ => .ofText "a"),
     (["cn", "control"], fun _ => clusterControlRanges),
     (["ex", "extend"], fun _ => clusterExtendRanges),
     (["zwj"], fun _ => .ofText "200d"),
     (["ri", "regionalindicator"], fun _ => listed "ri"),
     (["pp", "prepend"], fun _ =>
       (listed "pcm").union (.ofText "d4e 111c2-111c3 113d1 1193f 11941 11a3a 11a84-11a89 11d46
         11f02")),
     (["sm", "spacingmark"], fun _ => clusterSpacingRanges),
     (["l"], fun _ => .ofText "1100-115f a960-a97c"),
     (["v"], fun _ => .ofText "1160-11a7 d7b0-d7c6 16d63 16d67-16d6a"),
     (["t"], fun _ => .ofText "11a8-11ff d7cb-d7fb"),
     (["lv"], fun _ => openSyllableRanges),
     (["lvt"], fun _ => CharRanges.diff [(0xac00, 0xd7a3)] openSyllableRanges)]

/-! ### Words -/

/-- Signs that stand before a number and belong to it. -/
def numberSignRanges : CharRanges := .ofText "600-605 6dd 890-891 8e2 110bd 110cd"

def wordExtendRanges : CharRanges :=
  .unions [graphemeExtendRanges, inCategories ["mc"], listed "emod"]

def wordFormatRanges : CharRanges :=
  (inCategories ["cf"]).diff
    (.unions [.ofText "200b-200d", listed "pcm", graphemeExtendRanges])

def katakanaRanges : CharRanges :=
  (scriptRanges "kana").union (.ofText "3031-3035 309b-309c 30a0 30fc ff70")

def hebrewLetterRanges : CharRanges := (scriptRanges "hebr").inter (inCategories ["lo"])

/-- The letters of scripts that put no spaces between words. -/
def unspacedLetterRanges : CharRanges :=
  (CharRanges.unions (["thai", "laoo", "mymr", "khmr", "tale", "talu", "lana", "tavt", "ahom"].map
    scriptRanges)).inter (inCategories ["lo", "lm"])

def wordLetterRanges : CharRanges :=
  (CharRanges.unions [alphabeticRanges, .ofText "2c2-2c5 2d2-2d7 2de-2df 2e5-2eb 2ed 2ef-2ff
      55a-55c 55e 58a 5f3 70f a708-a716 a720-a721 a789-a78a ab5b"]).diff
    (.unions [listed "ideo", katakanaRanges, unspacedLetterRanges, scriptRanges "hira",
      wordExtendRanges, hebrewLetterRanges])

def wordBreak? : String → Option CharRanges :=
  valueNamed
    [(["cr"], fun _ => .ofText "d"),
     (["lf"], fun _ => .ofText "a"),
     (["nl", "newline"], fun _ => .ofText "b-c 85 2028-2029"),
     (["extend"], fun _ => wordExtendRanges),
     (["zwj"], fun _ => .ofText "200d"),
     (["ri", "regionalindicator"], fun _ => listed "ri"),
     (["fo", "format"], fun _ => wordFormatRanges),
     (["ka", "katakana"], fun _ => katakanaRanges),
     (["hl", "hebrewletter"], fun _ => hebrewLetterRanges),
     (["le", "aletter"], fun _ => wordLetterRanges),
     (["sq", "singlequote"], fun _ => .ofText "27"),
     (["dq", "doublequote"], fun _ => .ofText "22"),
     (["mb", "midnumlet"], fun _ => .ofText "2e 2018-2019 2024 fe52 ff07 ff0e"),
     (["ml", "midletter"], fun _ => .ofText "3a b7 387 55f 5f4 2027 fe13 fe55 ff1a"),
     (["mn", "midnum"], fun _ =>
       .ofText "2c 3b 37e 589 60c-60d 66c 7f8 2044 fe10 fe14 fe50 fe54 ff0c ff1b"),
     (["nu", "numeric"], fun _ =>
       .unions [inCategories ["nd"], .ofText "66b", numberSignRanges]),
     (["ex", "extendnumlet"], fun _ => (inCategories ["pc"]).union (.ofText "202f")),
     (["wsegspace"], fun _ => .ofText "20 1680 2000-2006 2008-200a 205f 3000")]

/-! ### Sentences -/

def sentenceExtendRanges : CharRanges :=
  .unions [graphemeExtendRanges, inCategories ["mc"], .ofText "200d"]

def sentenceLowerRanges : CharRanges :=
  lowercaseRanges.diff (graphemeExtendRanges.union (.ofText "10d0-10fa 10fd-10ff"))

def sentenceUpperRanges : CharRanges :=
  (uppercaseRanges.union (inCategories ["lt"])).diff (.ofText "1c90-1cba 1cbd-1cbf")

def sentenceLetterRanges : CharRanges :=
  (alphabeticRanges.union (.ofText "5f3 70f")).diff
    (.unions [sentenceLowerRanges, sentenceUpperRanges, sentenceExtendRanges])

def sentenceDotRanges : CharRanges := .ofText "2e 2024 fe52 ff0e"

def sentenceEndRanges : CharRanges := (listed "sterm").diff sentenceDotRanges

def sentenceBreak? : String → Option CharRanges :=
  valueNamed
    [(["cr"], fun _ => .ofText "d"),
     (["lf"], fun _ => .ofText "a"),
     (["se", "sep"], fun _ => .ofText "85 2028-2029"),
     (["sp"], fun _ => (listed "wspace").diff (.ofText "a d 85 2028-2029")),
     (["ex", "extend"], fun _ => sentenceExtendRanges),
     (["fo", "format"], fun _ =>
       (inCategories ["cf"]).diff
         (.unions [.ofText "200c-200d", listed "pcm", graphemeExtendRanges])),
     (["lo", "lower"], fun _ => sentenceLowerRanges),
     (["up", "upper"], fun _ => sentenceUpperRanges),
     (["le", "oletter"], fun _ => sentenceLetterRanges),
     (["nu", "numeric"], fun _ =>
       .unions [inCategories ["nd"], .ofText "66b-66c", numberSignRanges]),
     (["at", "aterm"], fun _ => sentenceDotRanges),
     (["sc", "scontinue"], fun _ =>
       .ofText "2c-2d 3a 55d 60c-60d 7f8 1802 1808 2013-2014 3001 fe10-fe11 fe13 fe31-fe32
         fe50-fe51 fe55 fe58 fe63 ff0c-ff0d ff1a ff64"),
     (["st", "sterm"], fun _ => sentenceEndRanges),
     (["cl", "close"], fun _ =>
       (CharRanges.unions [inCategories ["ps", "pe", "pi", "pf"], .ofText "22 27 275b-2760
         2e00-2e0d 2e1c-2e1d 2e20-2e21 1f676-1f678"]).diff sentenceEndRanges)]

end JsxEdit.Text
