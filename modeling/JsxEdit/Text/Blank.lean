import JsxEdit.Text.CharRanges

/-!
  **Blanks.**

  A blank is a character with the Unicode property White_Space. Class strings are
  trimmed by it, and a text child made of blanks only is formatting, not content.
-/

namespace JsxEdit.Text

def blankRanges : CharRanges :=
  [(0x9, 0xd), (0x20, 0x20), (0x85, 0x85), (0xa0, 0xa0), (0x1680, 0x1680), (0x2000, 0x200a),
   (0x2028, 0x2029), (0x202f, 0x202f), (0x205f, 0x205f), (0x3000, 0x3000)]

def isBlank (c : Char) : Bool := blankRanges.contains c.toNat

/-- Drops the blanks at both ends. -/
def trimChars (cs : List Char) : List Char :=
  ((cs.dropWhile isBlank).reverse.dropWhile isBlank).reverse

def trim (s : String) : String := String.ofList (trimChars s.toList)

/-- Nothing but blanks. -/
def isAllBlank (s : String) : Bool := s.toList.all isBlank

end JsxEdit.Text
