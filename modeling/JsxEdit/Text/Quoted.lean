import JsxEdit.Text.Hidden

/-!
  **Quoted text, as error messages show it.**

  Text stands between double quotes. A quote, a backslash and the usual controls
  have two-character escapes; every other character that does not show by itself is
  written by its code point in lower-case hexadecimal, `\u{301}`. An apostrophe
  needs no escape.
-/

namespace JsxEdit.Text

/-- How one character stands inside quotes. -/
def quotedChar (c : Char) : List Char :=
  match c with
  | '"' => ['\\', '"']
  | '\\' => ['\\', '\\']
  | '\n' => ['\\', 'n']
  | '\r' => ['\\', 'r']
  | '\t' => ['\\', 't']
  | '\x00' => ['\\', '0']
  | c =>
    if isHidden c then
      ['\\', 'u', Char.ofNat 0x7b] ++ Nat.toDigits 16 c.toNat ++ [Char.ofNat 0x7d]
    else [c]

def quoted (s : String) : String :=
  String.ofList ('"' :: s.toList.flatMap quotedChar ++ ['"'])

end JsxEdit.Text
