import JsxEdit.Pattern.Basic

/-!
  **Which names an attribute may be given.**

  Without regard to case, `^[a-z]+[\w-]*\w$`: a letter, then word characters and
  minus signs, and a word character at the end. Attributes that come with the source
  are never checked; only those that the library makes are.
-/

namespace JsxEdit.Attribute

def namePattern : Pattern :=
  .ofList [.anchor .textStart,
    .plus (.chars (.folded (.range 'a' 'z'))),
    .star (.chars (.folded (.union .word (.single '-')))),
    .chars .word,
    .anchor .textEnd]

def isValidName (name : String) : Bool := name != "" && namePattern.occursIn name

end JsxEdit.Attribute
