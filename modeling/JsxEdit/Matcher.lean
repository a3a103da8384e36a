import JsxEdit.Error
import JsxEdit.Pattern.Parse

/-!
  **Matchers: which names and paths are meant.**

  An exact text, the texts with some property, or anything at all. The property is any predicate
  on texts; that of a pattern read from its source is to have an occurrence somewhere.
-/

namespace JsxEdit

inductive Matcher where
  | exact (text : String)
  | pattern (holds : String → Bool)
  | any

namespace Matcher

/-- A text given by a caller; the empty text asks for nothing in particular. -/
def ofText (text : String) : Matcher := if text = "" then any else exact text

/-- The matcher of a pattern, read from its source. -/
def ofPattern (source : String) : Except EditError Matcher :=
  match Pattern.parse? source with
  | some p => .ok (pattern p.occursIn)
  | none => .error (.invalidPattern source)

def isAny : Matcher → Bool
  | any => true
  | _ => false

/-- The text of an exact matcher. -/
def exactText? : Matcher → Option String
  | exact text => some text
  | _ => none

def accepts : Matcher → String → Bool
  | exact text, input => text == input
  | pattern holds, input => holds input
  | any, _ => true

/-- Like `accepts`, except that a missing or empty input is never accepted, not even
    by `any`. -/
def acceptsName (m : Matcher) (input : Option String) : Bool :=
  match input with
  | some name => name != "" && m.accepts name
  | none => false

end Matcher

end JsxEdit
