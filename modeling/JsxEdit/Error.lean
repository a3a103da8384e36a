import JsxEdit.Text.Quoted

/-!
  **Failures.**

  Most operations answer a request they cannot carry out by leaving the tree as it
  is. These are the few causes a caller has to react to, and their wording.
-/

namespace JsxEdit

inductive EditError where
  | invalidAttributeName (name : String)
  /-- `shape` says what was handed over in place of a value. -/
  | unsupportedValue (name shape : String)
  | attributeNotFound (name : String)
  | invalidPattern (source : String)
  | nonLiteralExpression (label : String)
deriving DecidableEq, Repr

def EditError.message : EditError → String
  | invalidAttributeName name => "invalid attribute name: " ++ Text.quoted name
  | unsupportedValue name shape => "unsupported value for attribute `" ++ name ++ "`: " ++ shape
  | attributeNotFound name => "attribute `" ++ name ++ "` not found"
  | invalidPattern source => "invalid matcher pattern " ++ Text.quoted source
  | nonLiteralExpression label =>
    "cannot extract a string from a non-literal expression in `" ++ label ++ "`"

end JsxEdit
