import JsxEdit.Syntax.Node
import JsxEdit.Value
import JsxEdit.Error

/-!
  **Reading the value of an attribute back.**

  A missing value reads as `true`. Scalar literals read as scalars, bare or in braces;
  any other expression in braces reads as itself, except that `{undefined}`, like
  `{}` and markup, reads as nothing.
-/

namespace JsxEdit

inductive Reading where
  | scalar (s : Scalar)
  | expr (e : Node)

def Literal.scalar? : Literal → Option Scalar
  | str s => some (.str s.value)
  | num x _ => some (.num x)
  | bool b => some (.bool b)
  | null => some .null
  | _ => none

namespace Attr

def read (a : Attr) : Option Reading :=
  match a.value with
  | none => some (.scalar (.bool true))
  | some (.literal l) => l.scalar?.map .scalar
  | some (.braces (.ident name)) => if name = "undefined" then none else some (.expr (.ident name))
  | some (.braces (.literal l)) =>
    match l.scalar? with
    | some s => some (.scalar s)
    | none => some (.expr (.literal l))
  | some (.braces e) => some (.expr e)
  | some _ => none

/-- The string of `name="x"` or `name={"x"}`. Anything else in braces is an error:
    a computed value is for the caller to deal with. -/
def readString (a : Attr) : Except EditError (Option String) :=
  match a.value with
  | some (.literal (.str s)) => .ok (some s.value)
  | some (.braces (.literal (.str s))) => .ok (some s.value)
  | some (.braces _) => .error (.nonLiteralExpression a.name.label)
  | some .emptyBraces => .error (.nonLiteralExpression a.name.label)
  | _ => .ok none

end Attr

end JsxEdit
