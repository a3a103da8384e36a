import JsxEdit.Number.Binary64

/-!
  **Plain data handed over by a caller.**

  A `Value` is null, a Boolean, a number, a string, a list or a record of values: the
  form in which options and attribute values arrive from outside. The first four are
  the scalars, which have a form in the tree; lists and records have none.
-/

namespace JsxEdit

inductive Scalar where
  | null
  | bool (b : Bool)
  | num (x : Binary64)
  | str (s : String)
deriving DecidableEq, Repr, Inhabited

inductive Value where
  | null
  | bool (b : Bool)
  | num (x : Binary64)
  | str (s : String)
  | arr (items : List Value)
  | obj (fields : List (String × Value))
deriving Inhabited

namespace Value

def scalar? : Value → Option Scalar
  | null => some .null
  | bool b => some (.bool b)
  | num x => some (.num x)
  | str s => some (.str s)
  | arr _ => none
  | obj _ => none

def ofScalar : Scalar → Value
  | .null => null
  | .bool b => bool b
  | .num x => num x
  | .str s => str s

def isScalar (v : Value) : Bool := v.scalar?.isSome

def isNonemptyString : Value → Bool
  | str s => s != ""
  | _ => false

end Value

end JsxEdit
