import JsxEdit.Attribute.Name
import JsxEdit.Error
import JsxEdit.Make

/-!
  **New attributes and the values they are given.**

  A caller hands over a scalar, `undefined`, a template, a finished value node, or
  something that cannot be written as an attribute value. The value `true` is written
  by leaving the value out, also when it comes as the node `{true}`.

  The value of an attribute that is already there can be replaced by a scalar or a finished node
  only (`NewValue.replacement?`); what is written is then the same (`NewValue.replacement?_eq`).

  `Attr.make?` declines a name that is not valid and leaves out a value it cannot
  write; `Attr.makeStrict` reports both, the name first.
-/

namespace JsxEdit

inductive NewValue where
  | scalar (s : Scalar)
  | undefined
  | template (t : Template)
  | node (n : Node)
  /-- `shape` says what was handed over. -/
  | unsupported (shape : String)

/-- Data of the caller's as an attribute value. -/
def NewValue.ofValue : Value → NewValue
  | .null => scalar .null
  | .bool b => scalar (.bool b)
  | .num x => scalar (.num x)
  | .str s => scalar (.str s)
  | .arr _ => unsupported "array"
  | .obj _ => unsupported "object"

/-- An expression as an attribute value: it stands in braces. -/
def NewValue.ofExpr (e : Node) : NewValue := node (.braces e)

/-- Numbers without a literal of their own, the infinities and NaN, become null. -/
def Scalar.writable : Scalar → Scalar
  | num x => if x.isFinite then num x else null
  | s => s

/-- `{true}` -/
def Node.isTrueBraces : Node → Bool
  | .braces (.literal (.bool true)) => true
  | _ => false

/-- The node of a new value; `none` leaves the value out. -/
def NewValue.toNode? : NewValue → Option Node
  | scalar (.bool true) => none
  | scalar s => some s.writable.toNode
  | undefined => some .undefined
  | template t => some (.braces (.template t))
  | node n => if n.isTrueBraces then none else some n
  | unsupported _ => none

theorem NewValue.not_isTrueBraces_toNode? (value : NewValue) :
    value.toNode?.any Node.isTrueBraces = false := by
  cases value with
  | scalar s =>
    cases s with
    | null => rfl
    | bool b => cases b <;> rfl
    | num x =>
      simp only [toNode?, Scalar.writable]
      split <;> rfl
    | str s => rfl
  | undefined => rfl
  | template t => rfl
  | node n =>
    simp only [toNode?]
    split
    · rfl
    · rename_i h
      rw [Option.any_some, Bool.eq_false_iff]
      exact h
  | unsupported shape => rfl

/-- `name={value}`, if the name is valid. -/
def Attr.make? (name : String) (value : NewValue) : Option Attr :=
  if Attribute.isValidName name then some { name := .plain name, value := value.toNode? } else none

def Attr.makeStrict (name : String) (value : NewValue) : Except EditError Attr :=
  match Attr.make? name value, value with
  | none, _ => .error (.invalidAttributeName name)
  | some _, .unsupported shape => .error (.unsupportedValue name shape)
  | some a, _ => .ok a

/-! ### Values that take the place of another -/

/-- The values that may take the place of another: scalars and finished nodes. -/
def NewValue.isReady : NewValue → Bool
  | scalar _ => true
  | node _ => true
  | _ => false

/-- What takes the place of another value: `some none` leaves the value out, and `none` lets the
    old one stand. A finished node is handed over as it is, `{true}` too. -/
def NewValue.replacement? : NewValue → Option (Option Node)
  | scalar (.bool true) => some none
  | scalar s => (Value.ofScalar s.writable).toNode?.map some
  | node n => some (some n)
  | undefined => none
  | template _ => none
  | unsupported _ => none

/-- Every scalar has a literal, so none of them is turned down. -/
theorem NewValue.replacement?_scalar (s : Scalar) :
    (scalar s).replacement? = some (scalar s).toNode? := by
  cases s with
  | null => rfl
  | bool b => cases b <;> rfl
  | num x => simp only [replacement?, Value.toNode?_ofScalar, Option.map_some, toNode?]
  | str s => rfl

/-- Once `{true}` is left out, a replacement is the node of the value. -/
theorem NewValue.replacement?_eq (value : NewValue) :
    value.replacement?.map (·.filter fun n => !n.isTrueBraces) =
      if value.isReady then some value.toNode? else none := by
  cases value with
  | scalar s =>
    have hkept : (scalar s).toNode?.filter (fun n => !n.isTrueBraces) = (scalar s).toNode? := by
      have hfalse := (scalar s).not_isTrueBraces_toNode?
      cases hnode : (scalar s).toNode? with
      | none => rfl
      | some n =>
        rw [hnode, Option.any_some] at hfalse
        rw [Option.filter_some, hfalse]
        rfl
    rw [replacement?_scalar, Option.map_some, hkept]
    rfl
  | node n =>
    rw [replacement?, Option.map_some, Option.filter_some, toNode?]
    cases n.isTrueBraces <;> rfl
  | undefined => rfl
  | template t => rfl
  | unsupported shape => rfl

end JsxEdit
