import JsxEdit.Attribute.Edit
import JsxEdit.Number.Text
import JsxEdit.Text.Blank

/-!
  **The ways `className` is written.**

  A class string may stand bare, in braces, in a template, among the arguments of a
  helper call, or come from any other expression. The form decides how more class
  names are added, so that the element keeps the way it is written.
-/

namespace JsxEdit

namespace ClassName

/-- At which end new class names go. -/
inductive Mode where
  | append
  | prepend
deriving DecidableEq, Repr, Inhabited

inductive Form where
  | absent
  /-- `className="a"` -/
  | literal
  /-- `className={"a"}` or `className={5}` -/
  | literalExpression
  /-- `` className={`a ${b}`} `` -/
  | templateLiteral
  /-- `className={cx(…)}` -/
  | classNamesCall
  /-- `className={style.a}` -/
  | expression
  /-- No value, the empty string, `{}` or markup. Never changed. -/
  | unrecognized
deriving DecidableEq, Repr

def attrName : String := "className"

/-- Functions that join class names given as arguments. -/
def helpers : List String := ["classnames", "cx"]

end ClassName

/-! ### Questions about the value of an attribute -/

namespace Attr

open ClassName

/-- The expression of a value in braces. -/
def braced? (a : Attr) : Option Node :=
  match a.value with
  | some (.braces e) => some e
  | _ => none

def isLiteralClassName (a : Attr) : Bool :=
  match a.value with
  | some (.literal (.str s)) => s.value != ""
  | _ => false

/-- A non-empty string or a number other than zero and NaN, in braces. -/
def isLiteralExpression (a : Attr) : Bool :=
  match a.braced? with
  | some (.literal (.str s)) => s.value != ""
  | some (.literal (.num x _)) => !x.isZero && !x.isNaN
  | _ => false

def isTemplateLiteralExpression (a : Attr) : Bool :=
  match a.braced? with
  | some (.template t) => !t.quasis.isEmpty
  | _ => false

def isClassNamesCall (a : Attr) : Bool :=
  match a.braced? with
  | some (.call (.ident name) _) => helpers.contains name
  | _ => false

def isClassNameExpression (a : Attr) : Bool := a.braced?.isSome

/-- A class of a style sheet module: `style.foo` or `styles.foo`. -/
def isCssModule (a : Attr) : Bool :=
  match a.braced? with
  | some (.member (.ident object) (.ident _)) => object == "style" || object == "styles"
  | _ => false

def classNameForm (a : Attr) : Form :=
  if a.isLiteralClassName then .literal
  else if a.isLiteralExpression then .literalExpression
  else if a.isTemplateLiteralExpression then .templateLiteral
  else if a.isClassNamesCall then .classNamesCall
  else if a.isClassNameExpression then .expression
  else .unrecognized

end Attr

/-- How the first `className` of an element is written. -/
def Element.classNameForm (e : Element) : ClassName.Form :=
  match Attribute.find? ClassName.attrName e.attrs with
  | none => .absent
  | some a => a.classNameForm

end JsxEdit
