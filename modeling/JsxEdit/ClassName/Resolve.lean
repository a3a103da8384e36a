import JsxEdit.ClassName.Basic

/-!
  **Adding class names to an element.**

  1. `className="old"` becomes `className="old new"`, and so does `className={"old"}`;
  2. `` className={`old ${x}`} `` becomes `` className={`old ${x} new`} ``;
  3. `className={cx("old", y)}` becomes `className={cx("old", y, "new")}`;
  4. `className={style.old}` becomes `` className={`${style.old} new`} ``.

  Only the first `className` is touched. An element without one gets one.
-/

namespace JsxEdit

namespace ClassName

/-- Two class strings with a space between them, in the order that `mode` asks for. -/
def merge (existing new : String) : Mode → String
  | .append => Text.trim (existing ++ " " ++ new)
  | .prepend => Text.trim (new ++ " " ++ existing)

/-- The class string that a literal stands for. -/
def literalText : Literal → String
  | .str s => s.value
  | .num x _ => Number.text x
  | _ => ""

/-- Extends the last text of a template. The written form is extended, and the result
    is taken for the meaning as well. -/
def appendToLast (names : String) : List Quasi → List Quasi
  | [] => []
  | [q] => [.make (q.raw ++ " " ++ names) true]
  | q :: rest => q :: appendToLast names rest

def prependToFirst (names : String) : List Quasi → List Quasi
  | [] => []
  | q :: rest => .make (names ++ " " ++ q.raw) q.tail :: rest

def extendTemplate (t : Template) (names : String) : Mode → Template
  | .append => { t with quasis := appendToLast names t.quasis }
  | .prepend => { t with quasis := prependToFirst names t.quasis }

def extendArgs (args : List Node) (names : String) : Mode → List Node
  | .append => args ++ [.literal (.ofString names)]
  | .prepend => .literal (.ofString names) :: args

/-- A template around an expression. -/
def wrapExpr (e : Node) (names : String) : Mode → Template
  | .append => { exprs := [e], quasis := [.make "" false, .make (" " ++ names) true] }
  | .prepend => { exprs := [e], quasis := [.make (names ++ " ") false, .make "" true] }

/-- An attribute of the given form, with more class names. -/
def extend (names : String) (mode : Mode) (form : Form) (value : Option Node) : Option Node :=
  match form, value with
  | .literal, some (.literal l) => some (.literal (.ofString (merge (literalText l) names mode)))
  | .literalExpression, some (.braces (.literal l)) =>
    some (.literal (.ofString (merge (literalText l) names mode)))
  | .templateLiteral, some (.braces (.template t)) =>
    some (.braces (.template (extendTemplate t names mode)))
  | .classNamesCall, some (.braces (.call callee args)) =>
    some (.braces (.call callee (extendArgs args names mode)))
  | .expression, some (.braces e) => some (.braces (.template (wrapExpr e names mode)))
  | _, value => value

end ClassName

open ClassName

/-- Extends the value of an attribute by class names. -/
def AttrEntry.extendClassName (names : String) (mode : Mode) : AttrEntry → AttrEntry
  | .attr a => .attr { a with value := extend names mode a.classNameForm a.value }
  | .spread inner => .spread inner

/-- Merges class names into the `className` of an element. -/
def Element.resolveClassName (e : Element) (names : String) (mode : Mode) : Element :=
  match e.classNameForm with
  | .absent =>
    if names = "" then e
    else { e with attrs := e.attrs ++ (Attr.make? attrName (.scalar (.str names))).toList.map .attr }
  | _ => { e with attrs := Attribute.updateFirst attrName (·.extendClassName names mode) e.attrs }

end JsxEdit
