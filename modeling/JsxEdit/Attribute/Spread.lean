import JsxEdit.Attribute.Edit

/-!
  **Inlining an object-valued attribute.**

  `style={{color: "red", for: x}}` becomes `color="red" htmlFor={x}`: every member
  with a plain key becomes an attribute, in order, replacing attributes of the same
  name. Two keys have another name as attributes. Computed and numeric keys, methods,
  accessors and spread members have no attribute form and are passed over, as are
  keys that are not valid attribute names.
-/

namespace JsxEdit

structure SpreadOptions where
  /-- Remove the inlined attribute afterwards. -/
  cleanup : Bool := false
deriving DecidableEq, Repr

namespace Attribute

/-- The attribute name of a property. -/
def nameOfProperty (key : String) : String :=
  match key with
  | "for" => "htmlFor"
  | "class" => "className"
  | key => key

/-- A property value as an attribute value: scalar literals as scalars, any other
    expression in braces. -/
def valueOfExpr : Node → NewValue
  | .literal (.str s) => .scalar (.str s.value)
  | .literal (.num x _) => .scalar (.num x)
  | .literal (.bool b) => .scalar (.bool b)
  | .literal .null => .scalar .null
  | e => .ofExpr e

/-- The key and the value of a member that can become an attribute. -/
def propertyOfMember? : Node → Option (String × NewValue)
  | .keyValue (.ident key) value => some (key, valueOfExpr value)
  | .keyValue (.literal (.str key)) value => some (key.value, valueOfExpr value)
  | .ident name => some (name, .ofExpr (.ident name))
  | _ => none

def ofMember? (member : Node) : Option Attr :=
  (propertyOfMember? member).bind fun (key, value) => Attr.make? (nameOfProperty key) value

/-- The members of the object literal in braces that is the value of an attribute. -/
def objectMembers : Option Attr → List Node
  | some { value := some (.braces (.object members)), .. } => members
  | _ => []

end Attribute

/-- Inlines the members of the object literal that is the value of attribute `name`. An
    attribute that is missing, or holds anything but an object literal with members,
    is left alone. -/
def Element.spreadObjectProp (e : Element) (name : String) (options : SpreadOptions) : Element :=
  match Attribute.objectMembers (Attribute.find? name e.attrs) with
  | [] => e
  | members =>
    let added := e.addAttributes (members.filterMap Attribute.ofMember? |>.map .attr) {}
    if options.cleanup then added.removeAttrs [name] else added

end JsxEdit
