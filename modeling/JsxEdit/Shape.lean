import JsxEdit.Syntax.Module

/-!
  **What a piece of syntax is.**

  Questions such as "is this an element?" are asked of nodes, attributes, specifiers
  and module items alike, and of a place where nothing stands. `Shape` is the common
  answer, with the parts that some questions go on to ask about. Parentheses and
  expression statements are transparent: `(f(x));` has the shape of `f(x)`.
-/

namespace JsxEdit

inductive Shape where
  | element (e : Element)
  | fragment
  | openingElement
  | closingElement
  | attribute
  | spreadAttribute
  | identifier (name : String)
  | literal (l : Literal)
  | expressionContainer
  | templateLiteral
  | templateElement
  | callExpression (callee : Node) (args : List Node)
  | memberExpression
  | objectExpression
  | property
  | importDeclaration (i : Import)
  | importSpecifier (s : Specifier)
  | text
  | variableDeclaration
  | returnStatement
  | arrowFunction
  | functionDeclaration
  /-- A piece of syntax of no interest here. -/
  | other
  /-- Nothing at all. -/
  | missing

/-! ### Shapes of the parts of a tree -/

def Node.shape : Node → Shape
  | .ident name => .identifier name
  | .literal l => .literal l
  | .template _ => .templateLiteral
  | .call callee args => .callExpression callee args
  | .member .. => .memberExpression
  | .object _ => .objectExpression
  | .paren inner => inner.shape
  | .element e => .element e
  | .fragment _ => .fragment
  | .braces _ => .expressionContainer
  | .emptyBraces => .expressionContainer
  | .text .. => .text
  | .absent => .missing
  | .other .expressionStatement _ [inner] => inner.shape
  | .other .arrowFunction .. => .arrowFunction
  | .other .returnStatement .. => .returnStatement
  | .other .variableDeclaration .. => .variableDeclaration
  | .other .functionDeclaration .. => .functionDeclaration
  | _ => .other

def AttrEntry.shape : AttrEntry → Shape
  | .attr _ => .attribute
  | .spread _ => .spreadAttribute

def Item.shape : Item → Shape
  | .importing i => .importDeclaration i
  | .node n => n.shape

namespace Shape

/-! ### Questions -/

def isElement : Shape → Bool
  | element _ => true
  | _ => false

/-- An element of the markup language itself: its tag starts with a small letter. -/
def isHtmlElement : Shape → Bool
  | element e => (e.name?.bind (·.toList.head?)).any Char.isLower
  | _ => false

def isFragment : Shape → Bool
  | fragment => true
  | _ => false

def isAttribute : Shape → Bool
  | .attribute => true
  | _ => false

def isText : Shape → Bool
  | text => true
  | _ => false

def isLiteral : Shape → Bool
  | literal _ => true
  | _ => false

def isTemplateLiteral : Shape → Bool
  | templateLiteral => true
  | _ => false

/-- An expression in braces. -/
def isExpression : Shape → Bool
  | expressionContainer => true
  | _ => false

def isArrow : Shape → Bool
  | arrowFunction => true
  | _ => false

def isObject : Shape → Bool
  | objectExpression => true
  | _ => false

def isImport : Shape → Bool
  | importDeclaration _ => true
  | _ => false

def isFunction : Shape → Bool
  | functionDeclaration => true
  | _ => false

def isReturn : Shape → Bool
  | returnStatement => true
  | _ => false

def isVariableDeclaration : Shape → Bool
  | variableDeclaration => true
  | _ => false

/-- A default or named specifier, but not `* as x`. -/
def isValidImportSpecifier : Shape → Bool
  | importSpecifier (.defaultAs _) => true
  | importSpecifier (.named ..) => true
  | _ => false

/-- The name of the function, for a call of a plain identifier. -/
def calleeName? : Shape → Option String
  | callExpression (.ident name) _ => some name
  | _ => none

def isFunctionCall (s : Shape) : Bool := s.calleeName?.isSome

def isCallOf (s : Shape) (name : String) : Bool := s.calleeName? == some name

/-- Can it be the value of an attribute as it stands? -/
def isValidAttrValue : Shape → Bool
  | missing => true
  | arrowFunction => true
  | literal _ => true
  | expressionContainer => true
  | _ => false

end Shape

end JsxEdit
