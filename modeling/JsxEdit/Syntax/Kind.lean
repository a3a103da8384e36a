/-!
  **Kinds of nodes that the library only walks through.**

  Most of the syntax (statements, patterns, classes, operators) is of no interest to
  an edit except that elements and calls may stand inside it. Such a node is its
  kind, a few details that are carried along unchanged, and its parts. `Kind.fields`
  names the parts in the order in which a walk visits them; that is mostly the order
  of the source text, but a class is visited body first and heritage second, and a
  `do` loop test first and body second.

  The syntax is that of programs without types. What TypeScript adds has no kind: type annotations
  and type arguments, which no walk enters, and the forms that come with them, such as `x as T`,
  `x!`, `enum` and `interface`, which no tree here contains.
-/

namespace JsxEdit

inductive Kind where
  | arrayExpression
  | arrayPattern
  | arrowFunction
  | assignment
  | assignmentPattern
  | assignmentPatternProperty
  | awaitExpression
  | binary
  | block
  | breakStatement
  | catchClause
  | classDeclaration
  | classExpression
  | classMethod
  | classProperty
  | computed
  | conditional
  | constructorMember
  | continueStatement
  | debuggerStatement
  | decorator
  | doWhileLoop
  | emptyStatement
  | exportAll
  | exportDeclaration
  | exportDefaultDeclaration
  | exportDefaultExpression
  | exportDefaultSpecifier
  | exportNamed
  | exportNamespaceSpecifier
  | exportSpecifier
  | expressionStatement
  | forInLoop
  | forOfLoop
  | forLoop
  /-- Parameters and body of a class method, a record without a type of its own. -/
  | functionBody
  | functionDeclaration
  | functionExpression
  | getter
  | ifStatement
  | importKeyword
  | invalid
  | keyValuePattern
  | labeled
  | metaProperty
  | method
  | newExpression
  | objectPattern
  /-- The call of `f?.(x)`: part of its optional chain, and no expression by itself. -/
  | optionalCall
  | optionalChaining
  | parameter
  | privateMethod
  | privateName
  | privateProperty
  | restElement
  | returnStatement
  | sequence
  | setter
  | spreadChild
  | staticBlock
  | superKeyword
  | superProperty
  | switchStatement
  | switchCase
  | taggedTemplate
  | thisKeyword
  | throwStatement
  | tryStatement
  | unary
  | update
  | variableDeclaration
  | variableDeclarator
  | whileLoop
  | withStatement
  | yieldExpression
deriving DecidableEq, Repr, Inhabited

namespace Kind

def all : List Kind :=
  [.arrayExpression, .arrayPattern, .arrowFunction, .assignment, .assignmentPattern,
   .assignmentPatternProperty, .awaitExpression, .binary, .block, .breakStatement, .catchClause,
   .classDeclaration, .classExpression, .classMethod, .classProperty, .computed, .conditional,
   .constructorMember, .continueStatement, .debuggerStatement, .decorator, .doWhileLoop,
   .emptyStatement, .exportAll, .exportDeclaration, .exportDefaultDeclaration,
   .exportDefaultExpression, .exportDefaultSpecifier, .exportNamed, .exportNamespaceSpecifier,
   .exportSpecifier, .expressionStatement, .forInLoop, .forOfLoop, .forLoop, .functionBody,
   .functionDeclaration, .functionExpression, .getter, .ifStatement, .importKeyword, .invalid,
   .keyValuePattern, .labeled, .metaProperty, .method, .newExpression, .objectPattern,
   .optionalCall, .optionalChaining, .parameter, .privateMethod, .privateName, .privateProperty,
   .restElement, .returnStatement, .sequence, .setter, .spreadChild, .staticBlock, .superKeyword,
   .superProperty, .switchStatement, .switchCase, .taggedTemplate, .thisKeyword, .throwStatement,
   .tryStatement, .unary, .update, .variableDeclaration, .variableDeclarator, .whileLoop,
   .withStatement, .yieldExpression]

/-- The name of the kind in the interchange form of trees; a record has none. -/
def typeName? : Kind → Option String
  | arrayExpression => some "ArrayExpression"
  | arrayPattern => some "ArrayPattern"
  | arrowFunction => some "ArrowFunctionExpression"
  | assignment => some "AssignmentExpression"
  | assignmentPattern => some "AssignmentPattern"
  | assignmentPatternProperty => some "AssignmentPatternProperty"
  | awaitExpression => some "AwaitExpression"
  | binary => some "BinaryExpression"
  | block => some "BlockStatement"
  | breakStatement => some "BreakStatement"
  | catchClause => some "CatchClause"
  | classDeclaration => some "ClassDeclaration"
  | classExpression => some "ClassExpression"
  | classMethod => some "ClassMethod"
  | classProperty => some "ClassProperty"
  | computed => some "Computed"
  | conditional => some "ConditionalExpression"
  | constructorMember => some "Constructor"
  | continueStatement => some "ContinueStatement"
  | debuggerStatement => some "DebuggerStatement"
  | decorator => some "Decorator"
  | doWhileLoop => some "DoWhileStatement"
  | emptyStatement => some "EmptyStatement"
  | exportAll => some "ExportAllDeclaration"
  | exportDeclaration => some "ExportDeclaration"
  | exportDefaultDeclaration => some "ExportDefaultDeclaration"
  | exportDefaultExpression => some "ExportDefaultExpression"
  | exportDefaultSpecifier => some "ExportDefaultSpecifier"
  | exportNamed => some "ExportNamedDeclaration"
  | exportNamespaceSpecifier => some "ExportNamespaceSpecifier"
  | exportSpecifier => some "ExportSpecifier"
  | expressionStatement => some "ExpressionStatement"
  | forInLoop => some "ForInStatement"
  | forOfLoop => some "ForOfStatement"
  | forLoop => some "ForStatement"
  | functionBody => none
  | functionDeclaration => some "FunctionDeclaration"
  | functionExpression => some "FunctionExpression"
  | getter => some "GetterProperty"
  | ifStatement => some "IfStatement"
  | importKeyword => some "Import"
  | invalid => some "Invalid"
  | keyValuePattern => some "KeyValuePatternProperty"
  | labeled => some "LabeledStatement"
  | metaProperty => some "MetaProperty"
  | method => some "MethodProperty"
  | newExpression => some "NewExpression"
  | objectPattern => some "ObjectPattern"
  | optionalCall => some "CallExpression"
  | optionalChaining => some "OptionalChainingExpression"
  | parameter => some "Parameter"
  | privateMethod => some "PrivateMethod"
  | privateName => some "PrivateName"
  | privateProperty => some "PrivateProperty"
  | restElement => some "RestElement"
  | returnStatement => some "ReturnStatement"
  | sequence => some "SequenceExpression"
  | setter => some "SetterProperty"
  | spreadChild => some "JSXSpreadChild"
  | staticBlock => some "StaticBlock"
  | superKeyword => some "Super"
  | superProperty => some "SuperPropExpression"
  | switchStatement => some "SwitchStatement"
  | switchCase => some "SwitchCase"
  | taggedTemplate => some "TaggedTemplateExpression"
  | thisKeyword => some "ThisExpression"
  | throwStatement => some "ThrowStatement"
  | tryStatement => some "TryStatement"
  | unary => some "UnaryExpression"
  | update => some "UpdateExpression"
  | variableDeclaration => some "VariableDeclaration"
  | variableDeclarator => some "VariableDeclarator"
  | whileLoop => some "WhileStatement"
  | withStatement => some "WithStatement"
  | yieldExpression => some "YieldExpression"

/-- The parts of a node of this kind, in visiting order. -/
def fields : Kind → List String
  | arrayExpression => ["elements"]
  | arrayPattern => ["elements"]
  | arrowFunction => ["params", "body"]
  | assignment => ["left", "right"]
  | assignmentPattern => ["left", "right"]
  | assignmentPatternProperty => ["key", "value"]
  | awaitExpression => ["argument"]
  | binary => ["left", "right"]
  | block => ["stmts"]
  | breakStatement => ["label"]
  | catchClause => ["param", "body"]
  | classDeclaration => ["identifier", "decorators", "body", "superClass", "implements"]
  | classExpression => ["identifier", "decorators", "body", "superClass", "implements"]
  | classMethod => ["key", "function"]
  | classProperty => ["key", "value", "decorators"]
  | computed => ["expression"]
  | conditional => ["test", "consequent", "alternate"]
  | constructorMember => ["key", "params", "body"]
  | continueStatement => ["label"]
  | debuggerStatement => []
  | decorator => ["expression"]
  | doWhileLoop => ["test", "body"]
  | emptyStatement => []
  | exportAll => ["source", "with"]
  | exportDeclaration => ["declaration"]
  | exportDefaultDeclaration => ["decl"]
  | exportDefaultExpression => ["expression"]
  | exportDefaultSpecifier => ["exported"]
  | exportNamed => ["specifiers", "source", "with"]
  | exportNamespaceSpecifier => ["name"]
  | exportSpecifier => ["orig", "exported"]
  | expressionStatement => ["expression"]
  | forInLoop => ["left", "right", "body"]
  | forOfLoop => ["left", "right", "body"]
  | forLoop => ["init", "test", "update", "body"]
  | functionBody => ["params", "decorators", "body"]
  | functionDeclaration => ["identifier", "params", "decorators", "body"]
  | functionExpression => ["identifier", "params", "decorators", "body"]
  | getter => ["key", "body"]
  | ifStatement => ["test", "consequent", "alternate"]
  | importKeyword => []
  | invalid => []
  | keyValuePattern => ["key", "value"]
  | labeled => ["label", "body"]
  | metaProperty => []
  | method => ["key", "params", "decorators", "body"]
  | newExpression => ["callee", "arguments"]
  | objectPattern => ["properties"]
  | optionalCall => ["callee", "arguments"]
  | optionalChaining => ["base"]
  | parameter => ["decorators", "pat"]
  | privateMethod => ["key", "function"]
  | privateName => []
  | privateProperty => ["key", "value", "decorators"]
  | restElement => ["argument"]
  | returnStatement => ["argument"]
  | sequence => ["expressions"]
  | setter => ["key", "param", "body"]
  | spreadChild => ["expression"]
  | staticBlock => ["body"]
  | superKeyword => []
  | superProperty => ["obj", "property"]
  | switchStatement => ["discriminant", "cases"]
  | switchCase => ["test", "consequent"]
  | taggedTemplate => ["tag", "template"]
  | thisKeyword => []
  | throwStatement => ["argument"]
  | tryStatement => ["block", "handler", "finalizer"]
  | unary => ["argument"]
  | update => ["argument"]
  | variableDeclaration => ["declarations"]
  | variableDeclarator => ["id", "init"]
  | whileLoop => ["test", "body"]
  | withStatement => ["object", "body"]
  | yieldExpression => ["argument"]

/-- Kinds with a list of expressions each of which may be spread. -/
def spreadsItems : Kind → Bool
  | arrayExpression | newExpression | optionalCall => true
  | _ => false

/-- The kind of this name. The call of an optional chain shares its name with ordinary
    calls and is told apart by its place, so it is not found here. -/
def ofTypeName? (name : String) : Option Kind :=
  all.find? fun k => k != optionalCall && k.typeName? == some name

end Kind

end JsxEdit
