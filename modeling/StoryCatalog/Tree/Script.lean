import StoryCatalog.Json.Basic
import StoryCatalog.Tree.Span

/-!
# Scripts

The part of a JavaScript syntax tree that tells what a document declares: imports, variables, exports,
functions, and the expressions and patterns in them. Any other construct is `unknown` and has neither
span nor content. Spans are kept as given.
-/

namespace StoryCatalog

/-- A name that is used or bound. -/
structure Identifier where
  span : Span
  name : String
deriving DecidableEq

/-- The value of a literal. What is neither text nor a truth value nor a number, such as `null`, a
regular expression or a big integer, is kept as it was given. -/
inductive LiteralValue where
  | text (s : String)
  | flag (b : Bool)
  | number (x : Float)
  | other (j : Json)

/-- A literal. -/
structure Literal where
  span : Span
  value : LiteralValue

/-- The text of a string literal. -/
def Literal.text? (l : Literal) : Option String :=
  match l.value with
  | .text s => some s
  | _ => none

/-- The truth value of a boolean literal. -/
def Literal.flag? (l : Literal) : Option Bool :=
  match l.value with
  | .flag b => some b
  | _ => none

/-- The name under which a module exports what is imported. -/
inductive ImportedName where
  | identifier (i : Identifier)
  | literal (l : Literal)

/-- The text of the name; a literal that is no string has none. -/
def ImportedName.text? : ImportedName → Option String
  | identifier i => some i.name
  | literal l => l.text?

/-- One name in the braces of an import, with the name it is bound to. -/
structure ImportSpecifier where
  span : Span
  imported : ImportedName
  binding : Identifier

/-- A part of what an import declaration binds: a name in braces, the default export, or the whole
module. -/
inductive ImportClause where
  | named (s : ImportSpecifier)
  | defaultExport (span : Span) (binding : Identifier)
  | wholeModule (span : Span) (binding : Identifier)

/-- An import declaration. -/
structure ImportDeclaration where
  span : Span
  clauses : List ImportClause
  source : Literal

/-- How a function is written. -/
inductive FunctionForm where
  | expression
  | arrow
  | declaration
deriving DecidableEq

mutual

/-- An object literal. -/
structure ObjectLiteral where
  span : Span
  members : List ObjectMember

/-- A member of an object literal. -/
inductive ObjectMember where
  | property (span : Span) (key value : Expression) (isComputed isShorthand : Bool)
  | spread (span : Span) (argument : Expression)

/-- A function; the body of an arrow function without braces is a return statement. -/
structure Function where
  span : Span
  id : Option Identifier
  params : List Pattern
  body : Statement

/-- One binding of a variable declaration. -/
structure Declarator where
  span : Span
  id : Pattern
  init : Option Expression

/-- A variable declaration; its kind is the word that introduces it. -/
structure VariableDeclaration where
  span : Span
  kind : String
  declarators : List Declarator

/-- A default export of an expression or of a function declaration. -/
structure DefaultExport where
  span : Span
  declaration : Expression

/-- An expression. The quasis of a template are the decoded texts around its substitutions; a text
that cannot be decoded is `none`. A hole of an array is `none`. -/
inductive Expression where
  | identifier (i : Identifier)
  | literal (l : Literal)
  | template (span : Span) (quasis : List (Option String)) (substitutions : List Expression)
  | array (span : Span) (elements : List (Option Expression))
  | object (o : ObjectLiteral)
  | call (span : Span) (callee : Expression) (arguments : List Expression)
  | member (span : Span) (object property : Expression) (isComputed : Bool)
  | function (form : FunctionForm) (f : Function)
  | spread (span : Span) (argument : Expression)
  | unknown

/-- A pattern that binds names. -/
inductive Pattern where
  | identifier (i : Identifier)
  | object (span : Span) (members : List PatternMember)
  | array (span : Span) (elements : List (Option Pattern))
  | assignment (span : Span) (target : Pattern) (default : Expression)
  | rest (span : Span) (argument : Pattern)
  | unknown

/-- A member of an object pattern. -/
inductive PatternMember where
  | property (span : Span) (key : Expression) (value : Pattern) (isComputed isShorthand : Bool)
  | rest (span : Span) (argument : Pattern)

/-- A statement. -/
inductive Statement where
  | imports (d : ImportDeclaration)
  | declaration (d : VariableDeclaration)
  | namedExport (span : Span) (declaration : Option Statement)
  | defaultExport (d : DefaultExport)
  | function (f : Function)
  | expression (span : Span) (e : Expression)
  | block (span : Span) (body : List Statement)
  | returns (span : Span) (argument : Option Expression)
  | unknown

end

/-- A script or a compiled module. -/
structure Program where
  span : Span
  body : List Statement

/-- The name of a function, if it has one. -/
def Function.name? (f : Function) : Option String :=
  f.id.map (·.name)

namespace Expression

/-- The identifier that an expression is. -/
def identifier? : Expression → Option Identifier
  | identifier i => some i
  | _ => none

/-- The function that an expression is. -/
def function? : Expression → Option Function
  | function _ f => some f
  | _ => none

/-- The object literal that an expression is. -/
def object? : Expression → Option ObjectLiteral
  | object o => some o
  | _ => none

/-- The name of a key: that of an identifier, or the text of a string literal. -/
def keyName? : Expression → Option String
  | identifier i => some i.name
  | literal l => l.text?
  | _ => none

/-- The text of a template without substitutions. -/
def staticText? : Expression → Option String
  | template _ [some text] [] => some text
  | _ => none

/-- The name of the function that an expression calls, if it calls one by its name. -/
def calleeName? : Expression → Option String
  | call _ callee _ => callee.identifier?.map (·.name)
  | _ => none

end Expression

/-- The identifier that a pattern is. -/
def Pattern.identifier? : Pattern → Option Identifier
  | identifier i => some i
  | _ => none

/-- The value of a member with a key of this name that is not computed. -/
def ObjectMember.valueOf? (name : String) : ObjectMember → Option Expression
  | property _ key value false _ => if key.keyName? = some name then some value else none
  | _ => none

/-- The value of the first member with a key of this name that is not computed. -/
def ObjectLiteral.property? (o : ObjectLiteral) (name : String) : Option Expression :=
  o.members.findSome? (·.valueOf? name)

/-- The identifier that a member binds if its key has this name. -/
def PatternMember.bindingOf? (name : String) : PatternMember → Option Identifier
  | property _ key value _ _ => if key.keyName? = some name then value.identifier? else none
  | _ => none

/-- The identifier bound by the first member that binds one to a key of this name. -/
def PatternMember.binding? (name : String) (ms : List PatternMember) : Option Identifier :=
  ms.findSome? (·.bindingOf? name)

end StoryCatalog
