import StoryCatalog.JavaScript.Grammar.Literal

/-!
# Reading members

The members of objects and of classes. A word such as `get` or `static` says more about a member if a
key comes after it; else it is the key.
-/

namespace StoryCatalog.JavaScript

/-- Reads a private name. -/
def privateName : Reader Word := do
  let first ← start
  guard ((← takeChars 1) == ['#'])
  let c ← get
  let (w, rest) := takeWord c.rest
  guard !w.isEmpty
  set (c.move w rest)
  pure ⟨String.ofList ('#' :: w), ← spanFrom first⟩

/-- Reads the name of a property. -/
def propertyName : Reader SyntaxNode :=
  Word.leaf "property_identifier" <$> word <|> Word.leaf "private_property_identifier" <$> privateName

/-- Whether a key comes next. -/
def isKeyNext : Reader Bool := do
  let cs ← ahead
  return !(takeWord cs).1.isEmpty || !(takeNumber cs).isEmpty ||
    cs.head?.any fun c => c == '[' || c == '"' || c == '\'' || c == '#'

/-- Takes one of some words if a key comes after it, or a star where that is allowed. -/
def modifier (words : List String) (beforeStar : Bool) : Reader (Option SyntaxNode) :=
  optionally do
    let w ← word
    guard (words.contains w.name)
    guard ((← isKeyNext) || (beforeStar && (← isNext "*")))
    pure w.token

/-- Takes the words and marks before the key of a method. -/
def modifiers : Reader (List SyntaxNode) := do
  let async ← modifier ["async"] true
  let accessor ← modifier ["get", "set"] false
  let star ← if accessor.isSome then pure none else mark? "*"
  return async.toList ++ accessor.toList ++ star.toList

namespace Grammar

variable (g : Grammar)

/-- Reads a key. -/
def key : Reader SyntaxNode := do
  if let some opening ← mark? "[" then
    let e ← g.value false
    let closing ← mark "]"
    made "computed_property_name" opening.span.start [opening, e, closing]
  else propertyName <|> stringToken <|> numberToken

/-- Reads the rest of a member after its key. -/
def memberFrom (key : SyntaxNode) : Reader SyntaxNode := do
  let first := key.span.start
  if let some colon ← mark? ":" then
    let e ← g.cover false
    made "pair" first [key.inField "key", colon, e.inField "value"]
  else
    guard (key.kind == "property_identifier")
    if let some equals ← mark? "=" then
      let e ← g.value false
      let name : SyntaxNode := .leaf "shorthand_property_identifier_pattern" key.span
      made "object_assignment_pattern" first [name.inField "left", equals, e.inField "right"]
    else pure (.leaf "shorthand_property_identifier" key.span)

/-- Reads a member of an object. -/
def member : Reader SyntaxNode := do
  if let some dots ← mark? "..." then
    let e ← g.cover false
    made "spread_element" dots.span.start [dots, e]
  else
    let first ← start
    let isStatic ← modifier ["static"] true
    let words ← modifiers
    let key ← g.key
    if ← isNext "(" then
      let ps ← g.params
      let body ← g.block
      made "method_definition" first
        (isStatic.toList ++ words ++ [key.inField "name", ps.inField "parameters", body.inField "body"])
    else
      guard (isStatic.isNone && words.isEmpty)
      g.memberFrom key

/-- Reads an object. -/
def object : Reader SyntaxNode := do
  let opening ← mark "\x7b"
  let ms ← slots g.bound "\x7d" g.member
  made "object" opening.span.start (opening :: ms)

/-! ## Classes -/

/-- Reads a decorator. -/
def decorator : Reader Unit := do
  let _ ← mark "@"
  let _ ← word
  let _ ← repeated g.bound do
    let _ ← mark "."
    word
  if ← isNext "(" then
    let _ ← g.arguments

/-- Reads a method or a field of a class. -/
def classProperty : Reader Unit := do
  let _ ← repeated g.bound g.decorator
  let _ ← modifier ["static"] true
  let words ← modifiers
  let _ ← g.key
  if ← isNext "(" then
    let _ ← g.params
    let _ ← g.block
  else
    guard words.isEmpty
    if (← ends false) then setClosed false
    else if ← takes "=" then
      let _ ← g.value true
      let _ ← semicolon true
    else
      let _ ← mark ";"

/-- Reads a member of a class. -/
def classMember : Reader Unit := do
  if ← takes ";" then pure ()
  else
    (do
      let _ ← keyword "static"
      let _ ← g.block) <|> g.classProperty

/-- Reads a class after the word that introduces it, given its kind. -/
def classFrom (first : Nat) (kind : String) : Reader SyntaxNode := do
  if (← wordAhead) != "extends" then
    let _ ← optionally word
  if (← wordAhead) == "extends" then
    let _ ← keyword "extends"
    let _ ← g.value false
  let _ ← mark "\x7b"
  let _ ← repeated g.bound g.classMember
  let _ ← mark "\x7d"
  made kind first []

end Grammar

end StoryCatalog.JavaScript
