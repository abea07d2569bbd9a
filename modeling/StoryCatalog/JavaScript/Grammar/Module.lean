import StoryCatalog.JavaScript.Grammar.Value

/-!
# Reading declarations, imports and exports

What a module brings in, declares and gives out.
-/

namespace StoryCatalog.JavaScript

/-- Reads a name that a module exports. -/
def exportedName : Reader SyntaxNode :=
  Word.leaf "identifier" <$> word <|> stringToken

/-- Takes the word `as` and reads what comes after it. -/
def renamed (r : Reader SyntaxNode) : Reader (List SyntaxNode) := do
  let word ← keyword "as"
  return [word, ← r]

/-- Reads the specifiers in braces. -/
def specifiers (bound : Nat) (kind : String) (r : Reader SyntaxNode) : Reader SyntaxNode := do
  let opening ← mark "\x7b"
  let list ← optionally (listed bound r)
  let comma ← mark? ","
  let closing ← mark "\x7d"
  made kind opening.span.start (opening :: list.getD [] ++ comma.toList ++ [closing])

/-- Reads the name of a module. -/
def moduleName : Reader SyntaxNode :=
  (·.inField "source") <$> stringToken

/-- Takes the word `from` and reads the name of a module. -/
def fromModule : Reader (List SyntaxNode) := do
  let word ← keyword "from"
  return [word, ← moduleName]

/-! ## Imports -/

/-- Reads a name in the braces of an import. One in quotes must be renamed. -/
def importSpecifier : Reader SyntaxNode := do
  let name ← exportedName
  let binding := renamed ((fun w => (w.leaf "identifier").inField "alias") <$> word)
  let newName ← if name.kind == "string" then binding else (·.getD []) <$> optionally binding
  made "import_specifier" name.span.start (name.inField "name" :: newName)

/-- Reads the names in braces, or the name for a whole module. -/
def importGroup (bound : Nat) : Reader SyntaxNode := do
  if let some star ← mark? "*" then
    let binding ← renamed (Word.leaf "identifier" <$> word)
    made "namespace_import" star.span.start (star :: binding)
  else specifiers bound "named_imports" importSpecifier

/-- Reads what an import binds. -/
def importClause (bound : Nat) : Reader SyntaxNode := do
  let first ← start
  if (← isNext "*") || (← isNext "\x7b") then made "import_clause" first [← importGroup bound]
  else
    let name ← word
    let more ← if let some comma ← mark? "," then pure [comma, ← importGroup bound] else pure []
    made "import_clause" first (name.leaf "identifier" :: more)

namespace Grammar

variable (g : Grammar)

/-- Reads what is said of the import of a module. -/
def importAttribute : Reader (List SyntaxNode) := do
  if !(← ends false) && (← wordAhead) == "with" then
    let word ← keyword "with"
    let e ← g.object
    guard e.isValue
    return [← made "import_attribute" word.span.start [word, e]]
  else pure []

/-- Reads an import. -/
def importStatement : Reader SyntaxNode := do
  let word ← keyword "import"
  let children ← (fun source => [source]) <$> moduleName <|> do
    let clause ← importClause g.bound
    return clause :: (← fromModule)
  let attributes ← g.importAttribute
  let closing ← semicolon false
  made "import_statement" word.span.start (word :: children ++ attributes ++ closing)

/-! ## Declarations -/

/-- Reads what a declaration binds: a name or a pattern in brackets or braces. -/
def bindingTarget : Reader SyntaxNode := do
  match (← ahead).head? with
  | some '[' | some '\x7b' =>
    let e ← if ← isNext "[" then g.array else g.object
    guard e.isTarget
    pure e.asPattern
  | _ => Word.leaf "identifier" <$> word

/-- Reads a binding. -/
def binding : Reader SyntaxNode := do
  let target ← g.bindingTarget
  let first := target.span.start
  let name := target.inField "name"
  if ← ends false then made "variable_declarator" first [name]
  else if let some equals ← mark? "=" then
    let e ← g.value true
    made "variable_declarator" first [name, equals, e.inField "value"]
  else made "variable_declarator" first [name]

/-- Reads a variable declaration. -/
def variableDeclaration (kind : String) : Reader SyntaxNode := do
  let word ← keyword kind
  let bs ← listed g.bound g.binding
  let closing ← semicolon (bs.getLast?.any fun b => (b.childByField? "value").isSome)
  if kind == "var" then made "variable_declaration" word.span.start (word :: bs ++ closing)
  else made "lexical_declaration" word.span.start (word.inField "kind" :: bs ++ closing)

/-- Takes the words that introduce a function. -/
def functionWords : Reader (List SyntaxNode) := do
  if (← wordAhead) == "async" then
    let async ← keyword "async"
    guard !(← ends true)
    return [async, ← keyword "function"]
  else return [← keyword "function"]

/-- Takes the words that introduce a class. -/
def classWords : Reader Unit := do
  let _ ← repeated g.bound g.decorator
  let _ ← keyword "class"

/-- Whether a function with a name comes next. -/
def isFunctionNext : Reader Bool :=
  foresees do
    let _ ← functionWords
    let _ ← mark? "*"
    word

/-- Whether a class with a name comes next. -/
def isClassNext : Reader Bool :=
  foresees do
    g.classWords
    guard ((← word).name != "extends")

/-- Whether a variable declaration comes next: `let` introduces one only if a name or a pattern comes
after it. -/
def isVariableNext : Reader Bool := do
  match ← wordAhead with
  | "var" | "const" => pure true
  | "let" =>
    foresees do
      let _ ← word
      guard !(← ends true)
      let w ← wordAhead
      let isName := w != "" && w != "in" && w != "instanceof"
      guard (isName || (← ahead).head?.any fun c => c == '\x7b' || c == '[')
  | _ => pure false

/-- Whether a declaration comes next. -/
def isDeclarationNext : Reader Bool := do
  return (← isVariableNext) || (← isFunctionNext) || (← g.isClassNext)

/-- Reads a declaration of a function. -/
def functionDeclaration : Reader SyntaxNode := do
  let first ← start
  let words ← functionWords
  g.functionFrom words first "function_declaration" "generator_function_declaration"

/-- Reads a declaration. -/
def declaration : Reader SyntaxNode := do
  if ← isVariableNext then g.variableDeclaration (← wordAhead)
  else if ← isFunctionNext then g.functionDeclaration
  else
    let first ← start
    g.classWords
    g.classFrom first "class_declaration"

/-! ## Exports -/

/-- Reads a name in the braces of an export. -/
def exportSpecifier : Reader SyntaxNode := do
  let name ← exportedName
  let newName ← optionally (renamed ((·.inField "alias") <$> exportedName))
  made "export_specifier" name.span.start (name.inField "name" :: newName.getD [])

/-- Reads what an export gives out from a module or under other names. -/
def exportGroup : Reader (List SyntaxNode) := do
  if let some star ← mark? "*" then
    let name ← optionally (renamed exportedName)
    let source ← fromModule
    return star :: name.getD [] ++ source ++ (← semicolon false)
  else
    let clause ← specifiers g.bound "export_clause" exportSpecifier
    let source ← if ← ends false then pure [] else (·.getD []) <$> optionally fromModule
    return clause :: source ++ (← semicolon false)

/-- Reads a default export after its first words. -/
def defaultExport (words : List SyntaxNode) (first : Nat) : Reader SyntaxNode := do
  let word ← keyword "default"
  if ← g.isDeclarationNext then
    let d ← g.declaration
    made "export_statement" first (words ++ [word, d.inField "declaration"])
  else
    let e ← g.value true
    let closing ← semicolon true
    made "export_statement" first (words ++ [word, e.inField "value"] ++ closing)

/-- Whether an export comes next. -/
def isExportNext : Reader Bool :=
  foresees do
    let _ ← repeated g.bound g.decorator
    let _ ← keyword "export"
    guard ((← isNext "*") || (← isNext "\x7b") || (← wordAhead) == "default" ||
      (← g.isDeclarationNext))

/-- Reads an export. -/
def exportStatement : Reader SyntaxNode := do
  let first ← start
  let _ ← repeated g.bound g.decorator
  let word ← keyword "export"
  if (← isNext "*") || (← isNext "\x7b") then
    let group ← g.exportGroup
    made "export_statement" first (word :: group)
  else if (← wordAhead) == "default" then g.defaultExport [word] first
  else
    let d ← g.declaration
    made "export_statement" first [word, d.inField "declaration"]

end Grammar

end StoryCatalog.JavaScript
