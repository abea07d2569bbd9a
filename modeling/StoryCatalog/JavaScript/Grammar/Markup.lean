import StoryCatalog.JavaScript.Grammar.Literal

/-!
# Reading markup

An expression may be written as markup: a tag with attributes, and between it and its closing tag text,
references to characters, expressions in braces and more markup. The names of the two tags need not be
the same.
-/

namespace StoryCatalog.JavaScript

/-- Takes a name in a tag, which may have hyphens in it. -/
def tagWord : Reader Unit := do
  let _ ← start
  let cs := (← get).rest
  guard (cs.head?.any fun c => isWordChar c && !c.isDigit)
  let _ ← takeChars (cs.takeWhile fun c => isWordChar c || c == '-').length

/-- Takes the name of a tag or an attribute. -/
def tagName (bound : Nat) : Reader Unit := do
  tagWord
  let _ ← repeated bound do
    let _ ← mark "." <|> mark ":"
    tagWord

/-- Takes a string in which nothing is escaped. -/
def plainString : Reader Unit := do
  let _ ← start
  let quote ← takeChars 1
  guard (quote == ['"'] || quote == ['\''])
  let text := (← get).rest.takeWhile fun c => !quote.contains c
  let _ ← takeChars text.length
  let _ ← markHere (String.ofList quote)

/-- Takes text between tags. -/
def tagText : Reader Unit := do
  let text := (← get).rest.takeWhile fun c => !"<>&\x7b\x7d".toList.contains c
  guard !text.isEmpty
  let _ ← takeChars text.length

/-- Whether characters are those of a reference between its two marks. -/
def isReference : List Char → Bool
  | '#' :: 'x' :: ds | '#' :: 'X' :: ds => !ds.isEmpty && ds.length ≤ 6 && ds.all isHexDigit
  | '#' :: ds => !ds.isEmpty && ds.length ≤ 5 && ds.all Char.isDigit
  | cs => !cs.isEmpty && cs.length ≤ 30 && cs.all Char.isAlpha

/-- Takes a reference to a character. -/
def characterReference : Reader Unit := do
  let _ ← mark "&"
  let body := (← get).rest.takeWhile fun c => c.isAlphanum || c == '#'
  guard (isReference body)
  let _ ← takeChars body.length
  let _ ← markHere ";"

namespace Grammar

variable (g : Grammar)

/-- Reads an expression in braces, if there is one between them. -/
def container : Reader Unit := do
  let _ ← mark "\x7b"
  if !(← takes "\x7d") then
    if ← takes "..." then
      let _ ← g.value false
    else
      let _ ← g.values false
    let _ ← mark "\x7d"

/-- Reads an attribute, given a reader of markup. -/
def tagAttribute (inner : Reader Unit) : Reader Unit := do
  if ← isNext "\x7b" then g.container
  else
    tagName g.bound
    if ← takes "=" then
      plainString <|> g.container <|> inner

/-- Reads markup up to a depth. -/
def markup : Nat → Reader Unit
  | 0 => failure
  | n + 1 => do
    let _ ← mark "<"
    if !(← isNext ">") then
      tagName g.bound
      let _ ← repeated g.bound (g.tagAttribute (markup n))
    if ← takes "/" then
      let _ ← mark ">"
    else
      let _ ← mark ">"
      let _ ← repeated g.bound (tagText <|> characterReference <|> g.container <|> markup n)
      let _ ← mark "<"
      let _ ← mark "/"
      let _ ← optionally (tagName g.bound)
      let _ ← mark ">"

end Grammar

end StoryCatalog.JavaScript
