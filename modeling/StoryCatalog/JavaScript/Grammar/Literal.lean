import StoryCatalog.JavaScript.Grammar.Basic
import StoryCatalog.JavaScript.Lexeme

/-!
# Reading literals

Strings, templates, numbers and regular expressions.
-/

namespace StoryCatalog.JavaScript

/-- The nodes of pieces that begin at a place. -/
def pieceNodes (pos : Nat) : List Piece → List SyntaxNode
  | [] => []
  | p :: ps =>
    let stop := pos + Text.measure .utf8 p.written
    .leaf p.kind ⟨pos, stop⟩ :: pieceNodes stop ps

/-- Takes pieces from right here. -/
def pieces (isPlain : List Char → Bool) : Reader (List SyntaxNode) := do
  let c ← get
  let (ps, rest) ← takePieces isPlain (c.rest.length + 1) c.rest
  set (c.move (ps.flatMap (·.written)) rest)
  pure (pieceNodes c.pos ps)

/-- Takes a mark from right here. -/
def markHere (m : String) : Reader SyntaxNode := do
  let first ← here
  guard ((← takeChars m.length) == m.toList)
  return .token m (← spanFrom first)

/-- Reads a string in a kind of quotes. -/
def quoted (quote : Char) : Reader SyntaxNode := do
  let q := String.singleton quote
  let opening ← mark q
  let ps ← pieces (isStringPlain quote)
  let closing ← markHere q
  made "string" opening.span.start (opening :: ps ++ [closing])

/-- Reads a string. -/
def stringToken : Reader SyntaxNode :=
  quoted '"' <|> quoted '\''

/-- Reads a number. -/
def numberToken : Reader SyntaxNode := do
  let first ← start
  let digits := takeNumber (← get).rest
  guard !digits.isEmpty
  let _ ← takeChars digits.length
  made "number" first []

/-- The length of the pattern of a regular expression with its closing slash, in a class of characters
or outside of one. -/
def regexLength? (inClass : Bool) : List Char → Option Nat
  | [] => none
  | ['\\'] => none
  | '\\' :: c :: cs => if c = '\n' then none else (regexLength? inClass cs).map (· + 2)
  | c :: cs =>
    if c = '\n' then none
    else if c = '/' ∧ !inClass then some 1
    else (regexLength? (if c = '[' then true else if c = ']' then false else inClass) cs).map (· + 1)

/-- Reads a regular expression with its flags. -/
def regexToken : Reader SyntaxNode := do
  let opening ← mark "/"
  let n ← regexLength? false (← get).rest
  guard (n ≠ 1)
  let _ ← takeChars n
  let flags := (← get).rest.takeWhile fun c => 'a' ≤ c && c ≤ 'z'
  let _ ← takeChars flags.length
  made "regex" opening.span.start []

namespace Grammar

variable (g : Grammar)

/-- Reads a substitution. -/
def substitution : Reader SyntaxNode := do
  let opening ← markHere "$\x7b"
  let e ← g.values false
  let closing ← mark "\x7d"
  made "template_substitution" opening.span.start [opening, e, closing]

/-- Reads the parts of a template after its opening mark, with the closing one. -/
def partsWithin : Nat → Reader (List SyntaxNode)
  | 0 => failure
  | n + 1 => do
    let text ← pieces isTemplatePlain
    if let some closing ← optionally (markHere "`") then pure (text ++ [closing])
    else
      let s ← g.substitution
      return text ++ s :: (← partsWithin n)

/-- Reads a template. -/
def template : Reader SyntaxNode := do
  let opening ← mark "`"
  let parts ← g.partsWithin g.bound
  made "template_string" opening.span.start (opening :: parts)

end Grammar

end StoryCatalog.JavaScript
