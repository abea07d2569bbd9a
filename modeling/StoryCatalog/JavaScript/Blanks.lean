import StoryCatalog.JavaScript.Character
import StoryCatalog.JavaScript.Syntax
import StoryCatalog.Text.Units

/-!
# Comments, and semicolons that need not be written

`takeBlanks` goes past the blanks and comments before a token, `commentsIn` tells the comments among them. A comment
may be written as in HTML too, but not where an operator or the end of a statement can come. `endsStatement` decides
where a statement ends without a semicolon: before a closing brace, at the end of the text, and at a line break unless
the next line goes on with the statement. A comment on the line is looked past; a block comment that spans lines counts
as a line break only where nothing can follow on the line.
-/

namespace StoryCatalog.JavaScript

/-! ## Comments -/

/-- The length of a line comment after its slashes. -/
def lineLength (cs : List Char) : Nat :=
  (cs.takeWhile fun c => !isLineEnd c && c != '\r').length

/-- The length of a block comment after its opening mark; `none` if it is not closed. -/
def blockLength? : List Char → Option Nat
  | [] => none
  | '*' :: '/' :: _ => some 2
  | _ :: cs => (blockLength? cs).map (· + 1)

/-- The length of the comment at the front of a text, if there is one. -/
def commentLength? : List Char → Option Nat
  | '/' :: '/' :: cs => some (lineLength cs + 2)
  | '/' :: '*' :: cs => (blockLength? cs).map (· + 2)
  | _ => none

/-- The length of a comment as in HTML at the front of a text, if there is one. It goes to the end of the line. -/
def htmlCommentLength? : List Char → Option Nat
  | '<' :: '!' :: '-' :: '-' :: cs => some ((cs.takeWhile (!isLineEnd ·)).length + 4)
  | '-' :: '-' :: '>' :: cs => some ((cs.takeWhile (!isLineEnd ·)).length + 3)
  | _ => none

/-- The comment at the front of a text, if there is one: its kind in a syntax tree, and its length. -/
def comment? (html : Bool) (cs : List Char) : Option (String × Nat) :=
  match commentLength? cs with
  | some n => some ("comment", n)
  | none => if html then (htmlCommentLength? cs).map (("html_comment", ·)) else none

/-- The length of the blank or comment at the front of a text, 0 if there is neither. -/
def blankRun (html : Bool) (cs : List Char) : Nat :=
  match comment? html cs with
  | some (_, n) => n
  | none => if cs.head?.any isBlank then 1 else 0

/-- The blanks and comments that a text begins with, and the text from the first token on; `html` says whether
comments as in HTML are among them. -/
def takeBlanks (html : Bool) (cs : List Char) : List Char × List Char :=
  takeRuns (blankRun html) 0 cs

/-- The comments among blanks that begin at a place. The first `within` characters belong to a comment that has
begun. -/
def commentsIn (pos : Nat) : Nat → List Char → List SyntaxNode
  | _, [] => []
  | within + 1, c :: cs => commentsIn (pos + Text.Encoding.utf8.width c) within cs
  | 0, c :: cs =>
    let next := pos + Text.Encoding.utf8.width c
    match comment? true (c :: cs) with
    | some (kind, n) =>
      .leaf kind ⟨pos, pos + Text.measure .utf8 ((c :: cs).take n)⟩ :: commentsIn next (n - 1) cs
    | none => commentsIn next 0 cs

/-! ## Where a statement ends -/

/-- A look ahead over blanks and comments: it meets a token, is stopped by a block comment without or
with a line break in it, or meets a slash that begins no comment. -/
inductive Lookahead where
  | token (rest : List Char)
  | comment (breaksLine : Bool) (rest : List Char)
  | slash

/-- The text from the line end after a line comment on. -/
def toLineEnd (cs : List Char) : List Char :=
  cs.dropWhile (!isLineEnd ·)

/-- The text after a block comment, and whether a line ends in it. -/
def blockComment (breaksLine : Bool) : List Char → Bool × List Char
  | [] => (breaksLine, [])
  | '*' :: '/' :: cs => (breaksLine, cs)
  | c :: cs => blockComment (breaksLine || isLineEnd c) cs

/-- Looks ahead; unless `pastBlocks`, the first block comment stops it if no slash follows. -/
def lookahead (pastBlocks breaksLine : Bool) (fuel : Nat) (cs : List Char) : Lookahead :=
  match fuel, cs.dropWhile isAsciiBlank with
  | 0, rest => .token rest
  | fuel + 1, '/' :: '/' :: rest => lookahead pastBlocks breaksLine fuel (toLineEnd rest)
  | fuel + 1, '/' :: '*' :: rest =>
    let (breaks, rest) := blockComment breaksLine rest
    if !pastBlocks && rest.head? != some '/' then .comment breaks rest
    else lookahead pastBlocks breaks fuel rest
  | _ + 1, '/' :: _ => .slash
  | _ + 1, rest => .token rest

/-- Whether a letter comes next. -/
def isLetterNext (cs : List Char) : Bool :=
  cs.head?.any Char.isAlpha

/-- Whether the line that begins here starts a new statement. -/
def startsStatement : List Char → Bool
  | [] => true
  | '.' :: cs => cs.head?.any Char.isDigit
  | '+' :: cs => cs.head? == some '+'
  | '-' :: cs => cs.head? == some '-'
  | '!' :: cs => cs.head? != some '='
  | 'i' :: 'n' :: cs =>
    if !isLetterNext cs then false
    else if "stanceof".toList.isPrefixOf cs then isLetterNext (cs.drop 8)
    else true
  | c :: _ => !"`,:;*%><=[(?^|&/".toList.contains c

/-- Whether a statement ends after a line break. -/
def endsAtBreak (cs : List Char) : Bool :=
  match lookahead true false cs.length cs with
  | .token rest => startsStatement rest
  | _ => false

/-- Whether a statement ends here, comments looked past only once. After a value a comment alone does
not end it; after a word such as `return` it does if what follows is on another line. -/
def endsBefore (afterValue : Bool) (fuel : Nat) (cs : List Char) : Bool :=
  match fuel, cs with
  | 0, _ => true
  | _, [] => true
  | fuel + 1, c :: cs =>
    if c == '/' then
      match lookahead false false (c :: cs).length (c :: cs) with
      | .slash => false
      | .token rest =>
        if !afterValue && rest.head? != some ',' && rest.head? != some '=' then true
        else if rest.isEmpty then false
        else endsAt fuel rest
      | .comment breaksLine rest =>
        if breaksLine && !afterValue && rest.head? != some ',' && rest.head? != some '=' then true
        else if rest.isEmpty then false
        else endsAt fuel rest
    else endsAt fuel (c :: cs)
where
  /-- The decision where no comment begins. -/
  endsAt (fuel : Nat) : List Char → Bool
    | [] => true
    | c :: cs =>
      if c == '\x7d' then true
      else if isLineEnd c then endsAtBreak cs
      else if isAsciiBlank c then endsBefore afterValue fuel cs
      else false

/-- Whether a statement ends here or after one of the comments here. Each comment takes one off the
fuel. -/
def endsAmongComments (afterValue : Bool) (fuel : Nat) (cs : List Char) : Bool :=
  endsBefore afterValue cs.length cs ||
    match fuel, cs.dropWhile isBlank with
    | 0, _ => false
    | fuel + 1, rest =>
      match commentLength? rest with
      | some n => endsAmongComments afterValue fuel (rest.drop n)
      | none => false

/-- Whether a statement ends here without a semicolon. -/
def endsStatement (afterValue : Bool) (cs : List Char) : Bool :=
  match cs with
  | [] => true
  | c :: _ =>
    if isBlank c || c == '/' then endsAmongComments afterValue cs.length cs else c == '\x7d'

end StoryCatalog.JavaScript
