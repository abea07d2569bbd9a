import StoryCatalog.JavaScript.Blanks

/-!
# Reading tokens

A cursor stands in a text and knows how many bytes lie before it, and which comments. A reader moves it, or fails and
leaves it to the next reader. The cursor stands right after the last token until a token is taken, so that its place is
where a construct stops. Where an operator can come next, or a statement end, the cursor is closed to comments as in
HTML.
-/

namespace StoryCatalog.JavaScript

/-- A place in a text. -/
structure Cursor where
  /-- The number of bytes before it. -/
  pos : Nat
  /-- The text after it. -/
  rest : List Char
  isClosed : Bool
  /-- The comments before it, the last one first. -/
  comments : List SyntaxNode

namespace Cursor

/-- The cursor at the start of a text. -/
def init (cs : List Char) : Cursor :=
  ⟨0, cs, false, []⟩

/-- The cursor moved over a part of the text. -/
def move (c : Cursor) (taken rest : List Char) : Cursor :=
  { c with pos := c.pos + Text.measure .utf8 taken, rest, isClosed := false }

/-- The text from the next token on. -/
def ahead (c : Cursor) : List Char :=
  (takeBlanks (!c.isClosed) c.rest).2

/-- The cursor at the next token. -/
def atToken (c : Cursor) : Cursor :=
  let (blanks, rest) := takeBlanks (!c.isClosed) c.rest
  let c' := c.move blanks rest
  { c' with comments := (commentsIn c.pos 0 blanks).reverse ++ c.comments }

end Cursor

/-- A reader of a text. -/
abbrev Reader := StateT Cursor Option

/-! ## Looking ahead -/

/-- The place right after the last token. -/
def here : Reader Nat :=
  return (← get).pos

/-- The text from the next token on. -/
def ahead : Reader (List Char) :=
  return (← get).ahead

/-- Whether the next token begins with these characters. -/
def isNext (mark : String) : Reader Bool :=
  return mark.toList.isPrefixOf (← ahead)

/-- The next token as a word; empty if it is none. -/
def wordAhead : Reader String :=
  return String.ofList (takeWord (← ahead)).1

/-- Closes the cursor, or opens it. -/
def setClosed (isClosed : Bool) : Reader Unit :=
  modify ({ · with isClosed })

/-- Whether a statement ends here without a semicolon, after a value or after something else. It could end here, so
the cursor is closed. -/
def ends (afterValue : Bool) : Reader Bool := do
  setClosed true
  return endsStatement afterValue (← get).rest

/-! ## Taking tokens -/

/-- Moves to the next token; gives the place where it starts. -/
def start : Reader Nat := do
  let c := (← get).atToken
  set c
  pure c.pos

/-- Takes a number of characters from right here. -/
def takeChars (n : Nat) : Reader (List Char) := do
  let c ← get
  let (taken, rest) := c.rest.splitAt n
  set (c.move taken rest)
  pure taken

/-- Where the construct stands that began at a place and has just been read. -/
def spanFrom (first : Nat) : Reader Span :=
  return ⟨first, ← here⟩

/-- Takes a mark. -/
def mark (m : String) : Reader SyntaxNode := do
  let first ← start
  guard (m.toList.isPrefixOf (← get).rest)
  let _ ← takeChars m.length
  return .token m (← spanFrom first)

/-- A word, and where it stands. -/
structure Word where
  name : String
  span : Span

/-- A word as a node. -/
def Word.leaf (kind : String) (w : Word) : SyntaxNode :=
  .leaf kind w.span

/-- A word as a token. -/
def Word.token (w : Word) : SyntaxNode :=
  .token w.name w.span

/-- Takes a word. -/
def word : Reader Word := do
  let first ← start
  let c ← get
  let (w, rest) := takeWord c.rest
  guard !w.isEmpty
  set (c.move w rest)
  pure ⟨String.ofList w, ← spanFrom first⟩

/-- Takes a certain word. -/
def keyword (name : String) : Reader SyntaxNode := do
  let w ← word
  guard (w.name == name)
  pure w.token

/-! ## Combinations -/

/-- What a reader reads, if it does not fail. -/
def optionally (r : Reader α) : Reader (Option α) :=
  some <$> r <|> pure none

/-- A mark, if it comes next. -/
def mark? (m : String) : Reader (Option SyntaxNode) :=
  optionally (mark m)

/-- Whether a mark comes next; takes it if it does. -/
def takes (m : String) : Reader Bool :=
  return (← mark? m).isSome

/-- Whether a reader would not fail; the cursor stays. -/
def foresees (r : Reader α) : Reader Bool := do
  let c ← get
  let found ← optionally r
  set c
  pure found.isSome

/-- Reads until a reader fails, at most `bound` times. -/
def repeated (bound : Nat) (r : Reader α) : Reader (List α) :=
  match bound with
  | 0 => pure []
  | n + 1 => (do
      let a ← r
      let as ← repeated n r
      pure (a :: as)) <|> pure []

/-- Reads one or more, with commas between them. -/
def listed (bound : Nat) (r : Reader SyntaxNode) : Reader (List SyntaxNode) := do
  let n ← r
  let more ← repeated bound do
    let comma ← mark ","
    return [comma, ← r]
  pure (n :: more.flatten)

/-- Reads up to a closing mark, which is the last node, with commas between; between two commas there may be nothing. A
comma before the closing mark adds nothing. -/
def slots (bound : Nat) (close : String) (r : Reader SyntaxNode) : Reader (List SyntaxNode) :=
  match bound with
  | 0 => failure
  | n + 1 => do
    if let some closing ← mark? close then pure [closing]
    else if let some comma ← mark? "," then
      return comma :: (← slots n close r)
    else
      let a ← r
      if let some comma ← mark? "," then
        return a :: comma :: (← slots n close r)
      else return [a, ← mark close]

end StoryCatalog.JavaScript
