import StoryCatalog.Text.Layout
import StoryCatalog.Tree.Markup

/-!
# Comments before stories

A comment describes the story that begins one character after its end. A cursor remembers the latest
comment, and a story takes it away whether or not it is adjacent, so no comment describes two stories.
-/

namespace StoryCatalog

/-- The latest comment that no story has taken. -/
structure CommentCursor where
  latest : Option Comment

namespace CommentCursor

/-- The cursor before any comment. -/
def empty : CommentCursor :=
  ⟨none⟩

/-- Remembers a comment. -/
def track (_ : CommentCursor) (c : Comment) : CommentCursor :=
  ⟨some c⟩

/-- Whether a comment ends one character before `start`; offsets are words of 64 bits. -/
def isAdjacent (c : Comment) (start : Nat) : Bool :=
  (c.span.stop + 1) % Nat.pow 2 64 == start

/-- The text of the latest comment if it is adjacent to `start`, and the empty cursor. -/
def take (cursor : CommentCursor) (start : Nat) : Option String × CommentCursor :=
  ((cursor.latest.filter (isAdjacent · start)).map fun c => Text.onText Text.dedent c.data, empty)

end CommentCursor

end StoryCatalog
