import StoryCatalog.JavaScript.Grammar.Operand

/-!
# Reading expressions

An expression is a row of operands with operators between and before them. What is computed is not
kept, so neither is the order in which the operators apply: only an operand that stands alone, and an
assignment to it, has its parts. After a condition, an assignment or a `yield` the rest of the row belongs
to the last operand.
-/

namespace StoryCatalog.JavaScript

/-! ## Operators -/

/-- What an operator between two operands does. -/
inductive Operator where
  | assign
  | update
  | choose
  | compute
deriving DecidableEq

/-- The marks that assign, the longer ones first. -/
def updateMarks : List (List Char) :=
  [['>', '>', '>', '='], ['*', '*', '='], ['<', '<', '='], ['>', '>', '='], ['&', '&', '='],
    ['|', '|', '='], ['?', '?', '='], ['+', '='], ['-', '='], ['*', '='], ['/', '='], ['%', '='],
    ['&', '='], ['|', '='], ['^', '=']]

/-- The marks that compute, the longer ones first. -/
def computeMarks : List (List Char) :=
  [['=', '=', '='], ['!', '=', '='], ['>', '>', '>'], ['=', '='], ['!', '='], ['<', '='], ['>', '='],
    ['*', '*'], ['&', '&'], ['|', '|'], ['?', '?'], ['<', '<'], ['>', '>'], ['+'], ['-'], ['*'],
    ['/'], ['%'], ['&'], ['|'], ['^'], ['<'], ['>']]

/-- The operator that a text begins with, and how many characters it takes. -/
def operator? (cs : List Char) : Option (Operator × Nat) :=
  if "=>".toList.isPrefixOf cs then none
  else if let some m := updateMarks.find? (·.isPrefixOf cs) then some (.update, m.length)
  else if let some m := computeMarks.find? (·.isPrefixOf cs) then some (.compute, m.length)
  else if cs.head? = some '=' then some (.assign, 1)
  else if cs.head? = some '?' then some (.choose, 1)
  else
    let w := (takeWord cs).1
    if w = ['i', 'n'] ∨ w = ['i', 'n', 's', 't', 'a', 'n', 'c', 'e', 'o', 'f'] then
      some (.compute, w.length)
    else none

/-- Takes an operator before an operand. -/
def unaryOperator : Reader Unit := do
  if (← takes "++") || (← takes "--") then pure ()
  else
    let w ← wordAhead
    if ["typeof", "void", "delete", "await"].contains w then
      let _ ← keyword w
    else
      match (← ahead).head? with
      | some c =>
        guard (c == '!' || c == '~' || c == '+' || c == '-')
        let _ ← mark (String.singleton c)
      | none => failure

namespace SyntaxNode

/-- Whether an operator that computes a new value for its target can have this one. -/
def isUpdatable (n : SyntaxNode) : Bool :=
  ["identifier", "member_expression", "subscript_expression", "parenthesized_expression"].contains n.kind

/-- Whether a value can be assigned to an expression, which may be in parentheses. -/
def isAssignable (n : SyntaxNode) : Bool :=
  n.kind == "parenthesized_expression" || n.isTarget

end SyntaxNode

/-- Whether an operator can come after an operand. -/
def Operator.canFollow : Operator → SyntaxNode → Bool
  | .assign, e => e.isAssignable
  | .update, e => e.isUpdatable
  | .choose, e | .compute, e => e.isValue

namespace Grammar

variable (g : Grammar)

/-- Reads what `yield` stands before, if anything. -/
def yielded (mayEnd : Bool) : Reader Unit := do
  let _ ← keyword "yield"
  if ← takes "*" then
    let _ ← g.value mayEnd
  else if ← goesOn mayEnd then
    let _ ← optionally (g.value mayEnd)

/-- Reads an operand, the operators before it and what comes after it; `alone` says whether nothing
came before. -/
def row (mayEnd : Bool) (first : Nat) : Nat → Bool → Reader SyntaxNode
  | 0, _ => failure
  | n + 1, alone => do
    let unary ← repeated g.bound unaryOperator
    let alone := alone && unary.isEmpty
    if (← wordAhead) == "yield" then
      g.yielded mayEnd
      made "yield_expression" first []
    else
      let e ← g.operand mayEnd
      match ← if ← goesOn mayEnd then operator? <$> ahead else pure none with
      | none =>
        if alone then pure e
        else
          guard e.isValue
          made (if unary.isEmpty then "binary_expression" else "unary_expression") first []
      | some (op, length) =>
        guard (op.canFollow e)
        let markStart ← start
        let text ← takeChars length
        let operator : SyntaxNode := .token (String.ofList text) (← spanFrom markStart)
        match op with
        | .compute => row mayEnd first n false
        | .choose =>
          let _ ← g.value false
          let _ ← mark ":"
          let _ ← g.value mayEnd
          made "ternary_expression" first []
        | .update =>
          let _ ← g.value mayEnd
          made "augmented_assignment_expression" first []
        | .assign =>
          let v ← g.value mayEnd
          if alone then made "assignment_expression" first [e.inField "left", operator, v.inField "right"]
          else made "binary_expression" first []

/-- Reads an expression that may yet turn out to be a pattern. -/
def expression (mayEnd : Bool) : Reader SyntaxNode := do
  let first ← start
  g.row mayEnd first g.bound true

end Grammar

end StoryCatalog.JavaScript
