import StoryCatalog.JavaScript.Syntax

/-!
# Expressions that may be patterns

One node stands for a literal and for the pattern that it may turn out to be, since `[a, b]` is read before it is known
whether `=` or `=>` comes next. It is read as an expression, in which a member may have a default; `isValue`, `isTarget`
and `isParameter` say as what it may be used, and `asPattern` makes a pattern of it.
-/

namespace StoryCatalog.JavaScript

namespace SyntaxNode

/-- The nodes that are no commas, brackets or other tokens. -/
def entries (ns : List SyntaxNode) : List SyntaxNode :=
  ns.filter (·.isNamed)

/-! ## Values -/

mutual

/-- Whether a node has a value: a member with a default belongs to a pattern. -/
def isValue : SyntaxNode → Bool
  | ⟨kind, _, _, _, _, _, children⟩ =>
    kind != "object_assignment_pattern" &&
      (!(["array", "object", "pair", "spread_element"].contains kind) || areValues children)

/-- Whether some nodes have values. -/
def areValues : List SyntaxNode → Bool
  | [] => true
  | n :: ns => n.isValue && areValues ns

end

/-! ## Patterns -/

mutual

/-- Whether a node is a pattern or a member of one; one that is not `bare` may have a default or be the rest. -/
def isPattern (bare : Bool) : SyntaxNode → Bool
  | ⟨kind, _, _, isNamed, _, _, children⟩ =>
    match kind with
    | "identifier" | "undefined" | "member_expression" | "subscript_expression" | "shorthand_property_identifier"
    | "object_assignment_pattern" => true
    | "array" => arePatterns children
    | "object" => membersArePatterns children
    | "pair" => valueIsPattern children
    | "assignment_expression" => !bare && targetIsPattern children
    | "spread_element" => !bare && restIsPattern children
    | _ => !isNamed

/-- Whether some nodes are patterns or tokens. -/
def arePatterns : List SyntaxNode → Bool
  | [] => true
  | n :: ns => n.isPattern false && arePatterns ns

/-- Whether the members of an object are those of a pattern. What is spread there has no default. -/
def membersArePatterns : List SyntaxNode → Bool
  | [] => true
  | n :: ns =>
    n.isPattern false && !(n.kind == "spread_element" && n.children.any (·.kind == "assignment_expression")) &&
      membersArePatterns ns

/-- Whether the value of a member is a pattern. -/
def valueIsPattern : List SyntaxNode → Bool
  | [] => true
  | n :: ns => (n.field? != some "value" || n.isPattern false) && valueIsPattern ns

/-- Whether what is assigned to is a pattern. -/
def targetIsPattern : List SyntaxNode → Bool
  | [] => true
  | n :: ns => (n.field? != some "left" || n.isPattern true) && targetIsPattern ns

/-- Whether what is spread is a pattern, maybe one with a default. -/
def restIsPattern : List SyntaxNode → Bool
  | [] => true
  | n :: ns => (n.isPattern true || (n.kind == "assignment_expression" && n.isPattern false)) && restIsPattern ns

end

/-- Whether a value can be assigned to an expression. -/
def isTarget (n : SyntaxNode) : Bool :=
  n.isPattern true

/-- Whether an expression can be a parameter: a target, one with a default, or the rest. -/
def isParameter (n : SyntaxNode) : Bool :=
  n.isPattern false

/-- The kind that a node has in a pattern. -/
def patternKind : String → String
  | "array" => "array_pattern"
  | "object" => "object_pattern"
  | "pair" => "pair_pattern"
  | "assignment_expression" => "assignment_pattern"
  | "spread_element" => "rest_pattern"
  | "shorthand_property_identifier" => "shorthand_property_identifier_pattern"
  | kind => kind

/-- A rest with a default: the default belongs to the whole. -/
def withDefaultOutside (n : SyntaxNode) : SyntaxNode :=
  match n.kind, n.children with
  | "rest_pattern", [dots, ⟨"assignment_pattern", _, _, _, _, _, target :: more⟩] =>
    let rest := made "rest_pattern" ⟨n.span.start, target.span.stop⟩ [dots, { target with field? := none }]
    { n with kind := "assignment_pattern", children := rest.inField "left" :: more }
  | _, _ => n

mutual

/-- The pattern that a node is. Keys, defaults and what a member is taken out of stay. -/
def asPattern : SyntaxNode → SyntaxNode
  | ⟨kind, span, field, isNamed, isError, isMissing, children⟩ =>
    if patternKind kind = kind then ⟨kind, span, field, isNamed, isError, isMissing, children⟩
    else withDefaultOutside ⟨patternKind kind, span, field, isNamed, isError, isMissing, asPatterns children⟩

/-- The patterns that some nodes are. -/
def asPatterns : List SyntaxNode → List SyntaxNode
  | [] => []
  | n :: ns => (if n.field? = some "key" ∨ n.field? = some "right" then n else n.asPattern) :: asPatterns ns

end

end SyntaxNode

end StoryCatalog.JavaScript
