import StoryCatalog.JavaScript.Module
import StoryCatalog.Proofs.JavaScript.PhrasePaths
import StoryCatalog.Story.Workspace

/-!
# The trees of accepted texts

Which texts are accepted, and what tree is made of them, is up to the parser. The program of an accepted text is that of
its tree, so its nodes are those of the phrases of the tree. What is to hold of every node of a tree can be checked node
by node.

* `Program.compiled_eq_ok_iff`: the texts that are accepted.
* `exists_isPath_iff`: the nodes of the program of an accepted text.
* `compiled_moduleReader`, `SyntaxNode.forall_of_subnodes`: a text with a tree that is given.
* `Phrase.isOf_of_expressionStatement`: an expression at the top of a tree.
-/

namespace StoryCatalog

open JavaScript

/-- **A text is accepted** if the parser has its grammar, and makes a tree of the text in which nothing is wrong. -/
theorem Program.compiled_eq_ok_iff {parser : Parser} {file code : String} {p : Program} :
    Program.compiled parser file code = .ok p ↔ parser.grammarError? = none ∧
      ∃ root, parser.parse? code = some root ∧ root.hasError = false ∧ p = root.toProgram code.toList := by
  rw [Program.compiled]
  constructor
  · intro h
    split at h
    · cases h
    · next hgrammar =>
      split at h
      · cases h
      · next root hroot =>
        split at h
        · cases h
        · next herror => exact ⟨hgrammar, root, hroot, eq_false_of_ne_true herror, (Except.ok.inj h).symm⟩
  · rintro ⟨hgrammar, root, hroot, herror, rfl⟩
    simp [hgrammar, hroot, herror]

namespace JavaScript

section

variable {parser : Parser} {file code : String} {p : Program} {root : SyntaxNode}

theorem eq_toProgram (h : Program.compiled parser file code = .ok p) (hroot : parser.parse? code = some root) :
    p = root.toProgram code.toList := by
  obtain ⟨-, root', hroot', -, rfl⟩ := Program.compiled_eq_ok_iff.mp h
  cases hroot.symm.trans hroot'
  rfl

/-- **The nodes of the program of an accepted text** are the program itself and those of the phrases of the tree. -/
theorem exists_isPath_iff (h : Program.compiled parser file code = .ok p) (hroot : parser.parse? code = some root)
    {m : Node} : (∃ xs, IsPath (.program p) xs m) ↔
      m = .program p ∨ ∃ q : Phrase, q.IsOf root ∧ m ∈ q.nodes code.toList := by
  rw [eq_toProgram h hroot]
  exact exists_isPath_toProgram_iff

theorem exists_phrase_of_isPath (h : Program.compiled parser file code = .ok p) (hroot : parser.parse? code = some root)
    {xs : List Stored} {m : Node} (path : IsPath (.program p) xs m) (hm : m ≠ .program p) :
    ∃ q : Phrase, q.IsOf root ∧ m ∈ q.nodes code.toList :=
  ((exists_isPath_iff h hroot).mp ⟨xs, path⟩).resolve_left hm

end

/-! ## Trees that are given -/

namespace SyntaxNode

mutual

/-- A node and all that is below it. -/
def subnodes : SyntaxNode → List SyntaxNode
  | ⟨kind, span, field, isNamed, isError, isMissing, children⟩ =>
    ⟨kind, span, field, isNamed, isError, isMissing, children⟩ :: subnodesOfAll children

/-- Some nodes and all that is below them. -/
def subnodesOfAll : List SyntaxNode → List SyntaxNode
  | [] => []
  | n :: ns => n.subnodes ++ subnodesOfAll ns

end

theorem subnodes_eq (n : SyntaxNode) : n.subnodes = n :: subnodesOfAll n.children := by
  cases n
  rfl

theorem mem_subnodesOfAll {n m : SyntaxNode} {ns : List SyntaxNode} (hn : n ∈ ns) (h : m ∈ n.subnodes) :
    m ∈ subnodesOfAll ns := by
  induction ns with
  | nil => cases hn
  | cons n' ns ih =>
    rw [subnodesOfAll, List.mem_append]
    rcases List.mem_cons.mp hn with rfl | hn
    · exact .inl h
    · exact .inr (ih hn)

theorem mem_subnodes_of_contains {n m : SyntaxNode} (h : n.Contains m) : m ∈ n.subnodes := by
  induction h using Relation.ReflTransGen.head_induction_on with
  | refl =>
    rw [subnodes_eq]
    exact List.mem_cons_self
  | head hc _ ih =>
    rw [subnodes_eq]
    exact List.mem_cons_of_mem _ (mem_subnodesOfAll hc ih)

/-- What is checked of every node of a tree holds of them. -/
theorem forall_of_subnodes {P : SyntaxNode → Prop} {root : SyntaxNode} (h : ∀ n ∈ root.subnodes, P n) :
    ∀ n, root.Contains n → P n :=
  fun n hn => h n (mem_subnodes_of_contains hn)

end SyntaxNode

theorem parse?_moduleReader {code : String} {root : SyntaxNode} (h : syntaxTree? code = some root) :
    moduleReader.parse? code = some root := by
  simp [moduleReader, h]

/-- The reader of modules accepts a text if it makes a tree of it in which nothing is wrong. -/
theorem compiled_moduleReader {code : String} {root : SyntaxNode} (file : String) (h : syntaxTree? code = some root)
    (herror : root.hasError = false) : Program.compiled moduleReader file code = .ok (root.toProgram code.toList) :=
  Program.compiled_eq_ok_iff.mpr ⟨rfl, root, parse?_moduleReader h, herror, rfl⟩

/-- An expression that is a statement at the top of a tree. -/
theorem Phrase.isOf_of_expressionStatement {root s e m : SyntaxNode} (hs : s ∈ root.named)
    (hkind : s.kind = "expression_statement") (he : s.named.head? = some e) (hm : e.bare? = some m) :
    Phrase.IsOf root ⟨.value, m⟩ := by
  refine (isOf_of_mem_named hs).inner ?_
  have inside : Phrase.inner ⟨.statement, s⟩ = s.named.head?.toList.map ofValue := by
    simp only [inner, inStatement, hkind]
  rw [inside, he, ← ofValue_eq hm]
  exact List.mem_singleton_self _

end JavaScript

end StoryCatalog
