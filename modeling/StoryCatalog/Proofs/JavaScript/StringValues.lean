import StoryCatalog.Proofs.JavaScript.StringElements
import StoryCatalog.Proofs.JavaScript.SyntaxTrees

/-!
# The values of strings

A program has a literal for each string of its text that is lowered, be it an expression, a key or the name of a
module, and other text literals it does not have. Each holds the value of its string, unless there is an escape in
it that is not kept.

It is assumed of the parser that it makes a string of quotes and, between these, the longest pieces of plain text and
the escapes that stand there; and that the name of the module of an import is a string.

* `SyntaxNode.pieces?`, `SyntaxNode.StringsAreWritten`: what is assumed.
* `StringRead`: what a literal holds, by what is written between its quotes.
* `strings_of_compiled`: the text literals of the program of an accepted text.
* `values_are_not_kept`: a pair of escaped surrogates is not read as the character that it stands for.
-/

namespace StoryCatalog

open JavaScript Text

/-- A string is read as a text: escapes by what is read for them, and what results has the code units of the string
exactly if all escapes are kept. -/
structure HoldsString (es : List StringElement) (s : String) : Prop where
  eq_readText : s = String.ofList (readText es)
  units_iff : ¬Joins es → (Digest.units s.toList = es.flatMap (·.units) ↔ ∀ e ∈ es, e.IsKept)

/-- At a span of a text stands a string between quotes that is read as some text. -/
def StringRead (cs : List Char) (span : Span) (s : String) : Prop :=
  ∃ quote body, (quote = '"' ∨ quote = '\'') ∧
    slice? .utf8 span.start span.stop cs = some (quote :: body ++ [quote]) ∧
      ∀ es, Spells quote es body → HoldsString es s

theorem holdsString_of_spells {quote : Char} {body : List Char} {es : List StringElement}
    (h : Spells quote es body) : HoldsString es (String.ofList (readText es)) where
  eq_readText := rfl
  units_iff := by
    rw [String.toList_ofList]
    exact units_readText_iff h

/-- A text that is spelled in one way only is read as what is read for its elements. -/
theorem StringRead.eq_of_spells {quote : Char} {body cs : List Char} {span : Span} {s : String}
    {es : List StringElement} (h : StringRead cs span s)
    (hslice : slice? .utf8 span.start span.stop cs = some (quote :: body ++ [quote])) (hes : Spells quote es body) :
    s = String.ofList (readText es) := by
  obtain ⟨quote', body', -, hslice', hread⟩ := h
  have heq : quote' :: body' ++ [quote'] = quote :: body ++ [quote] := Option.some.inj (hslice'.symm.trans hslice)
  obtain ⟨rfl, hbody⟩ := List.cons.inj heq
  obtain rfl := List.append_cancel_right hbody
  exact (hread es hes).eq_readText

namespace JavaScript.SyntaxNode

variable (code : List Char)

/-- The quote and the pieces of a string; `none` if its named children are not the pieces between two quotes. -/
def pieces? (n : SyntaxNode) : Option (Char × List Piece) :=
  match n.text code with
  | [] => none
  | quote :: cs =>
    match takePieces (isStringPlain quote) cs.length cs with
    | some (ps, [closing]) =>
      if (quote = '"' ∨ quote = '\'') ∧ closing = quote ∧
          n.named.map (fun c => (c.kind, c.text code)) = ps.map fun p => (p.kind, p.written) then some (quote, ps)
      else none
    | _ => none

/-- Strings are made of pieces, and the name of the module of an import is a string. -/
structure StringsAreWritten (n : SyntaxNode) : Prop where
  pieces : n.kind = "string" → (n.pieces? code).isSome = true
  source : n.kind = "import_statement" → ∀ s ∈ n.childByField? "source", s.kind = "string"

instance (n : SyntaxNode) : Decidable (n.StringsAreWritten code) :=
  decidable_of_iff ((n.kind = "string" → (n.pieces? code).isSome = true) ∧
      (n.kind = "import_statement" → ∀ s ∈ n.childByField? "source", s.kind = "string"))
    ⟨fun h => ⟨h.1, h.2⟩, fun h => ⟨h.pieces, h.source⟩⟩

variable {code} {n : SyntaxNode}

theorem pieceValue_eq_value {p : Piece} (hkind : n.kind = p.kind) (htext : n.text code = p.written) :
    n.pieceValue code = p.value := by
  rw [pieceValue, hkind, htext]
  cases p <;> rfl

/-- The value of a string is what its pieces stand for. -/
theorem flatMap_pieceValue {ns : List SyntaxNode} {ps : List Piece}
    (h : ns.map (fun c => (c.kind, c.text code)) = ps.map fun p => (p.kind, p.written)) :
    ns.flatMap (·.pieceValue code) = ps.flatMap (·.value) := by
  induction ns generalizing ps with
  | nil =>
    obtain rfl := List.map_eq_nil_iff.mp h.symm
    rfl
  | cons n ns ih =>
    obtain ⟨p, ps, rfl, hp, hps⟩ := List.map_eq_cons_iff.mp h.symm
    obtain ⟨hkind, htext⟩ := Prod.mk.inj hp
    rw [List.flatMap_cons, List.flatMap_cons, pieceValue_eq_value hkind.symm htext.symm, ih hps.symm]

theorem slice?_of_text {cs : List Char} (h : n.text code = cs) (hne : cs ≠ []) :
    slice? .utf8 n.span.start n.span.stop code = some cs := by
  rw [text] at h
  cases hslice : slice? .utf8 n.span.start n.span.stop code with
  | none =>
    rw [hslice] at h
    exact absurd h.symm hne
  | some cs' =>
    rw [hslice] at h
    exact congrArg some h

/-- **A string is read** as the text of its elements. -/
theorem stringRead_of_pieces? (h : (n.pieces? code).isSome = true) : StringRead code n.span (n.stringValue code) := by
  rw [pieces?] at h
  split at h
  · cases h
  · next quote cs htext =>
    split at h
    · next ps closing taken =>
      split at h
      · next written =>
        obtain ⟨hquote, rfl, hnamed⟩ := written
        have hbody := takePieces_append taken
        have value : n.stringValue code = String.ofList (ps.flatMap (·.value)) :=
          congrArg String.ofList (flatMap_pieceValue hnamed)
        refine ⟨closing, ps.flatMap (·.written), hquote, ?_, fun es hes => ?_⟩
        · rw [List.cons_append, hbody]
          exact slice?_of_text htext (List.cons_ne_nil _ _)
        · rw [← hbody] at taken
          rw [value, flatMap_value_of_takePieces hquote hes taken]
          exact holdsString_of_spells hes
      · cases h
    · cases h

end JavaScript.SyntaxNode

/-! ## Programs -/

/-- A phrase is a string: an expression or a key, the name of a module, or a name that an import gives in quotes. -/
def JavaScript.Phrase.IsString (q : Phrase) : Prop :=
  q.source.kind = "string" ∧ (q.role = .value ∨ q.role = .quoted)

/-- The text literals of a program are the strings of a tree: each string that is lowered is there as what is read
for it, and nothing else is. -/
structure StringsOf (root : SyntaxNode) (code : List Char) (p : Program) : Prop where
  there : ∀ q : Phrase, q.IsOf root → q.IsString → ∃ xs s,
    IsPath (.program p) xs (.expression (.literal ⟨q.source.span, .text s⟩)) ∧ StringRead code q.source.span s
  written : ∀ xs span s, IsPath (.program p) xs (.expression (.literal ⟨span, .text s⟩)) →
    ∃ q : Phrase, q.IsOf root ∧ q.IsString ∧ q.source.span = span ∧ StringRead code span s

section

variable {parser : Parser} {file code : String} {p : Program} {root : SyntaxNode} {q : Phrase}

/-- The node of a string. -/
theorem JavaScript.Phrase.IsString.mem_nodes (h : q.IsString) (code : List Char) :
    .expression (.literal ⟨q.source.span, .text (q.source.stringValue code)⟩) ∈ q.nodes code := by
  obtain ⟨role, n⟩ := q
  obtain ⟨string, hrole⟩ := h
  rcases hrole with rfl | rfl
  · have hkind : n.kind = "string" := string
    refine Phrase.mem_nodes_value.mpr ⟨by simp [hkind], ?_⟩
    rw [SyntaxNode.toExpression_string hkind]
    rfl
  · exact List.mem_singleton_self _

theorem exists_literal_of_isString (h : Program.compiled parser file code = .ok p)
    (hroot : parser.parse? code = some root) (hw : ∀ n, root.Contains n → n.StringsAreWritten code.toList)
    (hq : q.IsOf root) (hstring : q.IsString) : ∃ xs s,
      IsPath (.program p) xs (.expression (.literal ⟨q.source.span, .text s⟩)) ∧
        StringRead code.toList q.source.span s := by
  obtain ⟨xs, path⟩ := (exists_isPath_iff h hroot).mpr (.inr ⟨q, hq, hstring.mem_nodes code.toList⟩)
  exact ⟨xs, _, path, SyntaxNode.stringRead_of_pieces? ((hw _ hq.contains).pieces hstring.1)⟩

theorem exists_string_of_isPath (h : Program.compiled parser file code = .ok p)
    (hroot : parser.parse? code = some root) (hw : ∀ n, root.Contains n → n.StringsAreWritten code.toList)
    {xs : List Stored} {span : Span} {s : String}
    (path : IsPath (.program p) xs (.expression (.literal ⟨span, .text s⟩))) :
    ∃ q : Phrase, q.IsOf root ∧ q.IsString ∧ q.source.span = span ∧ StringRead code.toList span s := by
  obtain ⟨⟨role, n⟩, hq, hn⟩ := exists_phrase_of_isPath h hroot path nofun
  have string : Phrase.IsString ⟨role, n⟩ := by
    obtain ⟨hrole, hkind, he⟩ | ⟨-, he⟩ | ⟨hrole, -⟩ | ⟨-, he⟩ | ⟨-, he⟩ | ⟨-, he⟩ := Phrase.cases_of_expression hn
    · exact ⟨SyntaxNode.kind_of_soleKind? hkind he rfl, .inl hrole⟩
    · cases he
    · refine ⟨?_, .inr hrole⟩
      rcases hq.standsIn.quoted hrole with hkind | ⟨d, hd, himport, hsource⟩
      · exact hkind
      · exact (hw d hd).source himport n hsource
    all_goals cases he
  cases Phrase.eq_of_mem_nodes hn (string.mem_nodes code.toList)
  exact ⟨_, hq, string, rfl, SyntaxNode.stringRead_of_pieces? ((hw n hq.contains).pieces string.1)⟩

end

/-- **The strings of a program** are those of its tree, and each is read escape by escape. It is the string that the
text spells exactly if no escape is a surrogate or a backslash before a separator, where no separator comes after a
backslash and a carriage return. -/
theorem strings_of_compiled {parser : Parser} {file code : String} {p : Program} {root : SyntaxNode}
    (h : Program.compiled parser file code = .ok p) (hroot : parser.parse? code = some root)
    (hw : ∀ n, root.Contains n → n.StringsAreWritten code.toList) : StringsOf root code.toList p where
  there _ hq hstring := exists_literal_of_isString h hroot hw hq hstring
  written _ _ _ path := exists_string_of_isPath h hroot hw path

/-! ## Strings of small texts -/

theorem JavaScript.Spells.escape {quote : Char} {es : List StringElement} (e : Escape) (rest : List Char)
    (fits : e.Fits rest) (spells : Spells quote es rest) :
    Spells quote (.escape e :: es) ('\\' :: (e.written ++ rest)) :=
  .cons fits spells

/-- The string `"\x41\u{1f600}"`. -/
def escapedString : SyntaxNode :=
  .made "string" ⟨0, 15⟩ [.token "\"" ⟨0, 1⟩, .leaf "escape_sequence" ⟨1, 5⟩, .leaf "escape_sequence" ⟨5, 14⟩,
    .token "\"" ⟨14, 15⟩]

/-- The tree of a text that is nothing but the string. -/
def escapedStringTree : SyntaxNode :=
  .made "program" ⟨0, 15⟩ [.made "expression_statement" ⟨0, 15⟩ [escapedString]]

/-- The string `"\ud83d\ude00"`. -/
def surrogateString : SyntaxNode :=
  .made "string" ⟨0, 14⟩ [.token "\"" ⟨0, 1⟩, .leaf "escape_sequence" ⟨1, 7⟩, .leaf "escape_sequence" ⟨7, 13⟩,
    .token "\"" ⟨13, 14⟩]

/-- The tree of a text that is nothing but the string. -/
def surrogateStringTree : SyntaxNode :=
  .made "program" ⟨0, 14⟩ [.made "expression_statement" ⟨0, 14⟩ [surrogateString]]

theorem syntaxTree?_escapedString : syntaxTree? "\"\\x41\\u\x7b1f600\x7d\"" = some escapedStringTree := by
  decide +kernel

theorem syntaxTree?_surrogateString : syntaxTree? "\"\\ud83d\\ude00\"" = some surrogateStringTree := by
  decide +kernel

theorem isOf_escapedString : Phrase.IsOf escapedStringTree ⟨.value, escapedString⟩ :=
  Phrase.isOf_of_expressionStatement List.mem_cons_self rfl rfl (SyntaxNode.bare?_of_ne (by decide))

theorem isOf_surrogateString : Phrase.IsOf surrogateStringTree ⟨.value, surrogateString⟩ :=
  Phrase.isOf_of_expressionStatement List.mem_cons_self rfl rfl (SyntaxNode.bare?_of_ne (by decide))

/-- In `"\x41\u{1f600}"`, both escapes are read as the characters that they stand for. -/
theorem strings_of_escapedText :
    ∃ p xs, Program.compiled moduleReader "a.js" "\"\\x41\\u\x7b1f600\x7d\"" = .ok p ∧
      IsPath (.program p) xs (.expression (.literal ⟨⟨0, 15⟩, .text "A😀"⟩)) := by
  have hcompiled := compiled_moduleReader "a.js" syntaxTree?_escapedString (by decide)
  obtain ⟨xs, s, path, hread⟩ := (strings_of_compiled hcompiled (parse?_moduleReader syntaxTree?_escapedString)
    (SyntaxNode.forall_of_subnodes (by decide +kernel))).there _ isOf_escapedString ⟨rfl, .inl rfl⟩
  have spells : Spells '"' [.escape (.byte '4' '1'), .escape (.point ['1', 'f', '6', '0', '0'])]
      "\\x41\\u\x7b1f600\x7d".toList := by
    refine .escape _ "\\u\x7b1f600\x7d".toList (forall_isHex_of_all (by decide)) (.escape _ [] ?_ .nil)
    exact ⟨by decide, forall_isHex_of_all (by decide), by decide⟩
  have value := hread.eq_of_spells (by decide) spells
  have text : String.ofList (readText
      [.escape (.byte '4' '1'), .escape (.point ['1', 'f', '6', '0', '0'])]) = "A😀" := by
    decide
  exact ⟨_, xs, hcompiled, text ▸ value ▸ path⟩

/-- **Values are not kept**: the string `"\ud83d\ude00"` has the code units of one character, and the program does not
have that character in its place. -/
theorem values_are_not_kept :
    ¬∀ (code : String) (p : Program), Program.compiled moduleReader "a.js" code = .ok p →
      ∀ root ∈ moduleReader.parse? code, ∀ q : Phrase, q.IsOf root → q.IsString → ∀ quote body es s,
        slice? .utf8 q.source.span.start q.source.span.stop code.toList = some (quote :: body ++ [quote]) →
          Spells quote es body → Digest.units s.toList = es.flatMap (·.units) →
            ∃ xs, IsPath (.program p) xs (.expression (.literal ⟨q.source.span, .text s⟩)) := by
  intro kept
  have hcompiled := compiled_moduleReader "a.js" syntaxTree?_surrogateString (by decide)
  have hroot := parse?_moduleReader syntaxTree?_surrogateString
  have spells : Spells '"' [.escape (.unit 'd' '8' '3' 'd'), .escape (.unit 'd' 'e' '0' '0')]
      "\\ud83d\\ude00".toList :=
    .escape _ "\\ude00".toList (forall_isHex_of_all (by decide))
      (.escape _ [] (forall_isHex_of_all (by decide)) .nil)
  have slice : slice? .utf8 0 14 "\"\\ud83d\\ude00\"".toList = some ('"' :: "\\ud83d\\ude00".toList ++ ['"']) := by
    decide
  obtain ⟨xs, path⟩ := kept _ _ hcompiled _ hroot _ isOf_surrogateString ⟨rfl, .inl rfl⟩ '"' _ _ "😀" slice spells
    (by decide)
  obtain ⟨_, -, -, -, hread⟩ := exists_string_of_isPath hcompiled hroot
    (SyntaxNode.forall_of_subnodes (by decide +kernel)) path
  exact absurd (hread.eq_of_spells slice spells) (by decide)

end StoryCatalog
