import StoryCatalog.Proofs.JavaScript.SyntaxTrees

/-!
# Keys in brackets

A key in brackets is computed. The members of an object pattern are marked so exactly if their keys are in brackets,
and the members of an object literal too, the methods apart: no method is marked, and this includes getters and
setters. So a look-up among the members that are not computed never finds the value of a key in brackets, but it
does find methods.

It is assumed of the parser that a key is a node of its own kind exactly if it is in brackets.

* `SyntaxNode.KeyIsWritten`: what is assumed.
* `flag_of_toObjectMember?`, `flag_of_toPatternMember?`: the flag of one member.
* `property?_iff`: what a look-up finds.
* `keys_of_compiled`: the members of the program of an accepted text, and what is looked up in its objects.
* `brackets_are_not_kept`: the key of a method may be in brackets without being computed.
-/

namespace StoryCatalog

open JavaScript

namespace JavaScript.SyntaxNode

/-! ## Members -/

/-- The key of a member. In a pattern, a member with a default has a key if its target is a name. -/
def key? (m : SyntaxNode) : Option SyntaxNode :=
  match m.kind with
  | "pair" | "pair_pattern" => m.childByField? "key"
  | "method_definition" => m.childByField? "name"
  | "shorthand_property_identifier" | "shorthand_property_identifier_pattern" => some m
  | "object_assignment_pattern" =>
    (m.childByField? "left").filter (·.kind == "shorthand_property_identifier_pattern")
  | _ => none

variable (code : List Char)

/-- A node is written in brackets. -/
def IsInBrackets (n : SyntaxNode) : Prop :=
  ['['] <+: n.text code ∧ [']'] <:+ n.text code

instance : DecidablePred (IsInBrackets code) :=
  fun n => inferInstanceAs (Decidable (['['] <+: n.text code ∧ [']'] <:+ n.text code))

/-- The key of a member is in brackets. -/
def IsBracketed (m : SyntaxNode) : Prop :=
  ∃ key ∈ m.key?, key.IsInBrackets code

/-- The key of a member, if it has one, is of a kind of its own exactly if it is in brackets. -/
def KeyIsWritten (m : SyntaxNode) : Prop :=
  ∀ key ∈ m.key?, key.kind = "computed_property_name" ↔ key.IsInBrackets code

instance : DecidablePred (KeyIsWritten code) :=
  fun m => inferInstanceAs
    (Decidable (∀ key ∈ m.key?, key.kind = "computed_property_name" ↔ key.IsInBrackets code))

/-- The expression that the key of a member becomes. -/
def keyExpression (m : SyntaxNode) : Expression :=
  match m.kind with
  | "pair" | "pair_pattern" | "method_definition" => (m.key?.map (·.toKey code)).getD .unknown
  | "object_assignment_pattern" =>
    ((m.childByField? "left").map fun left => .identifier (left.toIdentifier code)).getD .unknown
  | _ => .identifier (m.toIdentifier code)

/-- The value that a member has in a literal. -/
def value? (m : SyntaxNode) : Option Expression :=
  match m.kind with
  | "pair" => m.key?.bind fun _ => (m.childByField? "value").map (·.toExpression code)
  | "shorthand_property_identifier" => some (.identifier (m.toIdentifier code))
  | "method_definition" => some .unknown
  | _ => none

/-- What a member binds in a pattern. -/
def target? (m : SyntaxNode) : Option Pattern :=
  match m.kind with
  | "pair_pattern" => m.key?.bind fun _ => (m.childByField? "value").map (·.toPattern code)
  | "shorthand_property_identifier_pattern" => some (.identifier (m.toIdentifier code))
  | "object_assignment_pattern" => (m.childByField? "left").map fun _ => m.toPattern code
  | _ => none

/-- A member is looked up under a name: its key is spelled like it, and not in brackets unless this is a method. -/
structure IsFound (name : String) (value : Expression) (m : SyntaxNode) : Prop where
  key : (m.keyExpression code).keyName? = some name
  value : m.value? code = some value
  isMethod : m.IsBracketed code → m.kind = "method_definition"

/-- What a property is made from: a member with its key. -/
structure Makes (m : SyntaxNode) (span : Span) (key : Expression) : Prop where
  span : m.span = span
  key : m.keyExpression code = key

/-! ## One member -/

variable {code} {m : SyntaxNode} {name : String} {span : Span} {key value : Expression}
  {isComputed isShorthand : Bool}

/-- The kind of a key tells whether it is in brackets. -/
theorem isBracketed_iff (hw : m.KeyIsWritten code) {k : SyntaxNode} (hk : m.key? = some k) :
    m.IsBracketed code ↔ k.kind = "computed_property_name" := by
  rw [hw k hk]
  constructor
  · rintro ⟨k', hk', hin⟩
    cases hk.symm.trans hk'
    exact hin
  · exact fun hin => ⟨k, hk, hin⟩

theorem not_isBracketed (hw : m.KeyIsWritten code) {k : SyntaxNode} (hk : m.key? = some k)
    (hkind : k.kind ≠ "computed_property_name") : ¬m.IsBracketed code :=
  mt (isBracketed_iff hw hk).mp hkind

/-- **The flag of a member of a literal** is set exactly if its key is in brackets and it is no method. -/
theorem flag_of_toObjectMember? (hw : m.KeyIsWritten code)
    (h : m.toObjectMember? code = some (.property span key value isComputed isShorthand)) :
    m.value? code = some value ∧ m.Makes code span key ∧
      (isComputed = true ↔ m.IsBracketed code ∧ m.kind ≠ "method_definition") := by
  cases becomesMember h with
  | @pair k v kind hkey hvalue =>
    have key : m.key? = some k := by simpa [key?, kind] using hkey
    refine ⟨by simp [value?, kind, key, hvalue], ⟨rfl, by simp [keyExpression, kind, key]⟩, ?_⟩
    rw [isBracketed_iff hw key, beq_iff_eq, kind]
    simp
  | shorthand kind =>
    have key : m.key? = some m := by simp [key?, kind]
    refine ⟨by simp [value?, kind], ⟨rfl, by simp [keyExpression, kind]⟩, nofun, fun ⟨hbracketed, _⟩ => ?_⟩
    exact absurd hbracketed (not_isBracketed hw key (by simp [kind]))
  | method kind =>
    refine ⟨by simp [value?, kind], ⟨rfl, by simp [keyExpression, key?, kind]⟩, nofun, fun ⟨_, hmethod⟩ => ?_⟩
    exact absurd kind hmethod

/-- **The flag of a member of a pattern** is set exactly if its key is in brackets. -/
theorem flag_of_toPatternMember? {target : Pattern} (hw : m.KeyIsWritten code)
    (h : m.toPatternMember? code = some (.property span key target isComputed isShorthand)) :
    m.target? code = some target ∧ m.Makes code span key ∧ (isComputed = true ↔ m.IsBracketed code) := by
  cases becomesField h with
  | @pair k v kind hkey hvalue =>
    have key : m.key? = some k := by simpa [key?, kind] using hkey
    refine ⟨by simp [target?, kind, key, hvalue], ⟨rfl, by simp [keyExpression, kind, key]⟩, ?_⟩
    rw [isBracketed_iff hw key, beq_iff_eq]
  | shorthand kind =>
    have key : m.key? = some m := by simp [key?, kind]
    refine ⟨by simp [target?, kind], ⟨rfl, by simp [keyExpression, kind]⟩, nofun, fun hbracketed => ?_⟩
    exact absurd hbracketed (not_isBracketed hw key (by simp [kind]))
  | default kind hleft =>
    refine ⟨by simp [target?, kind, hleft], ⟨rfl, by simp [keyExpression, kind, hleft]⟩, nofun, ?_⟩
    -- The key is a name, so it is in no brackets.
    rintro ⟨k, hkey, hin⟩
    have shorthand : k.kind = "shorthand_property_identifier_pattern" := by
      have : (m.childByField? "left").filter (·.kind == "shorthand_property_identifier_pattern") = some k := by
        simpa [key?, kind] using hkey
      exact beq_iff_eq.mp (Option.filter_eq_some_iff.mp this).2
    have := (hw k hkey).mpr hin
    simp [shorthand] at this

/-- A member with a value is a property. -/
theorem exists_toObjectMember?_eq (h : m.value? code = some value) : ∃ span key isComputed isShorthand,
    m.toObjectMember? code = some (.property span key value isComputed isShorthand) := by
  rw [value?] at h
  split at h
  next hk =>
    obtain ⟨k, hkey, h⟩ := Option.bind_eq_some_iff.mp h
    obtain ⟨v, hvalue, rfl⟩ := Option.map_eq_some_iff.mp h
    have key : m.childByField? "key" = some k := by simpa [key?, hk] using hkey
    rw [toObjectMember?_pair hk, key, hvalue]
    exact ⟨_, _, _, _, rfl⟩
  next hk =>
    cases h
    exact ⟨_, _, _, _, toObjectMember?_shorthand hk⟩
  next hk =>
    cases h
    exact ⟨_, _, _, _, toObjectMember?_method hk⟩
  next => cases h

/-- A member that binds something is a property. -/
theorem exists_toPatternMember?_eq {target : Pattern} (h : m.target? code = some target) :
    ∃ span key isComputed isShorthand,
      m.toPatternMember? code = some (.property span key target isComputed isShorthand) := by
  rw [target?] at h
  split at h
  next hk =>
    obtain ⟨k, hkey, h⟩ := Option.bind_eq_some_iff.mp h
    obtain ⟨v, hvalue, rfl⟩ := Option.map_eq_some_iff.mp h
    have key : m.childByField? "key" = some k := by simpa [key?, hk] using hkey
    rw [toPatternMember?_pair hk, key, hvalue]
    exact ⟨_, _, _, _, rfl⟩
  next hk =>
    cases h
    exact ⟨_, _, _, _, toPatternMember?_shorthand hk⟩
  next hk =>
    obtain ⟨left, hleft, rfl⟩ := Option.map_eq_some_iff.mp h
    rw [toPatternMember?_default hk, hleft]
    exact ⟨_, _, _, _, rfl⟩
  next => cases h

/-! ## Look-ups -/

theorem valueOf?_property_iff {value' : Expression} :
    (ObjectMember.property span key value isComputed isShorthand).valueOf? name = some value' ↔
      key.keyName? = some name ∧ value = value' ∧ isComputed = false := by
  cases isComputed <;> simp [ObjectMember.valueOf?]

/-- What is looked up in a literal with one member. -/
theorem isFound_iff (hw : m.KeyIsWritten code) :
    m.IsFound code name value ↔ (m.toObjectMember? code).bind (·.valueOf? name) = some value := by
  rw [Option.bind_eq_some_iff]
  constructor
  · intro found
    obtain ⟨span, key, isComputed, isShorthand, hm⟩ := exists_toObjectMember?_eq found.value
    obtain ⟨-, makes, flag⟩ := flag_of_toObjectMember? hw hm
    refine ⟨_, hm, valueOf?_property_iff.mpr ⟨makes.key ▸ found.key, rfl, ?_⟩⟩
    rw [Bool.eq_false_iff, ne_eq, flag]
    exact fun ⟨hbracketed, hmethod⟩ => hmethod (found.isMethod hbracketed)
  · rintro ⟨n, hm, hn⟩
    cases n with
    | spread => cases hn
    | property span key value' isComputed isShorthand =>
      obtain ⟨hkey, rfl, hflag⟩ := valueOf?_property_iff.mp hn
      obtain ⟨hvalue, makes, flag⟩ := flag_of_toObjectMember? hw hm
      refine ⟨makes.key ▸ hkey, hvalue, fun hbracketed => ?_⟩
      by_contra hmethod
      rw [flag.mpr ⟨hbracketed, hmethod⟩] at hflag
      cases hflag

/-- **What is looked up in an object** is the value of the first member that is found. -/
theorem property?_iff {ms : List SyntaxNode} (hw : ∀ m ∈ ms, m.KeyIsWritten code) (span : Span) (name : String)
    (value : Expression) :
    (ObjectLiteral.mk span (ms.filterMap (·.toObjectMember? code))).property? name = some value ↔
      ∃ before m after, ms = before ++ m :: after ∧ m.IsFound code name value ∧
        ∀ b ∈ before, ∀ v, ¬b.IsFound code name v := by
  rw [ObjectLiteral.property?, ← List.head?_filterMap, List.filterMap_filterMap, List.head?_filterMap,
    List.findSome?_eq_some_iff]
  refine exists_congr fun before => exists_congr fun m => exists_congr fun after => and_congr_right fun hms => ?_
  subst hms
  refine and_congr (isFound_iff (hw m (by simp))).symm ?_
  refine forall_congr' fun b => forall_congr' fun hb => ?_
  rw [Option.eq_none_iff_forall_ne_some]
  exact forall_congr' fun v => not_congr (isFound_iff (hw b (by simp [hb]))).symm

end JavaScript.SyntaxNode

/-! ## Programs -/

/-- The properties of a program are the members of a tree that have a value, and their flags say whether the keys are in
brackets, but for methods. So a look-up in an object finds members whose keys are not in brackets, and methods. -/
structure KeysOf (root : SyntaxNode) (code : List Char) (p : Program) : Prop where
  /-- The members of literals. -/
  members : ∀ xs span key value isComputed isShorthand,
    IsPath (.program p) xs (.objectMember (.property span key value isComputed isShorthand)) →
      ∃ m, Phrase.IsOf root ⟨.member, m⟩ ∧ m.value? code = some value ∧ m.Makes code span key ∧
        (isComputed = true ↔ m.IsBracketed code ∧ m.kind ≠ "method_definition")
  /-- Those of patterns. -/
  fields : ∀ xs span key target isComputed isShorthand,
    IsPath (.program p) xs (.patternMember (.property span key target isComputed isShorthand)) →
      ∃ m, Phrase.IsOf root ⟨.field, m⟩ ∧ m.target? code = some target ∧ m.Makes code span key ∧
        (isComputed = true ↔ m.IsBracketed code)
  /-- Every member with a value is there. -/
  membersThere : ∀ m value, Phrase.IsOf root ⟨.member, m⟩ → m.value? code = some value →
    ∃ xs span key isComputed isShorthand,
      IsPath (.program p) xs (.objectMember (.property span key value isComputed isShorthand)) ∧
        m.Makes code span key ∧ (isComputed = true ↔ m.IsBracketed code ∧ m.kind ≠ "method_definition")
  fieldsThere : ∀ m target, Phrase.IsOf root ⟨.field, m⟩ → m.target? code = some target →
    ∃ xs span key isComputed isShorthand,
      IsPath (.program p) xs (.patternMember (.property span key target isComputed isShorthand)) ∧
        m.Makes code span key ∧ (isComputed = true ↔ m.IsBracketed code)
  /-- What is looked up in an object. -/
  found : ∀ xs o, IsPath (.program p) xs (.expression (.object o)) →
    ∃ n, Phrase.IsOf root ⟨.value, n⟩ ∧ n.kind = "object" ∧ n.span = o.span ∧
      ∀ name value, o.property? name = some value ↔
        ∃ before m after, n.named = before ++ m :: after ∧ m.IsFound code name value ∧
          ∀ b ∈ before, ∀ v, ¬b.IsFound code name v

section

variable {parser : Parser} {file code : String} {p : Program} {root : SyntaxNode}

theorem exists_member_of_isPath (h : Program.compiled parser file code = .ok p)
    (hroot : parser.parse? code = some root) {xs : List Stored} {m : ObjectMember}
    (path : IsPath (.program p) xs (.objectMember m)) :
    ∃ n : SyntaxNode, Phrase.IsOf root ⟨.member, n⟩ ∧ n.toObjectMember? code.toList = some m := by
  obtain ⟨⟨_, n⟩, hq, hn⟩ := exists_phrase_of_isPath h hroot path nofun
  obtain ⟨rfl, hm⟩ := Phrase.eq_member_of_mem_nodes hn
  exact ⟨n, hq, hm⟩

theorem exists_field_of_isPath (h : Program.compiled parser file code = .ok p)
    (hroot : parser.parse? code = some root) {xs : List Stored} {m : PatternMember}
    (path : IsPath (.program p) xs (.patternMember m)) :
    ∃ n : SyntaxNode, Phrase.IsOf root ⟨.field, n⟩ ∧ n.toPatternMember? code.toList = some m := by
  obtain ⟨⟨_, n⟩, hq, hn⟩ := exists_phrase_of_isPath h hroot path nofun
  obtain ⟨rfl, hm⟩ := Phrase.eq_field_of_mem_nodes hn
  exact ⟨n, hq, hm⟩

theorem exists_object_of_isPath (h : Program.compiled parser file code = .ok p)
    (hroot : parser.parse? code = some root) {xs : List Stored} {o : ObjectLiteral}
    (path : IsPath (.program p) xs (.expression (.object o))) : ∃ n : SyntaxNode, Phrase.IsOf root ⟨.value, n⟩ ∧
      n.kind = "object" ∧ o = ⟨n.span, n.named.filterMap (·.toObjectMember? code.toList)⟩ := by
  obtain ⟨⟨_, n⟩, hq, hn⟩ := exists_phrase_of_isPath h hroot path nofun
  obtain ⟨rfl, object, he⟩ := Phrase.value_of_soleKind? hn rfl (by decide)
  rw [SyntaxNode.toExpression_object object] at he
  exact ⟨n, hq, object, Expression.object.inj he⟩

/-- **The members of a program** are marked as computed exactly if their keys are in brackets, the methods apart: these
are not marked, and a look-up finds them also if their keys are in brackets. -/
theorem keys_of_compiled (h : Program.compiled parser file code = .ok p) (hroot : parser.parse? code = some root)
    (hw : ∀ n, root.Contains n → n.KeyIsWritten code.toList) : KeysOf root code.toList p where
  members := by
    intro xs span key value isComputed isShorthand path
    obtain ⟨m, hm, hn⟩ := exists_member_of_isPath h hroot path
    exact ⟨m, hm, SyntaxNode.flag_of_toObjectMember? (hw m hm.contains) hn⟩
  fields := by
    intro xs span key target isComputed isShorthand path
    obtain ⟨m, hm, hn⟩ := exists_field_of_isPath h hroot path
    exact ⟨m, hm, SyntaxNode.flag_of_toPatternMember? (hw m hm.contains) hn⟩
  membersThere := by
    intro m value hm hvalue
    obtain ⟨span, key, isComputed, isShorthand, hn⟩ := SyntaxNode.exists_toObjectMember?_eq hvalue
    have node := List.mem_map_of_mem (f := Node.objectMember) (Option.mem_toList.mpr hn)
    obtain ⟨xs, path⟩ := (exists_isPath_iff h hroot).mpr (.inr ⟨_, hm, node⟩)
    exact ⟨xs, span, key, isComputed, isShorthand, path,
      (SyntaxNode.flag_of_toObjectMember? (hw m hm.contains) hn).2⟩
  fieldsThere := by
    intro m target hm htarget
    obtain ⟨span, key, isComputed, isShorthand, hn⟩ := SyntaxNode.exists_toPatternMember?_eq htarget
    have node := List.mem_map_of_mem (f := Node.patternMember) (Option.mem_toList.mpr hn)
    obtain ⟨xs, path⟩ := (exists_isPath_iff h hroot).mpr (.inr ⟨_, hm, node⟩)
    exact ⟨xs, span, key, isComputed, isShorthand, path,
      (SyntaxNode.flag_of_toPatternMember? (hw m hm.contains) hn).2⟩
  found := by
    intro xs o path
    obtain ⟨n, hq, hkind, rfl⟩ := exists_object_of_isPath h hroot path
    refine ⟨n, hq, hkind, rfl, fun name value => SyntaxNode.property?_iff (fun m hm => ?_) n.span name value⟩
    exact hw m (hq.contains.trans (SyntaxNode.contains_of_mem_named hm))

end

/-! ## Objects with one member -/

/-- The member of the object in `({[a]:b})`. -/
def bracketedPair : SyntaxNode :=
  .made "pair" ⟨2, 7⟩ [
    .inField (.made "computed_property_name" ⟨2, 5⟩ [.token "[" ⟨2, 3⟩, .leaf "identifier" ⟨3, 4⟩, .token "]" ⟨4, 5⟩])
      "key",
    .token ":" ⟨5, 6⟩, .inField (.leaf "identifier" ⟨6, 7⟩) "value"]

/-- The object. -/
def bracketedPairObject : SyntaxNode :=
  .made "object" ⟨1, 8⟩ [.token "\x7b" ⟨1, 2⟩, bracketedPair, .token "\x7d" ⟨7, 8⟩]

/-- The tree of `({[a]:b})`. -/
def bracketedPairTree : SyntaxNode :=
  .made "program" ⟨0, 9⟩ [.made "expression_statement" ⟨0, 9⟩ [.made "parenthesized_expression" ⟨0, 9⟩ [
    .token "(" ⟨0, 1⟩, bracketedPairObject, .token ")" ⟨8, 9⟩]]]

/-- The text `({[a](){}})`. -/
def methodText : String :=
  "(\x7b[a]()\x7b\x7d\x7d)"

/-- The member of the object in it. -/
def bracketedMethod : SyntaxNode :=
  .made "method_definition" ⟨2, 9⟩ [
    .inField (.made "computed_property_name" ⟨2, 5⟩ [.token "[" ⟨2, 3⟩, .leaf "identifier" ⟨3, 4⟩, .token "]" ⟨4, 5⟩])
      "name",
    .inField (.made "formal_parameters" ⟨5, 7⟩ [.token "(" ⟨5, 6⟩, .token ")" ⟨6, 7⟩]) "parameters",
    .inField (.made "statement_block" ⟨7, 9⟩ [.token "\x7b" ⟨7, 8⟩, .token "\x7d" ⟨8, 9⟩]) "body"]

/-- The object. -/
def bracketedMethodObject : SyntaxNode :=
  .made "object" ⟨1, 10⟩ [.token "\x7b" ⟨1, 2⟩, bracketedMethod, .token "\x7d" ⟨9, 10⟩]

/-- The tree of `({[a](){}})`. -/
def bracketedMethodTree : SyntaxNode :=
  .made "program" ⟨0, 11⟩ [.made "expression_statement" ⟨0, 11⟩ [.made "parenthesized_expression" ⟨0, 11⟩ [
    .token "(" ⟨0, 1⟩, bracketedMethodObject, .token ")" ⟨10, 11⟩]]]

theorem syntaxTree?_bracketedPair : syntaxTree? "(\x7b[a]:b\x7d)" = some bracketedPairTree := by
  decide +kernel

theorem syntaxTree?_bracketedMethod : syntaxTree? methodText = some bracketedMethodTree := by
  decide +kernel

theorem isOf_bracketedPairObject : Phrase.IsOf bracketedPairTree ⟨.value, bracketedPairObject⟩ :=
  Phrase.isOf_of_expressionStatement List.mem_cons_self rfl rfl
    ((SyntaxNode.bare?_parenthesized rfl).trans (SyntaxNode.bare?_of_ne (by decide)))

theorem isOf_bracketedMethodObject : Phrase.IsOf bracketedMethodTree ⟨.value, bracketedMethodObject⟩ :=
  Phrase.isOf_of_expressionStatement List.mem_cons_self rfl rfl
    ((SyntaxNode.bare?_parenthesized rfl).trans (SyntaxNode.bare?_of_ne (by decide)))

/-- The member of the object in `({[a]:b})` is computed. -/
theorem keys_of_bracketedPair : ∃ p xs span key value isShorthand,
    Program.compiled moduleReader "a.js" "(\x7b[a]:b\x7d)" = .ok p ∧
      IsPath (.program p) xs (.objectMember (.property span key value true isShorthand)) := by
  have hcompiled := compiled_moduleReader "a.js" syntaxTree?_bracketedPair (by decide)
  have member : Phrase.IsOf bracketedPairTree ⟨.member, bracketedPair⟩ :=
    isOf_bracketedPairObject.inner List.mem_cons_self
  obtain ⟨xs, span, key, isComputed, isShorthand, path, -, flag⟩ :=
    (keys_of_compiled hcompiled (parse?_moduleReader syntaxTree?_bracketedPair)
      (SyntaxNode.forall_of_subnodes (by decide))).membersThere _ _ member rfl
  have bracketed : bracketedPair.IsBracketed "(\x7b[a]:b\x7d)".toList := ⟨_, rfl, by decide⟩
  rw [flag.mpr ⟨bracketed, by decide⟩] at path
  exact ⟨_, xs, span, key, _, isShorthand, hcompiled, path⟩

/-- The method in `({[a](){}})` is looked up under the name in its brackets. -/
theorem isFound_bracketedMethod : bracketedMethod.IsFound methodText.toList "a" .unknown where
  key := by
    have key : bracketedMethod.keyExpression methodText.toList = .identifier ⟨⟨3, 4⟩, "a"⟩ :=
      (SyntaxNode.toKey_computed rfl).trans <| (SyntaxNode.toInner_eq _).trans <|
        (SyntaxNode.toExpression_identifier rfl).trans (congrArg Expression.identifier (by decide))
    rw [key]
    rfl
  value := rfl
  isMethod _ := rfl

/-- **Brackets are not kept**: the flag of a member does not say whether its key is in brackets, and what is looked up
in an object under a name need not be the value of a member whose key is not. -/
theorem brackets_are_not_kept :
    (¬∀ (code : String) (p : Program), Program.compiled moduleReader "a.js" code = .ok p →
      ∀ root ∈ moduleReader.parse? code, ∀ m span key value isComputed isShorthand, Phrase.IsOf root ⟨.member, m⟩ →
        m.toObjectMember? code.toList = some (.property span key value isComputed isShorthand) →
          (∃ xs, IsPath (.program p) xs (.objectMember (.property span key value isComputed isShorthand))) →
            (isComputed = true ↔ m.IsBracketed code.toList)) ∧
    ¬∀ (code : String) (p : Program), Program.compiled moduleReader "a.js" code = .ok p →
      ∀ xs o, IsPath (.program p) xs (.expression (.object o)) → ∀ name value, o.property? name = some value →
        ∀ root ∈ moduleReader.parse? code, ∀ n, Phrase.IsOf root ⟨.value, n⟩ → n.span = o.span →
          ∃ m ∈ n.named, m.IsFound code.toList name value ∧ ¬m.IsBracketed code.toList := by
  have hcompiled := compiled_moduleReader "a.js" syntaxTree?_bracketedMethod (by decide)
  have hroot := parse?_moduleReader syntaxTree?_bracketedMethod
  have bracketed : bracketedMethod.IsBracketed methodText.toList := ⟨_, rfl, by decide⟩
  constructor
  · intro kept
    have member : Phrase.IsOf bracketedMethodTree ⟨.member, bracketedMethod⟩ :=
      isOf_bracketedMethodObject.inner List.mem_cons_self
    have hn : bracketedMethod.toObjectMember? methodText.toList = some (.property _ _ _ false false) :=
      SyntaxNode.toObjectMember?_method rfl
    have node := List.mem_map_of_mem (f := Node.objectMember) (Option.mem_toList.mpr hn)
    have path := (exists_isPath_iff hcompiled hroot).mpr (.inr ⟨_, member, node⟩)
    cases (kept _ _ hcompiled _ hroot _ _ _ _ _ _ member hn path).mpr bracketed
  · intro kept
    have object : bracketedMethodObject.toExpression methodText.toList = .object ⟨⟨1, 10⟩, _⟩ :=
      SyntaxNode.toExpression_object rfl
    have node : .expression (.object ⟨⟨1, 10⟩, _⟩) ∈ Phrase.nodes methodText.toList ⟨.value, bracketedMethodObject⟩ :=
      Phrase.mem_nodes_value.mpr ⟨by decide, congrArg Node.expression object.symm⟩
    obtain ⟨xs, path⟩ := (exists_isPath_iff hcompiled hroot).mpr (.inr ⟨_, isOf_bracketedMethodObject, node⟩)
    have keys : ∀ m ∈ bracketedMethodObject.named, m.KeyIsWritten methodText.toList := by
      decide
    have lookup := (SyntaxNode.property?_iff keys ⟨1, 10⟩ "a" .unknown).mpr
      ⟨[], bracketedMethod, [], rfl, isFound_bracketedMethod, nofun⟩
    obtain ⟨m, hm, -, hbare⟩ := kept _ _ hcompiled xs _ path _ _ lookup _ hroot _ isOf_bracketedMethodObject rfl
    rw [List.mem_singleton.mp hm] at hbare
    exact hbare bracketed

end StoryCatalog
