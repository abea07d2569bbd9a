import StoryCatalog.Proofs.Story.Markers
import StoryCatalog.Proofs.Story.RawSources
import StoryCatalog.Proofs.Tree.Relocations

/-!
# What is read off a tree with other offsets

Names, texts and static values are read off a tree without regard to its offsets. So the attributes of a
relocated element say what those of the element say, and the scripts of a relocated document say the same,
with other offsets only in the objects that they are given.

* `Element.staticValue_relocate`: the static value of an attribute.
* `ScriptFacts.resolve_relocate`: what the scripts of a document say.
* `Fragment.sightings_relocate`, `firstSnippet?_relocate`: the markers with the comments before them, and the
  snippets.
-/

namespace StoryCatalog

open Rose

/-- A failure with other offsets. -/
def Failure.relocate (f : Nat → Nat) : Failure → Failure
  | missingStoryName file offset => missingStoryName file (f offset)
  | missingStoryIdentity file offset => missingStoryIdentity file (f offset)
  | spanOutOfBounds file span => spanOutOfBounds file (span.relocate f)
  | c => c

/-- The answer of a pass over a relocated tree: the image of the answer, or the failure with other offsets. -/
def relocateAnswer {α : Type} (f : Nat → Nat) (image : α → α) : Except Failure α → Except Failure α
  | .ok a => .ok (image a)
  | .error c => .error (c.relocate f)

variable (f : Nat → Nat)

/-! ## Names -/

theorem ImportedName.text?_relocate (n : ImportedName) : (n.relocate f).text? = n.text? := by
  cases n <;> rfl

theorem Expression.identifier?_relocate (e : Expression) :
    (e.relocate f).identifier? = e.identifier?.map (·.relocate f) := by
  cases e <;> rfl

theorem Expression.object?_relocate (e : Expression) :
    (e.relocate f).object? = e.object?.map (·.relocate f) := by
  cases e <;> rfl

theorem Expression.keyName?_relocate (e : Expression) : (e.relocate f).keyName? = e.keyName? := by
  cases e <;> rfl

theorem map_name_relocate (i : Option Identifier) :
    (i.map (·.relocate f)).map (·.name) = i.map (·.name) := by
  cases i <;> rfl

theorem Expression.calleeName?_relocate (e : Expression) :
    (e.relocate f).calleeName? = e.calleeName? := by
  cases e with
  | call _ callee _ =>
    exact (congrArg _ (callee.identifier?_relocate f)).trans (map_name_relocate f _)
  | _ => rfl

theorem Pattern.identifier?_relocate (p : Pattern) :
    (p.relocate f).identifier? = p.identifier?.map (·.relocate f) := by
  cases p <;> rfl

theorem ObjectMember.valueOf?_relocate (name : String) (m : ObjectMember) :
    (m.relocate f).valueOf? name = (m.valueOf? name).map (·.relocate f) := by
  cases m with
  | property _ key value isComputed _ =>
    cases isComputed
    · simp only [ObjectMember.relocate, ObjectMember.valueOf?, key.keyName?_relocate]
      split <;> rfl
    · rfl
  | spread => rfl

theorem ObjectLiteral.property?_relocate (name : String) (o : ObjectLiteral) :
    (o.relocate f).property? name = (o.property? name).map (·.relocate f) := by
  obtain ⟨_, ms⟩ := o
  simp only [ObjectLiteral.relocate, ObjectLiteral.property?, relocateMembers_eq, List.findSome?_map,
    Function.comp_def, ObjectMember.valueOf?_relocate, List.map_findSome?]

theorem PatternMember.bindingOf?_relocate (name : String) (m : PatternMember) :
    (m.relocate f).bindingOf? name = (m.bindingOf? name).map (·.relocate f) := by
  cases m with
  | property _ key value _ _ =>
    simp only [PatternMember.relocate, PatternMember.bindingOf?, key.keyName?_relocate,
      value.identifier?_relocate]
    split <;> rfl
  | rest => rfl

theorem PatternMember.binding?_relocate (name : String) (ms : List PatternMember) :
    PatternMember.binding? name (ms.map (·.relocate f)) =
      (PatternMember.binding? name ms).map (·.relocate f) := by
  simp only [PatternMember.binding?, List.findSome?_map, Function.comp_def,
    PatternMember.bindingOf?_relocate, List.map_findSome?]

/-! ## Static values -/

namespace StaticValue

mutual

theorem ofExpression_relocate (e : Expression) : ofExpression (e.relocate f) = ofExpression e := by
  cases e with
  | array _ es => exact congrArg array (ofElements_relocate es)
  | template _ quasis es =>
    rcases quasis with _ | ⟨_ | _, _ | _⟩ <;> cases es <;> rfl
  | literal l =>
    obtain ⟨_, _ | _ | _ | _⟩ := l <;> rfl
  | _ => rfl

theorem ofElements_relocate (es : List (Option Expression)) :
    ofElements (relocateElements f es) = ofElements es := by
  rcases es with _ | ⟨_ | e, es⟩
  · rfl
  · exact congrArg (absent :: ·) (ofElements_relocate es)
  · rw [relocateElements, ofElements, ofElements, ofExpression_relocate e, ofElements_relocate es]

end

theorem ofAttribute_relocate (v : AttributeValue) : ofAttribute (v.relocate f) = ofAttribute v := by
  rcases v with _ | t | _ | ⟨_ | t, _ | _⟩
  · rfl
  · exact ofExpression_relocate f t.expression
  · rfl
  · rfl
  · rfl
  · exact ofExpression_relocate f t.expression
  · rfl

end StaticValue

/-! ## Attributes -/

namespace Element

theorem valueIn?_relocate (name : String) (a : AttributeNode) :
    valueIn? name (a.relocate f) = (valueIn? name a).map (·.relocate f) := by
  cases a with
  | plain a =>
    simp only [AttributeNode.relocate, Attribute.relocate, valueIn?]
    split <;> rfl
  | _ => rfl

theorem attribute?_relocate (e : Element) (name : String) :
    (e.relocate f).attribute? name = (e.attribute? name).map (·.relocate f) := by
  obtain ⟨_, _, as, _⟩ := e
  simp only [Element.relocate, attribute?, List.findSome?_map, Function.comp_def, valueIn?_relocate,
    List.map_findSome?]

theorem staticValue_relocate (e : Element) (name : String) :
    (e.relocate f).staticValue name = e.staticValue name := by
  unfold staticValue
  rw [e.attribute?_relocate]
  cases e.attribute? name with
  | none => rfl
  | some v => exact StaticValue.ofAttribute_relocate f v

theorem expression?_relocate (e : Element) (name : String) :
    (e.relocate f).expression? name = (e.expression? name).map (·.relocate f) := by
  unfold expression?
  rw [e.attribute?_relocate]
  rcases e.attribute? name with _ | _ | _ | _ | ⟨_ | _, _ | _⟩ <;> rfl

theorem childrenSnippet?_relocate (e : Element) :
    (e.relocate f).childrenSnippet? = e.childrenSnippet? := by
  unfold childrenSnippet?
  rw [e.expression?_relocate]
  cases e.expression? "children" with
  | none => rfl
  | some x => exact (congrArg _ (x.identifier?_relocate f)).trans (map_name_relocate f _)

end Element

/-! ## Scripts -/

theorem ObjectLiteral.identifierName?_relocate (o : ObjectLiteral) (name : String) :
    (o.relocate f).identifierName? name = o.identifierName? name := by
  unfold identifierName?
  rw [o.property?_relocate]
  cases o.property? name with
  | none => rfl
  | some x => exact (congrArg _ (x.identifier?_relocate f)).trans (map_name_relocate f _)

namespace ScriptFacts

/-- What scripts say, with other offsets in the objects. -/
def relocate (x : ScriptFacts) : ScriptFacts :=
  { x with
    metaObject := x.metaObject.map (·.relocate f)
    legacyMetaObject := x.legacyMetaObject.map (·.relocate f) }

theorem component?_relocate (x : ScriptFacts) : (x.relocate f).component? = x.component? := by
  have hm : (x.relocate f).meta? = x.meta?.map (·.relocate f) := by
    unfold meta? relocate
    cases x.metaObject <;> rfl
  unfold component?
  rw [hm]
  cases x.meta? with
  | none => rfl
  | some o => exact o.identifierName?_relocate f "component"

theorem readClause_relocate (file package : String) (x : ScriptFacts) (c : ImportClause) :
    readClause file package (x.relocate f) (c.relocate f) =
      relocateAnswer f (·.relocate f) (readClause file package x c) := by
  cases c with
  | named s =>
    simp only [ImportClause.relocate, ImportSpecifier.relocate, readClause,
      s.imported.text?_relocate f]
    split <;> rfl
  | _ => rfl

theorem readImport_relocate (file package : String) (x : ScriptFacts) (d : ImportDeclaration) :
    readImport file package (x.relocate f) (d.relocate f) =
      relocateAnswer f (·.relocate f) (readImport file package x d) := by
  have hc : ∀ (cs : List ImportClause) (x : ScriptFacts),
      (cs.map (·.relocate f)).foldlM (readClause file package) (x.relocate f) =
        relocateAnswer f (·.relocate f) (cs.foldlM (readClause file package) x) := by
    intro cs
    induction cs with
    | nil => exact fun _ => rfl
    | cons c cs ih =>
      intro x
      rw [List.map_cons, List.foldlM_cons, List.foldlM_cons, readClause_relocate]
      cases readClause file package x c with
      | error cause => rfl
      | ok y => exact ih y
  unfold readImport
  by_cases hs : d.source.text? = some package
  · rw [if_pos hs, ← hc]
    exact if_pos hs
  · rw [if_neg hs]
    exact if_neg hs

theorem arguments_relocate (e : Expression) :
    arguments (e.relocate f) = (arguments e).map (·.relocate f) := by
  cases e with
  | call _ _ es => exact relocateExpressions_eq f es
  | _ => rfl

theorem callsDefineMeta_relocate (x : ScriptFacts) (e : Expression) :
    (x.relocate f).callsDefineMeta (e.relocate f) = x.callsDefineMeta e := by
  unfold callsDefineMeta
  rw [e.calleeName?_relocate]
  rfl

theorem readDefineMeta_relocate (file : String) (x : ScriptFacts) (id : Pattern) (es : List Expression) :
    (x.relocate f).readDefineMeta file (id.relocate f) (es.map (·.relocate f)) =
      relocateAnswer f (·.relocate f) (x.readDefineMeta file id es) := by
  cases id with
  | object _ ms =>
    have ho : (es.map (·.relocate f)).head?.bind (·.object?) =
        (es.head?.bind (·.object?)).map (·.relocate f) := by
      cases es with
      | nil => rfl
      | cons e _ => exact e.object?_relocate f
    simp only [Pattern.relocate, relocatePatternMembers_eq, readDefineMeta, ho,
      PatternMember.binding?_relocate]
    cases es.head?.bind (·.object?) with
    | none => rfl
    | some o => cases PatternMember.binding? "Story" ms <;> rfl
  | _ => rfl

theorem readDeclarator_relocate (file : String) (x : ScriptFacts) (d : Declarator) :
    (x.relocate f).readDeclarator file (d.relocate f) =
      (x.readDeclarator file d).map (relocateAnswer f (·.relocate f)) := by
  obtain ⟨_, id, _ | e⟩ := d
  · rfl
  · simp only [Declarator.relocate, relocateOptional, readDeclarator, callsDefineMeta_relocate,
      arguments_relocate, readDefineMeta_relocate]
    split <;> rfl

theorem exportedMeta?_relocate (d : Declarator) :
    exportedMeta? (d.relocate f) = (exportedMeta? d).map (·.relocate f) := by
  obtain ⟨_, id, init⟩ := d
  have hi : (id.relocate f).identifier?.any (·.name == "meta") = id.identifier?.any (·.name == "meta") := by
    rw [id.identifier?_relocate]
    cases id.identifier? <;> rfl
  simp only [Declarator.relocate, exportedMeta?, hi]
  split
  · cases init with
    | none => rfl
    | some e => exact e.object?_relocate f
  · rfl

theorem readExport_relocate (x : ScriptFacts) (s : Option Statement) :
    (x.relocate f).readExport (s.map (·.relocate f)) = (x.readExport s).relocate f := by
  rcases s with _ | s
  · rfl
  cases s with
  | declaration d =>
    obtain ⟨_, _, ds⟩ := d
    have hl : ((ds.map (·.relocate f)).filterMap exportedMeta?).getLast? =
        (ds.filterMap exportedMeta?).getLast?.map (·.relocate f) := by
      rw [List.filterMap_map, ← List.getLast?_map, List.map_filterMap]
      exact congrArg _ (List.filterMap_congr fun d _ => exportedMeta?_relocate f d)
    simp only [Option.map_some, Statement.relocate, VariableDeclaration.relocate,
      relocateDeclarators_eq, readExport, hl]
    cases (ds.filterMap exportedMeta?).getLast? <;> rfl
  | namedExport _ s => cases s <;> rfl
  | _ => rfl

theorem readCall_relocate (x : ScriptFacts) (e : Expression) :
    (x.relocate f).readCall (e.relocate f) = (x.readCall e).relocate f := by
  unfold readCall
  rw [e.calleeName?_relocate, arguments_relocate]
  split
  · cases arguments e with
    | nil => rfl
    | cons a _ =>
      simp only [List.map_cons, List.head?_cons, Option.bind_some, a.identifier?_relocate]
      cases a.identifier? <;> rfl
  · rfl

theorem settled_relocate (x : ScriptFacts) (a : Except Failure ScriptFacts) :
    (x.relocate f).settled (relocateAnswer f (·.relocate f) a) =
      (x.settled a).map (·.relocate f) (·.mapStop (·.relocate f)) := by
  cases a <;> rfl

/-- What a relocated node says is what the node says, relocated. -/
theorem visit_relocate (file package : String) (k : Unit) (n : Node) (x : ScriptFacts) :
    visit file package k (n.relocate f) (x.relocate f) =
      (visit file package k n x).map (·.relocate f) (·.mapStop (·.relocate f)) := by
  cases n with
  | statement s =>
    cases s with
    | imports d =>
      have hd := readImport_relocate f file package x d
      exact (congrArg (x.relocate f).settled hd).trans (settled_relocate f x _)
    | namedExport _ s =>
      have hx := readExport_relocate f x s
      cases s with
      | none => rfl
      | some s => exact congrArg (·, Step.descend ()) hx
    | _ => rfl
  | declarator d =>
    simp only [Node.relocate, visit, readDeclarator_relocate]
    cases x.readDeclarator file d with
    | none => rfl
    | some a => exact settled_relocate f x a
  | expression e => exact congrArg (·, Step.descend ()) (readCall_relocate f x e)
  | _ => rfl

/-- **What the scripts of a relocated document say.** -/
theorem resolve_relocate (file package : String) (r : Root) :
    resolve file package (r.relocate f) = relocateAnswer f (·.relocate f) (resolve file package r) := by
  have ho : (r.relocate f).outline = r.outline.map (·.relocate f) := Node.outline_relocate f (.root r)
  have hw : (r.relocate f).outline.walk (visit file package) () ScriptFacts.none =
      (r.outline.walk (visit file package) () ScriptFacts.none).map (·.relocate f) (·.map (·.relocate f)) := by
    rw [ho]
    exact walk_map (visit_relocate f file package) () ScriptFacts.none r.outline
  unfold resolve
  rw [hw]
  rcases r.outline.walk (visit file package) () ScriptFacts.none with ⟨x, _ | c⟩ <;> rfl

end ScriptFacts

/-! ## Markers -/

theorem Element.span_relocate (e : Element) : (e.relocate f).span = e.span.relocate f := by
  obtain ⟨_, _, _, _⟩ := e
  rfl

theorem Element.fragment_relocate (e : Element) :
    (e.relocate f).fragment = e.fragment.relocate f := by
  obtain ⟨_, _, _, _⟩ := e
  rfl

namespace MarkupNode

theorem span_relocate (n : MarkupNode) : (n.relocate f).span = n.span.relocate f := by
  cases n with
  | element _ e => exact e.span_relocate f
  | snippet s =>
    obtain ⟨_, _, _, _⟩ := s
    rfl
  | _ => rfl

theorem marker?_relocate (tag : String) (n : MarkupNode) :
    (n.relocate f).marker? tag = (n.marker? tag).map (·.relocate f) := by
  rcases n with _ | _ | _ | ⟨_ | _ | _, e⟩ | _ | _ | _ | _ | _ | _
  case element.component =>
    obtain ⟨_, name, _, _⟩ := e
    simp only [relocate, Element.relocate, marker?]
    split <;> rfl
  all_goals rfl

theorem isMarker_relocate (tag : String) (n : MarkupNode) :
    (n.relocate f).isMarker tag = n.isMarker tag := by
  rw [isMarker, isMarker, n.marker?_relocate, Option.isSome_map]

theorem latestComment_relocate (tag : String) (latest : Option Comment) (n : MarkupNode) :
    (n.relocate f).latestComment tag (latest.map (·.relocate f)) =
      (n.latestComment tag latest).map (·.relocate f) := by
  have hm := n.isMarker_relocate f tag
  cases n with
  | comment c => rfl
  | _ =>
    simp only [relocate, latestComment] at hm ⊢
    rw [hm]
    split <;> rfl

end MarkupNode

theorem Fragment.outside_relocate (tag : String) (g : Fragment) :
    (g.relocate f).outside tag = (g.outside tag).map (·.relocate f) := by
  rw [outside_eq_reachAll, g.trees_relocate, reachAll_mapAll (MarkupNode.isMarker_relocate f tag),
    outside_eq_reachAll]

/-- A marker and the comment remembered at it, with other offsets. -/
def relocateSighting (s : Element × Option Comment) : Element × Option Comment :=
  (s.1.relocate f, s.2.map (·.relocate f))

theorem sightings_relocate_of_latest (tag : String) (latest : Option Comment) (ns : List MarkupNode) :
    sightings tag (latest.map (·.relocate f)) (ns.map (·.relocate f)) =
      (sightings tag latest ns).map (relocateSighting f) := by
  induction ns generalizing latest with
  | nil => rfl
  | cons n ns ih =>
    rw [List.map_cons, sightings, sightings, n.marker?_relocate]
    cases n.marker? tag with
    | some e => exact congrArg (_ :: ·) (ih none)
    | none =>
      simp only [Option.map_none, n.latestComment_relocate]
      exact ih _

/-- **The markers of a relocated fragment**, each with the comment remembered at it. -/
theorem Fragment.sightings_relocate (tag : String) (g : Fragment) :
    (g.relocate f).sightings tag = (g.sightings tag).map (relocateSighting f) := by
  unfold Fragment.sightings
  rw [g.outside_relocate]
  exact sightings_relocate_of_latest f tag none _

/-! ## Snippets -/

theorem MarkupNode.snippet?_relocate (n : MarkupNode) :
    (n.relocate f).snippet? = n.snippet?.map (·.relocate f) := by
  cases n <;> rfl

theorem Snippet.name_relocate (s : Snippet) : (s.relocate f).name = s.name := by
  obtain ⟨_, _, _, _⟩ := s
  rfl

theorem Snippet.body_relocate (s : Snippet) : (s.relocate f).body = s.body.relocate f := by
  obtain ⟨_, _, _, _⟩ := s
  rfl

/-- The first snippet with a name among relocated nodes. -/
theorem firstSnippet?_relocate (ns : List MarkupNode) (name : String) :
    firstSnippet? (ns.map (·.relocate f)) name = (firstSnippet? ns name).map (·.relocate f) := by
  have hs : (ns.map (·.relocate f)).filterMap (·.snippet?) =
      (ns.filterMap (·.snippet?)).map (·.relocate f) := by
    rw [List.filterMap_map, List.map_filterMap]
    exact List.filterMap_congr fun n _ => n.snippet?_relocate f
  unfold firstSnippet?
  rw [hs, List.find?_map]
  simp only [Function.comp_def, Snippet.name_relocate]

theorem IsFirstSnippet.relocate {ns : List MarkupNode} {name : String} {s : Snippet}
    (h : IsFirstSnippet ns name s) : IsFirstSnippet (ns.map (·.relocate f)) name (s.relocate f) := by
  rw [← firstSnippet?_eq_some_iff] at h ⊢
  rw [firstSnippet?_relocate, h, Option.map_some]

theorem HasNoSnippet.relocate {ns : List MarkupNode} {name : String} (h : HasNoSnippet ns name) :
    HasNoSnippet (ns.map (·.relocate f)) name := by
  rw [← firstSnippet?_eq_none_iff] at h ⊢
  rw [firstSnippet?_relocate, h, Option.map_none]

end StoryCatalog
