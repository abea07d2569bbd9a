import StoryCatalog.Proofs.Story.Failures
import StoryCatalog.Proofs.Story.RepeatedIds
import StoryCatalog.Proofs.Story.StaticReads

/-!
# Arrays of strings

Tags are read as an array literal whose elements are all strings that are told without being run. The first element
that is none is named by its position; what is no array literal has the wrong shape. An attribute is the first one of
its name. A property of a meta object is the first member with a key of its name that is not computed; spreads and
computed members make no difference.

* `isNoText_iff`: what an element is that is no string.
* `readsTexts_asTexts`: the answers of a reader of arrays, whatever it reads from.
* `texts?_outcome`: the answers for attributes and for properties, and which property is read.
-/

namespace StoryCatalog

open StaticValue (ofExpression ofElements ofAttribute)

/-! ## Elements -/

/-- An element of an array is a string that is told without being run. -/
def IsText (slot : Option Expression) (s : String) : Prop :=
  ∃ e, slot = some e ∧ e.Denotes (.text s)

/-- An element of an array is no such string. -/
inductive IsNoText : Option Expression → Prop where
  | hole : IsNoText none
  | array (span : Span) (elements : List (Option Expression)) : IsNoText (some (.array span elements))
  | flag (span : Span) (b : Bool) : IsNoText (some (.literal ⟨span, .flag b⟩))
  | number (span : Span) (x : Float) : IsNoText (some (.literal ⟨span, .number x⟩))
  | dynamic {e : Expression} (h : ¬e.TellsValue) : IsNoText (some e)

/-- An array has an element at a position that is no string. -/
def NoTextAt (elements : List (Option Expression)) (i : Nat) : Prop :=
  ∃ slot, elements[i]? = some slot ∧ IsNoText slot

/-- The static value of an element. -/
def slotValue (slot : Option Expression) : StaticValue :=
  slot.elim .absent ofExpression

theorem ofElements_eq_map (elements : List (Option Expression)) : ofElements elements = elements.map slotValue := by
  induction elements with
  | nil => rfl
  | cons slot elements ih => cases slot <;> rw [ofElements, ih] <;> rfl

theorem isText_iff {slot : Option Expression} {s : String} : IsText slot s ↔ slotValue slot = .text s := by
  cases slot with
  | none => simp [IsText, slotValue]
  | some e => simp [IsText, slotValue, denotes_iff]

/-- **An element is a string or it is none**: a hole, an array, a truth value, or not told without being run. -/
theorem isNoText_iff {slot : Option Expression} : IsNoText slot ↔ ∀ s, slotValue slot ≠ .text s := by
  constructor
  · rintro (_ | _ | _ | _ | h) s hs
    · cases hs
    · cases hs
    · cases hs
    · cases hs
    · rw [slotValue, Option.elim_some, ofExpression_of_not_tellsValue h] at hs
      cases hs
  · intro h
    cases slot with
    | none => exact .hole
    | some e =>
      by_cases ht : e.TellsValue
      · cases e with
        | literal l =>
          obtain ⟨span, s | b | _ | _⟩ := l
          · exact absurd rfl (h s)
          · exact .flag span b
          · exact ht.elim
          · exact ht.elim
        | template span quasis substitutions =>
          rcases quasis with _ | ⟨_ | s, _ | _⟩ <;> cases substitutions
          case cons.some.nil.nil => exact absurd rfl (h s)
          all_goals exact ht.elim
        | array span elements => exact .array span elements
        | _ => exact ht.elim
      · exact .dynamic ht

theorem forall₂_isText_iff {elements : List (Option Expression)} {ss : List String} :
    List.Forall₂ IsText elements ss ↔ ofElements elements = ss.map .text := by
  rw [ofElements_eq_map]
  induction elements generalizing ss with
  | nil => cases ss <;> simp
  | cons slot elements ih => cases ss <;> simp [isText_iff, ih]

theorem noTextAt_iff {elements : List (Option Expression)} {i : Nat} :
    NoTextAt elements i ↔ ∃ v, (ofElements elements)[i]? = some v ∧ ∀ s, v ≠ .text s := by
  rw [ofElements_eq_map, List.getElem?_map]
  simp only [NoTextAt, isNoText_iff, Option.map_eq_some_iff]
  constructor
  · rintro ⟨slot, hslot, hno⟩
    exact ⟨_, ⟨slot, hslot, rfl⟩, hno⟩
  · rintro ⟨_, ⟨slot, hslot, rfl⟩, hno⟩
    exact ⟨slot, hslot, hno⟩

/-- After strings only, the first element that is none stands at the position that says how many they are. -/
theorem noTextAt_of_texts {elements : List (Option Expression)} {ss : List String} {item : StaticValue}
    {items : List StaticValue} (h : ofElements elements = ss.map .text ++ item :: items)
    (hitem : ∀ s, item ≠ .text s) :
    NoTextAt elements ss.length ∧ ∀ j, NoTextAt elements j → ss.length ≤ j := by
  simp only [noTextAt_iff, h]
  refine ⟨⟨item, by simp, hitem⟩, fun j ⟨v, hv, hno⟩ => ?_⟩
  by_contra hj
  rw [List.getElem?_append_left (by simpa using hj), List.getElem?_map, Option.map_eq_some_iff] at hv
  obtain ⟨s, -, hs⟩ := hv
  exact hno s hs.symm

/-- Of the elements that are no strings there is a first one, with strings only before it. -/
theorem exists_texts_of_noTextAt {elements : List (Option Expression)} {i : Nat} (h : NoTextAt elements i) :
    ∃ (ss : List String) (item : StaticValue) (items : List StaticValue),
      ofElements elements = ss.map .text ++ item :: items ∧ ∀ s, item ≠ .text s := by
  rcases StaticValue.texts_or_first_not_text (ofElements elements) with ⟨ss, hss⟩ | hfirst
  · obtain ⟨v, hv, hno⟩ := noTextAt_iff.mp h
    rw [hss, List.getElem?_map, Option.map_eq_some_iff] at hv
    obtain ⟨s, -, hs⟩ := hv
    exact absurd hs.symm (hno s)
  · exact hfirst

/-! ## What a reader answers -/

/-- A reader of arrays of strings answers by what it reads: whether there is something to read, and whether this is
an array literal with certain elements. -/
structure ReadsTexts (file name : String) (wrongShape : Failure) (isPresent : Prop)
    (isArray : List (Option Expression) → Prop) (answer : Except Failure (Option (List String))) : Prop where
  absent : answer = .ok none ↔ ¬isPresent
  texts : ∀ ss, answer = .ok (some ss) ↔ ∃ elements, isArray elements ∧ List.Forall₂ IsText elements ss
  item : ∀ i, answer = .error (.arrayElementNotString file name i) ↔
    ∃ elements, isArray elements ∧ NoTextAt elements i ∧ ∀ j, NoTextAt elements j → i ≤ j
  anyItem : (∃ i, answer = .error (.arrayElementNotString file name i)) ↔
    ∃ elements, isArray elements ∧ ∃ i, NoTextAt elements i
  shape : answer = .error wrongShape ↔ isPresent ∧ ∀ elements, ¬isArray elements

theorem StaticValue.asTexts_eq_ok_iff {wrongShape : Failure} {wrongItem : Nat → Failure} {v : StaticValue}
    {o : Option (List String)} : v.asTexts wrongShape wrongItem = .ok o ↔ v = ofTexts o := by
  refine ⟨fun h => ?_, fun h => h ▸ asTexts_ofTexts o⟩
  rcases ofTexts_or_textsFail wrongShape wrongItem v with ⟨o', rfl⟩ | ⟨c, hfails⟩
  · rw [asTexts_ofTexts] at h
    cases h
    rfl
  · rw [asTexts_of_textsFail hfails] at h
    cases h

theorem StaticValue.asTexts_eq_error_iff {wrongShape c : Failure} {wrongItem : Nat → Failure} {v : StaticValue} :
    v.asTexts wrongShape wrongItem = .error c ↔ v.TextsFail wrongShape wrongItem c :=
  ⟨textsFail_of_asTexts, asTexts_of_textsFail⟩

section

variable {file name : String} {wrongShape : Failure} {v : StaticValue}

/-- The position of an item that is no string is named if it is the first one. -/
theorem textsFail_item_iff (hshape : ∀ i, wrongShape ≠ .arrayElementNotString file name i)
    {elements : List (Option Expression)} (hv : v = .array (ofElements elements)) {i : Nat} :
    v.TextsFail wrongShape (.arrayElementNotString file name) (.arrayElementNotString file name i) ↔
      NoTextAt elements i ∧ ∀ j, NoTextAt elements j → i ≤ j := by
  constructor
  · intro h
    generalize hc : Failure.arrayElementNotString file name i = c at h
    cases h with
    | shape => exact absurd hc.symm (hshape i)
    | item ss item items isArray notText =>
      obtain ⟨-, -, rfl⟩ := Failure.arrayElementNotString.inj hc
      exact noTextAt_of_texts (StaticValue.array.inj (hv.symm.trans isArray)) notText
  · rintro ⟨hi, hleast⟩
    obtain ⟨ss, item, items, hitems, hno⟩ := exists_texts_of_noTextAt hi
    obtain ⟨hss, hfirst⟩ := noTextAt_of_texts hitems hno
    obtain rfl : i = ss.length := Nat.le_antisymm (hleast _ hss) (hfirst i hi)
    exact .item ss item items (hitems ▸ hv) hno

/-- **What a reader of arrays of strings answers**, whatever it reads from. -/
theorem readsTexts_asTexts {isPresent : Prop} {isArray : List (Option Expression) → Prop}
    (habsent : v = .absent ↔ ¬isPresent)
    (harray : ∀ items, v = .array items ↔ ∃ elements, isArray elements ∧ ofElements elements = items)
    (hshape : ∀ i, wrongShape ≠ .arrayElementNotString file name i) :
    ReadsTexts file name wrongShape isPresent isArray (v.asTexts wrongShape (.arrayElementNotString file name)) := by
  have hitem : ∀ i, v.asTexts wrongShape (.arrayElementNotString file name) = .error (.arrayElementNotString file name i) ↔
      ∃ elements, isArray elements ∧ NoTextAt elements i ∧ ∀ j, NoTextAt elements j → i ≤ j := by
    intro i
    rw [StaticValue.asTexts_eq_error_iff]
    constructor
    · intro h
      obtain ⟨items, hv⟩ : ∃ items, v = .array items := by
        generalize hc : Failure.arrayElementNotString file name i = c at h
        cases h with
        | shape => exact absurd hc.symm (hshape i)
        | item ss item items isArray notText => exact ⟨_, isArray⟩
      obtain ⟨elements, helements, rfl⟩ := (harray items).mp hv
      exact ⟨elements, helements, (textsFail_item_iff hshape hv).mp h⟩
    · rintro ⟨elements, helements, hi⟩
      exact (textsFail_item_iff hshape ((harray _).mpr ⟨elements, helements, rfl⟩)).mpr hi
  refine ⟨?_, fun ss => ?_, hitem, ?_, ?_⟩
  · rw [StaticValue.asTexts_eq_ok_iff]
    exact habsent
  · rw [StaticValue.asTexts_eq_ok_iff, StaticValue.ofTexts, harray]
    simp only [forall₂_isText_iff]
  · constructor
    · rintro ⟨i, hi⟩
      obtain ⟨elements, helements, hno, -⟩ := (hitem i).mp hi
      exact ⟨elements, helements, i, hno⟩
    · rintro ⟨elements, helements, i, hno⟩
      obtain ⟨ss, item, items, hitems, hitem'⟩ := exists_texts_of_noTextAt hno
      exact ⟨ss.length, (hitem _).mpr ⟨elements, helements, noTextAt_of_texts hitems hitem'⟩⟩
  · rw [StaticValue.asTexts_eq_error_iff]
    constructor
    · intro h
      generalize hc : wrongShape = c at h
      cases h with
      | shape present notArray =>
        refine ⟨not_not.mp (mt habsent.mpr present), fun elements helements => ?_⟩
        exact notArray _ ((harray _).mpr ⟨elements, helements, rfl⟩)
      | item ss => exact absurd hc (hshape ss.length)
    · rintro ⟨hpresent, hno⟩
      refine .shape (fun h => habsent.mp h hpresent) fun items hv => ?_
      obtain ⟨elements, helements, -⟩ := (harray items).mp hv
      exact hno elements helements

end

theorem ofExpression_eq_array_iff {e : Expression} {items : List StaticValue} :
    ofExpression e = .array items ↔
      ∃ span elements, e = .array span elements ∧ ofElements elements = items := by
  rw [← denotes_iff]
  constructor
  · intro h
    cases h with
    | array span h => exact ⟨span, _, rfl, h.ofElements_eq⟩
  · rintro ⟨span, elements, rfl, rfl⟩
    exact .array span (elementsDenote_ofElements elements)

/-! ## Attributes -/

/-- An attribute value is a single expression in braces, with quotes around them or without. -/
inductive AttributeValue.Holds (e : Expression) : AttributeValue → Prop where
  | braces (span : Span) : Holds e (.expression ⟨span, e⟩)
  | quotedBraces (span : Span) : Holds e (.sequence [.expression ⟨span, e⟩])

theorem ofAttribute_eq_array_iff {v : AttributeValue} {items : List StaticValue} :
    ofAttribute v = .array items ↔
      ∃ span elements, v.Holds (.array span elements) ∧ ofElements elements = items := by
  rw [← spells_iff]
  constructor
  · intro h
    cases h with
    | @braces t _ h =>
      obtain ⟨span, e⟩ := t
      obtain ⟨arraySpan, elements, rfl, hitems⟩ := ofExpression_eq_array_iff.mp h.ofExpression_eq
      exact ⟨arraySpan, elements, .braces span, hitems⟩
    | @quotedBraces t _ h =>
      obtain ⟨span, e⟩ := t
      obtain ⟨arraySpan, elements, rfl, hitems⟩ := ofExpression_eq_array_iff.mp h.ofExpression_eq
      exact ⟨arraySpan, elements, .quotedBraces span, hitems⟩
  · rintro ⟨span, elements, _ | _, rfl⟩
    · exact .braces (.array span (elementsDenote_ofElements elements))
    · exact .quotedBraces (.array span (elementsDenote_ofElements elements))

namespace Element

/-- An attribute is the first one of its name. -/
def IsFirst (e : Element) (name : String) (a : Attribute) : Prop :=
  ∃ before after, e.attributes = before ++ .plain a :: after ∧ a.name = name ∧
    ∀ b, AttributeNode.plain b ∈ before → b.name ≠ name

theorem valueIn?_eq_some_iff {name : String} {n : AttributeNode} {v : AttributeValue} :
    valueIn? name n = some v ↔ ∃ a, n = .plain a ∧ a.name = name ∧ a.value = v := by
  cases n with
  | plain a => simp [valueIn?]
  | _ => simp [valueIn?]

theorem attribute?_eq_some_iff {e : Element} {name : String} {v : AttributeValue} :
    e.attribute? name = some v ↔ ∃ a, e.IsFirst name a ∧ a.value = v := by
  constructor
  · intro h
    obtain ⟨before, n, after, he, hn, hfirst⟩ := List.findSome?_eq_some_iff.mp h
    obtain ⟨a, rfl, hname, hv⟩ := valueIn?_eq_some_iff.mp hn
    refine ⟨a, ⟨before, after, he, hname, fun b hb hbname => ?_⟩, hv⟩
    have hnone := hfirst _ hb
    rw [valueIn?_eq_some_iff.mpr ⟨b, rfl, hbname, rfl⟩] at hnone
    cases hnone
  · rintro ⟨a, ⟨before, after, he, hname, hfirst⟩, rfl⟩
    exact attribute?_eq_of_first he hname hfirst

/-- The attribute is read as an array if it is a single array literal. -/
theorem staticValue_eq_array_iff {e : Element} {name : String} {items : List StaticValue} :
    e.staticValue name = .array items ↔ ∃ elements,
      (∃ a span, e.IsFirst name a ∧ a.value.Holds (.array span elements)) ∧ ofElements elements = items := by
  constructor
  · intro h
    cases hv : e.attribute? name with
    | none => simp [staticValue, hv] at h
    | some v =>
      obtain ⟨a, ha, rfl⟩ := attribute?_eq_some_iff.mp hv
      rw [staticValue, hv] at h
      obtain ⟨span, elements, hholds, hitems⟩ := ofAttribute_eq_array_iff.mp h
      exact ⟨elements, ⟨a, span, ha, hholds⟩, hitems⟩
  · rintro ⟨elements, ⟨a, span, ha, hholds⟩, hitems⟩
    rw [staticValue, attribute?_eq_some_iff.mpr ⟨a, ha, rfl⟩]
    exact ofAttribute_eq_array_iff.mpr ⟨span, elements, hholds, hitems⟩

/-- **An attribute as an array of strings.** -/
theorem readsTexts_texts? (e : Element) (file name : String) :
    ReadsTexts file name (.invalidAttribute file name .stringArray) (∃ a, AttributeNode.plain a ∈ e.attributes ∧ a.name = name)
      (fun elements => ∃ a span, e.IsFirst name a ∧ a.value.Holds (.array span elements)) (e.texts? file name) := by
  refine readsTexts_asTexts ?_ (fun items => staticValue_eq_array_iff) nofun
  rw [staticValue_eq_absent_iff, attribute?_eq_none_iff]
  simp

end Element

/-! ## Properties of a meta object -/

/-- A member gives a value to a name: its key is this name or a string of this text, and not computed. -/
inductive ObjectMember.Gives (name : String) (value : Expression) : ObjectMember → Prop where
  | identifier (span keySpan : Span) (isShorthand : Bool) :
    Gives name value (.property span (.identifier ⟨keySpan, name⟩) value false isShorthand)
  | string (span keySpan : Span) (isShorthand : Bool) :
    Gives name value (.property span (.literal ⟨keySpan, .text name⟩) value false isShorthand)

/-- Whether a member is neither a spread nor computed. -/
def ObjectMember.isStatic : ObjectMember → Bool
  | .property _ _ _ isComputed _ => !isComputed
  | .spread .. => false

theorem Expression.keyName?_eq_some_iff {e : Expression} {name : String} :
    e.keyName? = some name ↔
      ∃ span, e = .identifier ⟨span, name⟩ ∨ e = .literal ⟨span, .text name⟩ := by
  cases e with
  | identifier i =>
    obtain ⟨span, n⟩ := i
    simp [keyName?]
  | literal l =>
    obtain ⟨span, _ | _ | _ | _⟩ := l <;> simp [keyName?, Literal.text?]
  | _ => simp [keyName?]

theorem ObjectMember.valueOf?_eq_some_iff {name : String} {value : Expression} {m : ObjectMember} :
    m.valueOf? name = some value ↔ m.Gives name value := by
  constructor
  · intro h
    unfold valueOf? at h
    split at h
    · rename_i span key v isShorthand
      by_cases hkey : key.keyName? = some name
      · rw [if_pos hkey] at h
        cases h
        obtain ⟨keySpan, rfl | rfl⟩ := Expression.keyName?_eq_some_iff.mp hkey
        · exact .identifier span keySpan isShorthand
        · exact .string span keySpan isShorthand
      · rw [if_neg hkey] at h
        cases h
    · cases h
  · rintro (_ | _) <;> simp [valueOf?, Expression.keyName?, Literal.text?]

theorem ObjectMember.valueOf?_of_not_isStatic {m : ObjectMember} (h : ¬m.isStatic = true) (name : String) :
    m.valueOf? name = none := by
  cases m with
  | property span key value isComputed isShorthand =>
    cases isComputed
    · exact absurd rfl h
    · rfl
  | spread => rfl

namespace ObjectLiteral

variable {o : ObjectLiteral} {name : String}

theorem property?_eq_none_iff : o.property? name = none ↔ ∀ m ∈ o.members, ∀ v, ¬m.Gives name v := by
  rw [property?, List.findSome?_eq_none_iff]
  simp only [← ObjectMember.valueOf?_eq_some_iff, Option.eq_none_iff_forall_ne_some, ne_eq]

/-- **The first member** that gives a value to a name is the one that is read. -/
theorem property?_eq_some_iff {value : Expression} :
    o.property? name = some value ↔ ∃ before m after, o.members = before ++ m :: after ∧ m.Gives name value ∧
      ∀ b ∈ before, ∀ v, ¬b.Gives name v := by
  simp only [property?, List.findSome?_eq_some_iff, ← ObjectMember.valueOf?_eq_some_iff,
    Option.eq_none_iff_forall_ne_some, ne_eq]

/-- Spreads and computed members are passed over. -/
theorem property?_filter_isStatic (o : ObjectLiteral) (name : String) :
    { o with members := o.members.filter (·.isStatic) }.property? name = o.property? name := by
  obtain ⟨span, ms⟩ := o
  induction ms with
  | nil => rfl
  | cons m ms ih =>
    by_cases hm : m.isStatic = true
    · simp only [property?, List.filter_cons_of_pos hm, List.findSome?_cons] at ih ⊢
      rw [ih]
    · simp only [property?, List.filter_cons_of_neg hm, List.findSome?_cons,
        ObjectMember.valueOf?_of_not_isStatic hm] at ih ⊢
      exact ih

theorem staticValue_eq_absent_iff : o.staticValue name = .absent ↔ ¬∃ m ∈ o.members, ∃ v, m.Gives name v := by
  have hnone : o.staticValue name = .absent ↔ o.property? name = none := by
    rw [staticValue]
    cases o.property? name with
    | none => exact ⟨fun _ => rfl, fun _ => rfl⟩
    | some v => exact ⟨fun h => absurd h (ofExpression_ne_absent v), nofun⟩
  rw [hnone, property?_eq_none_iff]
  simp

/-- The property is read as an array if it is an array literal. -/
theorem staticValue_eq_array_iff {items : List StaticValue} :
    o.staticValue name = .array items ↔
      ∃ elements, (∃ span, o.property? name = some (.array span elements)) ∧ ofElements elements = items := by
  rw [staticValue]
  constructor
  · intro h
    cases hv : o.property? name with
    | none => simp [hv] at h
    | some v =>
      rw [hv] at h
      obtain ⟨span, elements, rfl, hitems⟩ := ofExpression_eq_array_iff.mp h
      exact ⟨elements, ⟨span, rfl⟩, hitems⟩
  · rintro ⟨elements, ⟨span, hv⟩, hitems⟩
    rw [hv]
    exact ofExpression_eq_array_iff.mpr ⟨span, elements, rfl, hitems⟩

/-- **A property as an array of strings.** -/
theorem readsTexts_texts? (o : ObjectLiteral) (file name : String) :
    ReadsTexts file name (.invalidMetaProperty file name .stringArray) (∃ m ∈ o.members, ∃ v, m.Gives name v)
      (fun elements => ∃ span, o.property? name = some (.array span elements)) (o.texts? file name) :=
  readsTexts_asTexts staticValue_eq_absent_iff (fun _ => staticValue_eq_array_iff) nofun

/-- Objects with the same members apart from spreads and computed ones have the same properties. -/
theorem property?_eq_of_static {o' : ObjectLiteral}
    (h : o'.members.filter (·.isStatic) = o.members.filter (·.isStatic)) (name : String) :
    o'.property? name = o.property? name := by
  have hread : ∀ x : ObjectLiteral, x.property? name = (x.members.filter (·.isStatic)).findSome? (·.valueOf? name) :=
    fun x => (property?_filter_isStatic x name).symm
  rw [hread, hread, h]

end ObjectLiteral

/-- **What is read as an array of strings**, from an attribute or from a property of a meta object. Nothing is read
exactly if there is no such attribute or property. The strings are read exactly if it is an array literal of strings,
and then they are its elements in order. The position of an element is named exactly if this is the first one that is
no string. Everything else has the wrong shape. A property is the first member with a key of its name that is not
computed, and no spread or computed member makes a difference to what is read. -/
theorem texts?_outcome (file name : String) :
    (∀ e : Element, ReadsTexts file name (.invalidAttribute file name .stringArray)
      (∃ a, AttributeNode.plain a ∈ e.attributes ∧ a.name = name)
      (fun elements => ∃ a span, e.IsFirst name a ∧ a.value.Holds (.array span elements)) (e.texts? file name)) ∧
    ∀ o : ObjectLiteral,
      ReadsTexts file name (.invalidMetaProperty file name .stringArray) (∃ m ∈ o.members, ∃ v, m.Gives name v)
        (fun elements => ∃ span, o.property? name = some (.array span elements)) (o.texts? file name) ∧
      (∀ v, o.property? name = some v ↔ ∃ before m after, o.members = before ++ m :: after ∧ m.Gives name v ∧
        ∀ b ∈ before, ∀ v, ¬b.Gives name v) ∧
      ∀ o' : ObjectLiteral, o'.members.filter (·.isStatic) = o.members.filter (·.isStatic) →
        o'.property? name = o.property? name ∧ o'.staticValue name = o.staticValue name ∧
          o'.texts? file name = o.texts? file name := by
  refine ⟨fun e => e.readsTexts_texts? file name, fun o => ⟨o.readsTexts_texts? file name, fun v => ?_, fun o' h => ?_⟩⟩
  · exact ObjectLiteral.property?_eq_some_iff
  · have hproperty := ObjectLiteral.property?_eq_of_static h name
    have hvalue : o'.staticValue name = o.staticValue name := by
      rw [ObjectLiteral.staticValue, ObjectLiteral.staticValue, hproperty]
    exact ⟨hproperty, hvalue, by rw [ObjectLiteral.texts?, ObjectLiteral.texts?, hvalue]⟩

/-- The object `{ ...base, [tags]: x, tags: ["a", , b] }`. -/
def spreadTags : ObjectLiteral :=
  ⟨⟨0, 0⟩, [.spread ⟨0, 0⟩ (.identifier ⟨⟨0, 0⟩, "base"⟩),
    .property ⟨0, 0⟩ (.identifier ⟨⟨0, 0⟩, "tags"⟩) (.identifier ⟨⟨0, 0⟩, "x"⟩) true false,
    .property ⟨0, 0⟩ (.identifier ⟨⟨0, 0⟩, "tags"⟩)
      (.array ⟨0, 0⟩ [some (.literal ⟨⟨0, 0⟩, .text "a"⟩), none, some (.identifier ⟨⟨0, 0⟩, "b"⟩)]) false false]⟩

/-- Its tags are those written without brackets around the key, and their second element is a hole. -/
theorem texts?_spreadTags :
    spreadTags.texts? "f" "tags" = .error (.arrayElementNotString "f" "tags" 1) ∧
      (∃ elements, (∃ span, spreadTags.property? "tags" = some (.array span elements)) ∧ NoTextAt elements 1 ∧
        ∀ j, NoTextAt elements j → 1 ≤ j) ∧
      ObjectLiteral.texts? ⟨⟨0, 0⟩, spreadTags.members.drop 2⟩ "f" "tags" = spreadTags.texts? "f" "tags" := by
  obtain ⟨-, hobject⟩ := texts?_outcome "f" "tags"
  obtain ⟨hreads, -, hsame⟩ := hobject spreadTags
  exact ⟨rfl, (hreads.item 1).mp rfl, (hsame _ rfl).2.2⟩

end StoryCatalog
