import Mathlib.Algebra.Order.BigOperators.Group.List
import StoryCatalog.JavaScript.Lexeme
import StoryCatalog.JavaScript.Literal
import StoryCatalog.Proofs.Digest.FoldSums
import StoryCatalog.Proofs.Text.Ascii

/-!
# Elements of strings

In the language, a string is made of characters for themselves and of escapes, and each of these stands for some
code units. This says so without a word on how strings are taken apart here, and compares the two: most elements
are read as what they stand for. An escaped surrogate is not, as no character stands for it, not even when its other
half comes next; nor is a backslash before a line or paragraph separator; and such a separator is lost after a
backslash and a carriage return.

* `Escape.units`, `StringElement.units`, `Spells`: the code units of strings, and the texts that spell them.
* `flatMap_value_of_takePieces`: the text that is read for a string.
* `units_readText_iff`: when it has the code units that it should have.
-/

namespace StoryCatalog.JavaScript

open Digest (codeUnits hexDigits hexValue)

/-! ## Strings -/

/-- An escape. -/
inductive Escape where
  /-- One character: a letter with a meaning, or a character that has none after a backslash. -/
  | single (c : Char)
  /-- A zero. -/
  | null
  /-- An `x` and two digits. -/
  | byte (a b : Char)
  /-- A `u` and four digits. -/
  | unit (a b c d : Char)
  /-- A `u` and digits in braces. -/
  | point (digits : List Char)
  /-- The end of a line. -/
  | continued (lineEnd : List Char)

/-- An element of a string. -/
inductive StringElement where
  | plain (c : Char)
  | escape (e : Escape)

/-- The characters that separate lines and paragraphs, and may stand in a string. -/
def separators : List Char :=
  ['\u2028', '\u2029']

/-- How a line may end. -/
def lineEnds : List (List Char) :=
  ['\n'] :: ['\r'] :: ['\r', '\n'] :: separators.map ([·])

/-- A hexadecimal digit, be it a small letter or a capital. -/
def IsHex (d : Char) : Prop :=
  d.toLower ∈ hexDigits

instance : DecidablePred IsHex :=
  fun d => inferInstanceAs (Decidable (d.toLower ∈ hexDigits))

/-- The number that such digits spell. -/
def hexNumber (ds : List Char) : Nat :=
  hexValue (ds.map Char.toLower)

/-- Half of a pair of code units. -/
def IsSurrogate (n : Nat) : Prop :=
  0xd800 ≤ n ∧ n < 0xe000

instance : DecidablePred IsSurrogate :=
  fun n => inferInstanceAs (Decidable (0xd800 ≤ n ∧ n < 0xe000))

/-- The character that is meant by one after a backslash. -/
def meant : Char → Char
  | 'b' => '\x08'
  | 't' => '\t'
  | 'n' => '\n'
  | 'v' => '\x0b'
  | 'f' => '\x0c'
  | 'r' => '\r'
  | c => c

namespace Escape

/-- An escape as it is written after its backslash. -/
def written : Escape → List Char
  | single c => [c]
  | null => ['0']
  | byte a b => ['x', a, b]
  | unit a b c d => ['u', a, b, c, d]
  | point ds => 'u' :: '\x7b' :: ds ++ ['\x7d']
  | continued l => l

/-- An escape may stand before a text. -/
def Fits (rest : List Char) : Escape → Prop
  | single c => c.isDigit = false ∧ c ≠ 'x' ∧ c ≠ 'u' ∧ [c] ∉ lineEnds
  | null => ∀ d ∈ rest.head?, d.isDigit = false
  | byte a b => ∀ d ∈ [a, b], IsHex d
  | unit a b c d => ∀ e ∈ [a, b, c, d], IsHex e
  | point ds => ds ≠ [] ∧ (∀ d ∈ ds, IsHex d) ∧ hexNumber ds ≤ 0x10ffff
  | continued l => l ∈ lineEnds

/-- The code units that an escape stands for. -/
def units : Escape → List Nat
  | single c => codeUnits (meant c)
  | null => [0]
  | byte a b => [hexNumber [a, b]]
  | unit a b c d => [hexNumber [a, b, c, d]]
  | point ds =>
    let n := hexNumber ds
    if n < 0x10000 then [n] else [0xd800 + (n - 0x10000) / 0x400, 0xdc00 + (n - 0x10000) % 0x400]
  | continued _ => []

/-- The text that is read for an escape. -/
def text : Escape → List Char
  | single c => [meant c]
  | null => ['\x00']
  | byte a b => [Char.ofNat (hexNumber [a, b])]
  | unit a b c d =>
    if IsSurrogate (hexNumber [a, b, c, d]) then ['u', a, b, c, d] else [Char.ofNat (hexNumber [a, b, c, d])]
  | point ds =>
    if IsSurrogate (hexNumber ds) then 'u' :: '\x7b' :: ds ++ ['\x7d'] else [Char.ofNat (hexNumber ds)]
  | continued l => l.filter (· ∈ separators)

/-- An escape is no surrogate, and no separator after a backslash. -/
def IsKept : Escape → Prop
  | unit a b c d => ¬IsSurrogate (hexNumber [a, b, c, d])
  | point ds => ¬IsSurrogate (hexNumber ds)
  | continued l => ∀ c ∈ separators, c ∉ l
  | _ => True

end Escape

namespace StringElement

/-- An element as it is written. -/
def written : StringElement → List Char
  | plain c => [c]
  | escape e => '\\' :: e.written

/-- An element may stand before a text, in a string in a kind of quotes. -/
def Fits (quote : Char) (rest : List Char) : StringElement → Prop
  | plain c => c ≠ quote ∧ c ≠ '\\' ∧ c ≠ '\n' ∧ c ≠ '\r'
  | escape e => e.Fits rest

/-- The code units that an element stands for. -/
def units : StringElement → List Nat
  | plain c => codeUnits c
  | escape e => e.units

/-- The text that is read for an element by itself. -/
def text : StringElement → List Char
  | plain c => [c]
  | escape e => e.text

def IsKept : StringElement → Prop
  | plain _ => True
  | escape e => e.IsKept

end StringElement

/-- A text between quotes spells a string. -/
inductive Spells (quote : Char) : List StringElement → List Char → Prop where
  | nil : Spells quote [] []
  | cons {e : StringElement} {es : List StringElement} {rest : List Char} (fits : e.Fits quote rest)
    (spells : Spells quote es rest) : Spells quote (e :: es) (e.written ++ rest)

/-- The text that is read for a string. A separator goes with the backslash and carriage return before it. -/
def readText : List StringElement → List Char
  | [] => []
  | .escape (.continued ['\r']) :: .plain c :: es => if c ∈ separators then readText es else c :: readText es
  | e :: es => e.text ++ readText es

/-- Somewhere in a string, a separator comes after a backslash and a carriage return. -/
def Joins (es : List StringElement) : Prop :=
  ∃ c ∈ separators, [.escape (.continued ['\r']), .plain c] <:+: es

/-! ## Digits -/

section

variable {d : Char} {ds : List Char} {n : Nat}

theorem hexDigit?_of_isHex (h : IsHex d) : Json.hexDigit? d = some (hexDigits.idxOf d.toLower) := by
  have ascii : Text.isAscii d = true := by
    by_cases hupper : d.isUpper
    · exact Text.isAscii_of_isUpper hupper
    · have hlower : d.toLower = d := by
        unfold Char.toLower
        exact dif_neg fun hrange => hupper (decide_eq_true hrange)
      have all : hexDigits.all Text.isAscii = true := by decide
      exact List.all_eq_true.mp all d (hlower ▸ h)
  refine Text.forall_ascii (P := fun d => d.toLower ∈ hexDigits →
    Json.hexDigit? d = some (hexDigits.idxOf d.toLower)) ?_ ascii h
  decide

theorem hexNumber?_of_isHex (h : ∀ d ∈ ds, IsHex d) : Json.hexNumber? ds = some (hexNumber ds) := by
  have digits : ds.mapM Json.hexDigit? = some (ds.map fun d => hexDigits.idxOf d.toLower) := by
    induction ds with
    | nil => rfl
    | cons d ds ih =>
      obtain ⟨hd, hds⟩ := List.forall_mem_cons.mp h
      simp [List.mapM_cons, hexDigit?_of_isHex hd, ih hds]
  simp [Json.hexNumber?, digits, hexNumber, hexValue, List.foldl_map, Nat.mul_comm]

theorem isHexDigit_of_isHex (h : IsHex d) : isHexDigit d = true := by
  rw [isHexDigit, hexDigit?_of_isHex h]
  rfl

theorem forall_isHex_of_all (h : ds.all (fun d => IsHex d) = true) : ∀ d ∈ ds, IsHex d :=
  fun d hd => of_decide_eq_true (List.all_eq_true.mp h d hd)

theorem ne_brace_of_isHex (h : IsHex d) : d ≠ '\x7b' := by
  rintro rfl
  exact absurd h (by decide)

/-- Digits spell a number of as many hexadecimal places. -/
theorem hexNumber_lt (h : ∀ d ∈ ds, IsHex d) : hexNumber ds < 16 ^ ds.length := by
  induction ds using List.reverseRecOn with
  | nil => exact Nat.one_pos
  | append_singleton ds d ih =>
    have hd : hexDigits.idxOf d.toLower < 16 :=
      List.idxOf_lt_length_of_mem (h d (List.mem_append_right _ (List.mem_singleton_self d)))
    have hds := ih fun d hd => h d (List.mem_append_left _ hd)
    have value : hexNumber (ds ++ [d]) = 16 * hexNumber ds + hexDigits.idxOf d.toLower := by
      rw [hexNumber, List.map_append]
      exact Digest.hexValue_concat _ _
    rw [value, List.length_append, List.length_singleton, Nat.pow_succ]
    omega

/-- Every number up to the largest code point is that of a character, the surrogates apart. -/
theorem isValidChar_iff (h : n ≤ 0x10ffff) : n.isValidChar ↔ ¬IsSurrogate n := by
  unfold Nat.isValidChar IsSurrogate
  omega

/-- Two digits are too few for a surrogate. -/
theorem not_isSurrogate_of_two {a b : Char} (h : ∀ d ∈ [a, b], IsHex d) : ¬IsSurrogate (hexNumber [a, b]) := by
  have hlt : hexNumber [a, b] < 16 ^ 2 := hexNumber_lt h
  unfold IsSurrogate
  omega

theorem toNat_ofNat_of_isValidChar (h : n.isValidChar) : (Char.ofNat n).toNat = n := by
  rw [Char.ofNat, dif_pos h]
  rfl

theorem unsigned_of_isHex (h : ∀ d ∈ ds, IsHex d) : unsigned ds = ds := by
  unfold unsigned
  split
  · exact absurd (h '+' List.mem_cons_self) (by decide)
  · rfl

/-- Digits give a character, or they are those of a surrogate. -/
theorem scalar?_of_isHex (hne : ds ≠ []) (h : ∀ d ∈ ds, IsHex d) (hle : hexNumber ds ≤ 0x10ffff) :
    scalar? ds = if IsSurrogate (hexNumber ds) then none else some (Char.ofNat (hexNumber ds)) := by
  simp only [scalar?, unsigned_of_isHex h, hexNumber?_of_isHex h, Option.bind_eq_bind, Option.bind_some, hne, ne_eq,
    not_false_eq_true, true_and, isValidChar_iff hle, ite_not]
  rfl

end

/-! ## Escapes -/

theorem isLineEnd_iff {c : Char} : isLineEnd c = true ↔ c = '\n' ∨ c ∈ separators := by
  simp only [isLineEnd, separators, Bool.or_eq_true, beq_iff_eq, List.mem_cons, List.not_mem_nil, or_false,
    ← Char.toNat_inj]
  rw [or_assoc]
  rfl

namespace Escape

variable {e : Escape} {rest : List Char} {c : Char}

/-- A separator that comes next would be taken with an escape. -/
def TakesSeparator (e : Escape) : Prop :=
  e = continued ['\r'] ∨ e = single '?'

theorem takeEscapeBody?_separator (h : e.TakesSeparator) (hc : c ∈ separators) :
    takeEscapeBody? (e.written ++ c :: rest) = some (e.written ++ [c], rest) := by
  have ends : isLineEnd c = true := isLineEnd_iff.mpr (.inr hc)
  rcases h with rfl | rfl <;> simp [written, takeEscapeBody?, ends]

/-- No separator comes next that would be taken, and no line feed. -/
def IsApart (rest : List Char) (e : Escape) : Prop :=
  ∀ d ∈ rest.head?, d ≠ '\n' ∧ (e.TakesSeparator → d ∉ separators)

theorem IsApart.isLineEnd {d : Char} (h : e.IsApart (d :: rest)) (he : e.TakesSeparator) : isLineEnd d = false := by
  obtain ⟨hfeed, hsep⟩ := h d rfl
  rw [Bool.eq_false_iff, ne_eq, isLineEnd_iff]
  rintro (heq | hmem)
  · exact hfeed heq
  · exact hsep he hmem

theorem not_octal_of_not_isDigit (h : c.isDigit = false) : ('0' ≤ c && c ≤ '7') = false := by
  rw [Bool.eq_false_iff, ne_eq, Bool.and_eq_true, decide_eq_true_eq, decide_eq_true_eq]
  rintro ⟨hfirst, hlast⟩
  rw [Char.isDigit, Bool.and_eq_false_iff, decide_eq_false_iff_not, decide_eq_false_iff_not] at h
  rcases h with h | h
  · exact h hfirst
  · exact h (UInt32.le_trans hlast (by decide))

theorem takeEscapeBody?_single (h : (single c).Fits rest) (hnext : (single c).IsApart rest) :
    takeEscapeBody? (c :: rest) = some ([c], rest) := by
  obtain ⟨hdigit, hx, hu, hline⟩ := h
  have hreturn : c ≠ '\r' := fun heq => hline (heq ▸ by decide)
  rw [takeEscapeBody?.eq_def]
  split
  · next heq => exact absurd (List.cons.inj heq).1 hx
  · next heq => exact absurd (List.cons.inj heq).1 hx
  · next heq => exact absurd (List.cons.inj heq).1 hu
  · next heq => exact absurd (List.cons.inj heq).1 hreturn
  · next heq =>
    obtain ⟨rfl, rfl⟩ := List.cons.inj heq
    rw [hnext.isLineEnd (.inr rfl)]
    rfl
  · next heq =>
    obtain ⟨rfl, rfl⟩ := List.cons.inj heq
    rw [not_octal_of_not_isDigit hdigit]
    rfl
  · next heq => cases heq

theorem takeEscapeBody?_continued {l : List Char} (h : l ∈ lineEnds) (hnext : (continued l).IsApart rest) :
    takeEscapeBody? (l ++ rest) = some (l, rest) := by
  simp only [lineEnds, separators, List.map_cons, List.map_nil, List.mem_cons, List.not_mem_nil, or_false] at h
  rcases h with rfl | rfl | rfl | rfl | rfl
  · rfl
  · cases rest with
    | nil => rfl
    | cons d rest => simp [takeEscapeBody?, hnext.isLineEnd (.inl rfl)]
  · rfl
  · rfl
  · rfl

theorem takeEscapeBody?_null (h : ∀ d ∈ rest.head?, d.isDigit = false) :
    takeEscapeBody? ('0' :: rest) = some (['0'], rest) := by
  cases rest with
  | nil => rfl
  | cons d rest =>
    have octal : ('0' ≤ d && d ≤ '7') = false := not_octal_of_not_isDigit (h d rfl)
    simp [takeEscapeBody?, octal]

theorem takeEscapeBody?_point {ds : List Char} (hne : ds ≠ []) (h : ∀ d ∈ ds, IsHex d) :
    takeEscapeBody? ('u' :: '\x7b' :: ds ++ '\x7d' :: rest) = some ('u' :: '\x7b' :: ds ++ ['\x7d'], rest) := by
  obtain ⟨d, ds, rfl⟩ := List.exists_cons_of_ne_nil hne
  have taken : (d :: ds ++ '\x7d' :: rest).takeWhile isHexDigit = d :: ds := by
    rw [List.takeWhile_append_of_pos fun d hd => isHexDigit_of_isHex (h d hd)]
    simp [show isHexDigit '\x7d' = false by decide]
  have left : (d :: ds ++ '\x7d' :: rest).dropWhile isHexDigit = '\x7d' :: rest := by
    rw [List.dropWhile_append_of_pos fun d hd => isHexDigit_of_isHex (h d hd)]
    simp [show isHexDigit '\x7d' = false by decide]
  have escape : takeEscape? ('\\' :: 'u' :: '\x7b' :: (d :: ds ++ '\x7d' :: rest)) =
      some ('\\' :: 'u' :: '\x7b' :: (d :: ds ++ ['\x7d']), rest) := by
    rw [takeEscape?, taken, left]
    rfl
  rw [List.cons_append, List.cons_append, takeEscapeBody?, escape]
  rfl

/-- **An escape is taken as it is**, if nothing comes next that would be taken with it. -/
theorem takeEscapeBody?_of_fits (h : e.Fits rest) (hnext : e.IsApart rest) :
    takeEscapeBody? (e.written ++ rest) = some (e.written, rest) := by
  cases e with
  | single c => exact takeEscapeBody?_single h hnext
  | null => exact takeEscapeBody?_null h
  | byte a b =>
    obtain ⟨ha, hb⟩ : IsHex a ∧ IsHex b := by simpa [Fits] using h
    simp [written, takeEscapeBody?, isHexDigit_of_isHex ha, isHexDigit_of_isHex hb]
  | unit a b c d =>
    have escape : takeEscape? ('\\' :: 'u' :: a :: b :: c :: d :: rest) = some (['\\', 'u', a, b, c, d], rest) := by
      have hbrace : a ≠ '\x7b' := ne_brace_of_isHex (h a List.mem_cons_self)
      have hall : [a, b, c, d].all isHexDigit = true := List.all_eq_true.mpr fun e he => isHexDigit_of_isHex (h e he)
      rw [takeEscape?, if_pos hall]
      simpa using hbrace
    simp [written, takeEscapeBody?, escape]
  | point ds =>
    simpa [written] using takeEscapeBody?_point h.1 h.2.1
  | continued l => exact takeEscapeBody?_continued h hnext

theorem meant_of_notMem (h : c ∉ ['b', 't', 'n', 'v', 'f', 'r']) : meant c = c := by
  unfold meant
  split <;> simp_all

theorem unescapeBody_single (h : (single c).Fits rest) : unescapeBody [c] = [meant c] := by
  obtain ⟨hdigit, hx, hu, hline⟩ := h
  by_cases hletter : c ∈ ['b', 't', 'n', 'v', 'f', 'r']
  · simp only [List.mem_cons, List.not_mem_nil, or_false] at hletter
    rcases hletter with rfl | rfl | rfl | rfl | rfl | rfl <;> rfl
  · have hzero : c ≠ '0' := fun heq => by simp [heq] at hdigit
    have hfeed : c ≠ '\n' := fun heq => hline (heq ▸ by decide)
    have hreturn : c ≠ '\r' := fun heq => hline (heq ▸ by decide)
    rw [meant_of_notMem hletter, unescapeBody.eq_def]
    split <;> simp_all [codePointDigits?]

/-- An escape with digits is read as their character, or as it is written. -/
theorem unescapeBody_of_isHex {body ds : List Char} (hdigits : codePointDigits? body = some ds) (hne : ds ≠ [])
    (h : ∀ d ∈ ds, IsHex d) (hle : hexNumber ds ≤ 0x10ffff) :
    unescapeBody body = if IsSurrogate (hexNumber ds) then body else [Char.ofNat (hexNumber ds)] := by
  have hhead : ¬(body.head? = some '\n' ∨ body.head? = some '\r') := by
    rintro (hfeed | hreturn) <;> cases body <;> simp_all [codePointDigits?]
  rw [unescapeBody.eq_def]
  split
  case h_8 =>
    rw [hdigits, Option.bind_some, scalar?_of_isHex hne h hle, if_neg hhead]
    by_cases hsurrogate : IsSurrogate (hexNumber ds)
    · rw [if_pos hsurrogate, if_pos hsurrogate]
    · rw [if_neg hsurrogate, if_neg hsurrogate]
  all_goals simp [codePointDigits?] at hdigits

/-- **What is read for an escape.** -/
theorem unescapeBody_written (h : e.Fits rest) : unescapeBody e.written = e.text := by
  cases e with
  | single c => exact unescapeBody_single h
  | null => rfl
  | byte a b =>
    have hlt : hexNumber [a, b] < 16 ^ 2 := hexNumber_lt h
    rw [written, text, unescapeBody_of_isHex rfl (by simp) h (by omega), if_neg (not_isSurrogate_of_two h)]
  | unit a b c d =>
    have hlt : hexNumber [a, b, c, d] < 16 ^ 4 := hexNumber_lt h
    have digits : codePointDigits? ['u', a, b, c, d] = some [a, b, c, d] := by
      rw [codePointDigits?]
      simpa using ne_brace_of_isHex (h a List.mem_cons_self)
    exact unescapeBody_of_isHex digits (by simp) h (Nat.le_trans (Nat.le_of_lt hlt) (by decide))
  | point ds =>
    obtain ⟨hne, hhex, hle⟩ := h
    have digits : codePointDigits? ('u' :: '\x7b' :: ds ++ ['\x7d']) = some ds := by
      simp [codePointDigits?]
    exact unescapeBody_of_isHex digits hne hhex hle
  | continued l =>
    simp only [Fits, lineEnds, separators, List.map_cons, List.map_nil, List.mem_cons, List.not_mem_nil, or_false] at h
    rcases h with rfl | rfl | rfl | rfl | rfl <;> rfl

end Escape

/-- The text that a piece of a string stands for. -/
def Piece.value : Piece → List Char
  | .plain cs => cs
  | .escape body => unescapeBody body

/-! ## What is read for a string -/

section

variable {isPlain : List Char → Bool} {fuel : Nat} {quote c : Char} {cs rest body : List Char} {ps : List Piece}

theorem exists_of_takePieces_plain (hc : c ≠ '\\') (hplain : isPlain (c :: cs) = true)
    (h : takePieces isPlain (fuel + 1) (c :: cs) = some (ps, rest)) :
    ∃ ps', takePieces isPlain fuel cs = some (ps', rest) ∧ ps.flatMap (·.value) = c :: ps'.flatMap (·.value) := by
  rw [takePieces, if_pos hplain] at h
  · obtain ⟨⟨ps', rest'⟩, hps', heq⟩ := Option.map_eq_some_iff.mp h
    refine ⟨ps', ?_⟩
    split at heq <;> cases heq
    · next hpair =>
      obtain ⟨rfl, rfl⟩ := Prod.mk.inj hpair
      exact ⟨hps', rfl⟩
    · next hpair =>
      obtain ⟨rfl, rfl⟩ := Prod.mk.inj hpair
      exact ⟨hps', rfl⟩
  · exact hc

theorem exists_of_takePieces_escape {after : List Char} (hbody : takeEscapeBody? cs = some (body, after))
    (h : takePieces isPlain (fuel + 1) ('\\' :: cs) = some (ps, rest)) :
    ∃ ps', takePieces isPlain fuel after = some (ps', rest) ∧ ps = .escape body :: ps' := by
  rw [takePieces, hbody] at h
  obtain ⟨⟨ps', rest'⟩, hps', heq⟩ := Option.map_eq_some_iff.mp h
  cases heq
  exact ⟨ps', hps', rfl⟩

/-- A text that does not begin with a backslash begins with a character for itself. -/
theorem Spells.exists_plain {es : List StringElement} (h : Spells quote es (c :: rest)) (hc : c ≠ '\\') :
    ∃ es', es = .plain c :: es' ∧ Spells quote es' rest ∧ c ≠ '\n' := by
  generalize htext : c :: rest = text at h
  cases h with
  | nil => cases htext
  | @cons e es rest' fits spells =>
    cases e with
    | plain d =>
      obtain ⟨rfl, rfl⟩ := List.cons.inj htext
      exact ⟨es, rfl, spells, fits.2.2.1⟩
    | escape e => exact absurd (List.cons.inj htext).1 hc

theorem Spells.ne_lineFeed {es : List StringElement} (h : Spells quote es (c :: rest)) : c ≠ '\n' := by
  by_cases hc : c = '\\'
  · rw [hc]
    decide
  · obtain ⟨-, -, -, hfeed⟩ := h.exists_plain hc
    exact hfeed

theorem readText_escape {e : Escape} {es : List StringElement}
    (h : ∀ c ∈ separators, e = .continued ['\r'] → es.head? ≠ some (.plain c)) :
    readText (.escape e :: es) = e.text ++ readText es := by
  rw [readText.eq_def]
  split
  · next heq => cases heq
  · next c es' heq =>
    obtain ⟨rfl, rfl⟩ : e = .continued ['\r'] ∧ es = .plain c :: es' := by simpa using heq
    have hc : c ∉ separators := fun hc => h c hc rfl rfl
    rw [if_neg hc]
    rfl
  · next heq =>
    cases heq
    rfl

/-- A separator that is taken with an escape. -/
theorem unescapeBody_separator {e : Escape} (h : e.TakesSeparator) (hc : c ∈ separators) (es : List StringElement) :
    unescapeBody (e.written ++ [c]) ++ readText es = readText (.escape e :: .plain c :: es) := by
  simp only [separators, List.mem_cons, List.not_mem_nil, or_false] at hc
  rcases h with rfl | rfl <;> rcases hc with rfl | rfl <;> rfl

theorem eq_nil_of_takePieces (hc : c ≠ '\\') (hplain : isPlain (c :: cs) = false)
    (h : takePieces isPlain (fuel + 1) (c :: cs) = some (ps, rest)) : ps = [] := by
  rw [takePieces, if_neg (Bool.eq_false_iff.mp hplain)] at h
  · cases h
    rfl
  · exact hc

/-- An escape before the rest of a string is one before the rest and its closing quote. -/
theorem Escape.Fits.append {e : Escape} (h : e.Fits rest) (hquote : quote = '"' ∨ quote = '\'') (after : List Char) :
    e.Fits (rest ++ quote :: after) := by
  cases e with
  | null =>
    cases rest with
    | nil => rcases hquote with rfl | rfl <;> simp [Fits]
    | cons d rest => exact h
  | _ => exact h

/-- **What is read for a string** is what its pieces stand for. -/
theorem flatMap_value_of_takePieces {es : List StringElement} {after : List Char}
    (hquote : quote = '"' ∨ quote = '\'') (h : Spells quote es body)
    (hps : takePieces (isStringPlain quote) fuel (body ++ quote :: after) = some (ps, quote :: after)) :
    ps.flatMap (·.value) = readText es := by
  induction fuel generalizing es body ps with
  | zero => cases hps
  | succ fuel ih =>
    cases h with
    | nil =>
      have hback : quote ≠ '\\' := by rcases hquote with rfl | rfl <;> decide
      rw [eq_nil_of_takePieces hback (by simp [isStringPlain]) hps]
      rfl
    | @cons e es rest fits spells =>
      cases e with
      | plain c =>
        have hplain : isStringPlain quote (c :: (rest ++ quote :: after)) = true := by
          simp [isStringPlain, fits.1, fits.2]
        obtain ⟨ps', hps', hvalue⟩ := exists_of_takePieces_plain fits.2.1 hplain hps
        rw [hvalue, ih spells hps']
        rfl
      | escape e =>
        rw [StringElement.written, List.cons_append, List.cons_append, List.append_assoc] at hps
        by_cases hjoined : e.TakesSeparator ∧ ∃ c ∈ separators, rest.head? = some c
        · obtain ⟨htakes, c, hc, hhead⟩ := hjoined
          obtain ⟨rest, rfl⟩ := List.head?_eq_some_iff.mp hhead
          obtain ⟨es, rfl, spells, -⟩ := spells.exists_plain fun heq => absurd (heq ▸ hc) (by decide)
          obtain ⟨ps', hps', rfl⟩ := exists_of_takePieces_escape (Escape.takeEscapeBody?_separator htakes hc) hps
          rw [List.flatMap_cons, ih spells hps']
          exact unescapeBody_separator htakes hc es
        · have hapart : e.IsApart (rest ++ quote :: after) := by
            intro d hd
            cases rest with
            | nil =>
              cases hd
              rcases hquote with rfl | rfl <;> exact ⟨by decide, fun _ => by decide⟩
            | cons d' rest =>
              cases hd
              exact ⟨spells.ne_lineFeed, fun htakes hsep => hjoined ⟨htakes, d, hsep, rfl⟩⟩
          obtain ⟨ps', hps', rfl⟩ := exists_of_takePieces_escape
            (Escape.takeEscapeBody?_of_fits (Escape.Fits.append fits hquote after) hapart) hps
          rw [List.flatMap_cons, ih spells hps', readText_escape]
          · exact congrArg (· ++ readText es) (Escape.unescapeBody_written fits)
          · rintro c hc rfl hhead
            obtain ⟨es, rfl⟩ := List.head?_eq_some_iff.mp hhead
            cases spells
            exact hjoined ⟨.inl rfl, c, hc, rfl⟩

end

/-! ## Code units -/

section

variable {quote : Char} {es : List StringElement} {body : List Char}

section

variable {α β : Type} {f g : α → List β} {P : α → Prop} {l : List α}

theorem length_flatMap_le (same : ∀ a ∈ l, P a → f a = g a) (longer : ∀ a ∈ l, ¬P a → (g a).length < (f a).length) :
    (l.flatMap g).length ≤ (l.flatMap f).length := by
  rw [List.length_flatMap, List.length_flatMap]
  refine List.sum_le_sum fun a ha => ?_
  by_cases hP : P a
  · rw [same a ha hP]
  · exact Nat.le_of_lt (longer a ha hP)

/-- Two ways to spell out a list agree on it if they agree on its members, where one is longer on every member on
which they do not. -/
theorem flatMap_eq_flatMap_iff (same : ∀ a ∈ l, P a → f a = g a)
    (longer : ∀ a ∈ l, ¬P a → (g a).length < (f a).length) : l.flatMap f = l.flatMap g ↔ ∀ a ∈ l, P a := by
  constructor
  · intro h
    induction l with
    | nil => nofun
    | cons a l ih =>
      obtain ⟨hsame, hsames⟩ := List.forall_mem_cons.mp same
      obtain ⟨hlonger, hlongers⟩ := List.forall_mem_cons.mp longer
      have hP : P a := by
        by_contra hP
        have hlength := congrArg List.length h
        rw [List.flatMap_cons, List.flatMap_cons, List.length_append, List.length_append] at hlength
        have := hlonger hP
        have := length_flatMap_le hsames hlongers
        omega
      rw [List.flatMap_cons, List.flatMap_cons, hsame hP] at h
      exact List.forall_mem_cons.mpr ⟨hP, ih hsames hlongers (List.append_cancel_left h)⟩
  · intro h
    exact List.flatMap_congr fun a ha => same a ha (h a ha)

end

theorem readText_eq_flatMap (h : ¬Joins es) : readText es = es.flatMap (·.text) := by
  induction es with
  | nil => rfl
  | cons e es ih =>
    have hes : readText es = es.flatMap (·.text) := by
      refine ih ?_
      rintro ⟨c, hc, hinfix⟩
      exact h ⟨c, hc, hinfix.trans (List.suffix_cons e es).isInfix⟩
    cases e with
    | plain c => rw [List.flatMap_cons, ← hes]; rfl
    | escape e =>
      rw [List.flatMap_cons, ← hes, readText_escape]
      · rfl
      · rintro c hc rfl hhead
        obtain ⟨es, rfl⟩ := List.head?_eq_some_iff.mp hhead
        exact h ⟨c, hc, (List.prefix_append [_, _] es).isInfix⟩

theorem codeUnits_ofNat {n : Nat} (hle : n ≤ 0x10ffff) (h : ¬IsSurrogate n) :
    codeUnits (Char.ofNat n) =
      if n < 0x10000 then [n] else [0xd800 + (n - 0x10000) / 0x400, 0xdc00 + (n - 0x10000) % 0x400] := by
  rw [codeUnits, toNat_ofNat_of_isValidChar ((isValidChar_iff hle).mpr h)]

/-- No character is without code units. -/
theorem length_le_length_units (cs : List Char) : cs.length ≤ (Digest.units cs).length := by
  induction cs with
  | nil => exact Nat.le_refl 0
  | cons c cs ih =>
    have hc : 0 < (codeUnits c).length := Digest.length_codeUnits c ▸ Text.Encoding.width_pos .utf16 c
    rw [Digest.units] at ih ⊢
    rw [List.flatMap_cons, List.length_append, List.length_cons]
    omega

namespace Escape

variable {e : Escape} {rest : List Char}

/-- An escape that is kept is read as the code units that it stands for. -/
theorem units_text (h : e.Fits rest) (hkept : e.IsKept) : Digest.units e.text = e.units := by
  cases e with
  | single c => exact List.append_nil _
  | null => rfl
  | byte a b =>
    have hlt : hexNumber [a, b] < 16 ^ 2 := hexNumber_lt h
    rw [text, units, Digest.units, List.flatMap_singleton, codeUnits_ofNat (by omega) (not_isSurrogate_of_two h),
      if_pos (by omega)]
  | unit a b c d =>
    have hlt : hexNumber [a, b, c, d] < 16 ^ 4 := hexNumber_lt h
    rw [text, if_neg hkept, units, Digest.units, List.flatMap_singleton, codeUnits_ofNat (by omega) hkept,
      if_pos (by omega)]
  | point ds =>
    rw [text, if_neg hkept, units, Digest.units, List.flatMap_singleton, codeUnits_ofNat h.2.2 hkept]
  | continued l =>
    have none : l.filter (· ∈ separators) = [] :=
      List.filter_eq_nil_iff.mpr fun c hc hsep => hkept c (of_decide_eq_true hsep) hc
    rw [text, none]
    rfl

/-- Of any other, too much is read. -/
theorem length_units_lt (hkept : ¬e.IsKept) : e.units.length < (Digest.units e.text).length := by
  cases e with
  | unit a b c d =>
    rw [text, if_pos (not_not.mp hkept)]
    have one : (unit a b c d).units.length < ['u', a, b, c, d].length := by simp [units]
    exact Nat.lt_of_lt_of_le one (length_le_length_units _)
  | point ds =>
    have hsurrogate : IsSurrogate (hexNumber ds) := not_not.mp hkept
    rw [text, if_pos hsurrogate]
    refine Nat.lt_of_lt_of_le ?_ (length_le_length_units _)
    have hlt : hexNumber ds < 0x10000 := Nat.lt_trans hsurrogate.2 (by decide)
    simp [units, hlt]
  | continued l =>
    have some : ∃ c ∈ separators, c ∈ l := by
      by_contra hnone
      exact hkept fun c hc hl => hnone ⟨c, hc, hl⟩
    obtain ⟨c, hc, hl⟩ := some
    have hmem : c ∈ text (continued l) := List.mem_filter.mpr ⟨hl, decide_eq_true hc⟩
    exact Nat.lt_of_lt_of_le (List.length_pos_of_mem hmem) (length_le_length_units _)
  | _ => exact absurd trivial hkept

end Escape

theorem Spells.fits (h : Spells quote es body) {e : StringElement} (he : e ∈ es) : ∃ rest, e.Fits quote rest := by
  induction h with
  | nil => cases he
  | cons fits _ ih =>
    rcases List.mem_cons.mp he with rfl | he
    · exact ⟨_, fits⟩
    · exact ih he

/-- **What is read for a string has the code units of the string** exactly if all escapes are kept. -/
theorem units_readText_iff (h : Spells quote es body) (hjoins : ¬Joins es) :
    Digest.units (readText es) = es.flatMap (·.units) ↔ ∀ e ∈ es, e.IsKept := by
  rw [readText_eq_flatMap hjoins, Digest.units, List.flatMap_assoc]
  refine flatMap_eq_flatMap_iff (fun e he hkept => ?_) fun e he hkept => ?_
  · obtain ⟨rest, fits⟩ := h.fits he
    cases e with
    | plain c => exact List.append_nil _
    | escape e => exact e.units_text fits hkept
  · obtain ⟨rest, fits⟩ := h.fits he
    cases e with
    | plain c => exact absurd trivial hkept
    | escape e => exact e.length_units_lt hkept

end

end StoryCatalog.JavaScript
