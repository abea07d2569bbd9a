import StoryCatalog.JavaScript.Character

/-!
# Lexemes

Strings and templates are made of pieces of plain text and of escapes, numbers of digits in one of four bases. Each
piece is the longest that can be taken.

* `takePieces_append`: the pieces of a string and the text after them are the text.
-/

namespace StoryCatalog.JavaScript

/-! ## Escapes -/

/-- The characters of an escape after its backslash that a text begins with, and the text after
them. -/
def takeEscapeBody? : List Char → Option (List Char × List Char)
  | 'x' :: a :: b :: cs => if isHexDigit a && isHexDigit b then some (['x', a, b], cs) else none
  | 'x' :: _ => none
  | 'u' :: cs =>
    match takeEscape? ('\\' :: 'u' :: cs) with
    | some (_ :: body, rest) => some (body, rest)
    | _ => none
  | '\r' :: c :: cs => if isLineEnd c then some (['\r', c], cs) else some (['\r'], c :: cs)
  | '?' :: c :: cs => if isLineEnd c then some (['?', c], cs) else some (['?'], c :: cs)
  | c :: cs =>
    if '0' ≤ c && c ≤ '7' then
      let octal := ((c :: cs).takeWhile fun d => '0' ≤ d && d ≤ '7').take 3
      some (octal, (c :: cs).drop octal.length)
    else some ([c], cs)
  | [] => none

/-! ## Pieces -/

/-- A piece of a string or template: plain text, or an escape without its backslash. -/
inductive Piece where
  | plain (cs : List Char)
  | escape (body : List Char)
deriving DecidableEq, Repr

namespace Piece

/-- The kind of a piece in a syntax tree. -/
def kind : Piece → String
  | plain _ => "string_fragment"
  | escape _ => "escape_sequence"

/-- A piece as it is written. -/
def written : Piece → List Char
  | plain cs => cs
  | escape body => '\\' :: body

end Piece

/-- The pieces that a text begins with, where `isPlain` says which texts begin with a plain character,
and the text after them; `none` if a backslash begins no escape. Each piece takes one off the fuel. -/
def takePieces (isPlain : List Char → Bool) : Nat → List Char → Option (List Piece × List Char)
  | 0, _ => none
  | _, [] => some ([], [])
  | fuel + 1, '\\' :: cs =>
    match takeEscapeBody? cs with
    | some (body, rest) =>
      (takePieces isPlain fuel rest).map fun (ps, rest) => (.escape body :: ps, rest)
    | none => none
  | fuel + 1, c :: cs =>
    if isPlain (c :: cs) then
      (takePieces isPlain fuel cs).map fun
        | (.plain text :: ps, rest) => (.plain (c :: text) :: ps, rest)
        | (ps, rest) => (.plain [c] :: ps, rest)
    else some ([], c :: cs)

/-- Whether a string in a kind of quotes goes on with a plain character. -/
def isStringPlain (quote : Char) (cs : List Char) : Bool :=
  cs.head?.any fun c => c != quote && c != '\\' && c != '\r' && c != '\n'

/-- Whether a template goes on with a plain character. -/
def isTemplatePlain : List Char → Bool
  | '$' :: '\x7b' :: _ => false
  | c :: _ => c != '`' && c != '\\' && c.toNat != 0
  | [] => false

theorem takeEscapeBody?_append {cs body rest : List Char}
    (h : takeEscapeBody? cs = some (body, rest)) : body ++ rest = cs := by
  rw [takeEscapeBody?.eq_def] at h
  split at h
  · split at h
    · simp only [Option.some.injEq, Prod.mk.injEq] at h
      obtain ⟨rfl, rfl⟩ := h
      rfl
    · simp at h
  · simp at h
  · split at h
    · next he =>
      have := takeEscape?_append he
      simp only [Option.some.injEq, Prod.mk.injEq] at h
      obtain ⟨rfl, rfl⟩ := h
      simp only [List.cons_append, List.cons.injEq] at this
      exact this.2
    · simp at h
  · split at h <;> (simp only [Option.some.injEq, Prod.mk.injEq] at h; obtain ⟨rfl, rfl⟩ := h; rfl)
  · split at h <;> (simp only [Option.some.injEq, Prod.mk.injEq] at h; obtain ⟨rfl, rfl⟩ := h; rfl)
  · next c cs _ _ _ _ _ =>
    split at h
    · simp only [Option.some.injEq, Prod.mk.injEq] at h
      obtain ⟨rfl, rfl⟩ := h
      have hp : ((c :: cs).takeWhile fun d => '0' ≤ d && d ≤ '7') <+: c :: cs :=
        List.takeWhile_prefix _
      exact List.prefix_iff_eq_append.mp ((List.take_prefix 3 _).trans hp)
    · simp only [Option.some.injEq, Prod.mk.injEq] at h
      obtain ⟨rfl, rfl⟩ := h
      rfl
  · simp at h

theorem takePieces_append {isPlain : List Char → Bool} {fuel : Nat} {cs rest : List Char}
    {ps : List Piece} (h : takePieces isPlain fuel cs = some (ps, rest)) :
    ps.flatMap (·.written) ++ rest = cs := by
  induction fuel generalizing cs ps rest with
  | zero => simp [takePieces] at h
  | succ fuel ih =>
    rw [takePieces.eq_def] at h
    split at h
    · simp at h
    · simp only [Option.some.injEq, Prod.mk.injEq] at h
      obtain ⟨rfl, rfl⟩ := h
      rfl
    · next heq =>
      cases heq
      split at h
      · next hb =>
        simp only [Option.map_eq_some_iff, Prod.exists, Prod.mk.injEq] at h
        obtain ⟨ps', rest', hp, rfl, rfl⟩ := h
        have := ih hp
        have := takeEscapeBody?_append hb
        simp_all [Piece.written]
      · simp at h
    · next heq =>
      cases heq
      split at h
      · simp only [Option.map_eq_some_iff, Prod.exists] at h
        obtain ⟨ps', rest', hp, h⟩ := h
        have := ih hp
        split at h <;>
          (simp only [Prod.mk.injEq] at h; obtain ⟨rfl, rfl⟩ := h; simp_all [Piece.written])
      · simp only [Option.some.injEq, Prod.mk.injEq] at h
        obtain ⟨rfl, rfl⟩ := h
        rfl

/-! ## Numbers -/

/-- The digits that a text begins with, where single underscores may stand between digits. -/
def takeDigits (isDigit : Char → Bool) : List Char → List Char
  | '_' :: _ => []
  | c :: '_' :: d :: cs =>
    if isDigit c then
      if isDigit d then c :: '_' :: takeDigits isDigit (d :: cs) else [c]
    else []
  | c :: cs => if isDigit c then c :: takeDigits isDigit cs else []
  | [] => []

/-- A number in another base: its mark and digits, with an `n` after them if there is one. -/
def takeBased (isDigit : Char → Bool) (mark : List Char) (cs : List Char) : List Char :=
  match takeDigits isDigit cs with
  | [] => []
  | ds => mark ++ ds ++ (if (cs.drop ds.length).head? = some 'n' then ['n'] else [])

/-- The exponent that a text begins with, if it has any digits. -/
def takeExponent : List Char → List Char
  | [] => []
  | e :: cs =>
    if e = 'e' ∨ e = 'E' then
      let sign := cs.takeWhile (fun c => c == '+' || c == '-') |>.take 1
      match takeDigits Char.isDigit (cs.drop sign.length) with
      | [] => []
      | ds => e :: sign ++ ds
    else []

/-- The fraction that a text begins with, its point included. -/
def takeFraction : List Char → List Char
  | '.' :: cs => '.' :: takeDigits Char.isDigit cs
  | _ => []

/-- Whether digits may stand before a point or an exponent: a zero alone, or digits of which the first
or the second is not zero. -/
def isDecimalInteger : List Char → Bool
  | ['0'] => true
  | '0' :: c :: _ => c.isDigit && c != '0'
  | c :: _ => c.isDigit
  | [] => false

/-- A decimal number that a text begins with. -/
def takeDecimal (cs : List Char) : List Char :=
  let whole := takeDigits Char.isDigit cs
  let rest := cs.drop whole.length
  if isDecimalInteger whole && rest.head? == some '.' then
    let fraction := takeFraction rest
    whole ++ fraction ++ takeExponent (rest.drop fraction.length)
  else if whole.isEmpty then
    let fraction := takeFraction rest
    if fraction.length < 2 then []
    else fraction ++ takeExponent (rest.drop fraction.length)
  else if rest.head? == some 'n' then whole ++ ['n']
  else if isDecimalInteger whole then whole ++ takeExponent rest
  else whole

/-- The longest number that a text begins with; empty if there is none. -/
def takeNumber (cs : List Char) : List Char :=
  let based := match cs with
    | '0' :: b :: rest =>
      if b = 'x' ∨ b = 'X' then takeBased isHexDigit ['0', b] rest
      else if b = 'b' ∨ b = 'B' then takeBased (fun c => c == '0' || c == '1') ['0', b] rest
      else if b = 'o' ∨ b = 'O' then takeBased (fun c => '0' ≤ c && c ≤ '7') ['0', b] rest
      else []
    | _ => []
  if based.isEmpty then takeDecimal cs else based

end StoryCatalog.JavaScript
