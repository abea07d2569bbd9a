import StoryCatalog.Text.Letter

/-!
# Offsets into text

Offsets count either UTF-16 code units or UTF-8 bytes. `splitAt?` cuts a text after a number of
units and refuses an offset inside a character or beyond the end, so a span of offsets names a piece
of text exactly if both its ends fall between characters. `byteOffset?` turns an offset into a byte offset;
where every character takes one unit of either kind there is nothing to count.

* `measure_append`: the units of a text add up.
* `splitAt?_eq_some_iff`: `splitAt?` finds the one way to cut off a given number of units.
-/

namespace StoryCatalog.Text

/-- The unit in which offsets are counted. -/
inductive Encoding where
  | utf16
  | utf8
deriving DecidableEq, Repr

/-- How many units a character takes. -/
def Encoding.width : Encoding → Char → Nat
  | .utf16, c => if c.toNat < 0x10000 then 1 else 2
  | .utf8, c => c.utf8Size

theorem Encoding.width_pos (u : Encoding) (c : Char) : 0 < u.width c := by
  cases u with
  | utf16 => simp only [width]; split <;> omega
  | utf8 => exact c.utf8Size_pos

/-- How many units a text takes. -/
def measure (u : Encoding) : List Char → Nat
  | [] => 0
  | c :: cs => u.width c + measure u cs

@[simp] theorem measure_nil (u : Encoding) : measure u [] = 0 := rfl

@[simp] theorem measure_cons (u : Encoding) (c : Char) (cs : List Char) :
    measure u (c :: cs) = u.width c + measure u cs := rfl

@[simp] theorem measure_append (u : Encoding) (a b : List Char) :
    measure u (a ++ b) = measure u a + measure u b := by
  induction a with
  | nil => simp
  | cons c a ih => simp [ih, Nat.add_assoc]

/-- The text cut in two after `n` units; `none` if `n` falls inside a character or beyond the end. -/
def splitAt? (u : Encoding) (n : Nat) : List Char → Option (List Char × List Char)
  | [] => if n = 0 then some ([], []) else none
  | c :: cs =>
    if n = 0 then some ([], c :: cs)
    else if u.width c ≤ n then
      (splitAt? u (n - u.width c) cs).map fun (a, b) => (c :: a, b)
    else none

theorem splitAt?_eq_some_iff {u : Encoding} {n : Nat} {cs a b : List Char} :
    splitAt? u n cs = some (a, b) ↔ cs = a ++ b ∧ measure u a = n := by
  induction cs generalizing n a b with
  | nil =>
    rw [splitAt?]
    cases a with
    | nil => simp [eq_comm, and_comm]
    | cons d a => simp
  | cons c cs ih =>
    have hc := u.width_pos c
    rw [splitAt?]
    split
    · next h =>
      subst h
      cases a with
      | nil => simp [eq_comm]
      | cons d a =>
        have hd := u.width_pos d
        simp only [Option.some.injEq, Prod.mk.injEq, List.nil_eq, reduceCtorEq, false_and,
          measure_cons, false_iff, not_and]
        omega
    · next h =>
      cases a with
      | nil =>
        simp only [measure_nil, List.nil_append]
        constructor
        · intro e
          split at e
          · simp at e
          · simp at e
        · rintro ⟨_, rfl⟩
          exact absurd rfl h
      | cons d a =>
        split
        · next hle =>
          simp only [Option.map_eq_some_iff, Prod.exists, Prod.mk.injEq, List.cons.injEq,
            List.cons_append, measure_cons]
          constructor
          · rintro ⟨a', b', e, ⟨rfl, rfl⟩, rfl⟩
            obtain ⟨rfl, hm⟩ := ih.mp e
            exact ⟨⟨rfl, rfl⟩, by omega⟩
          · rintro ⟨⟨rfl, rfl⟩, hm⟩
            exact ⟨a, b, ih.mpr ⟨rfl, by omega⟩, ⟨rfl, rfl⟩, rfl⟩
        · next hgt =>
          simp only [reduceCtorEq, List.cons_append, List.cons.injEq, measure_cons, false_iff,
            not_and, and_imp]
          rintro rfl _
          omega

/-- The piece of text between two offsets; `none` if they are out of order or one of them is not
between characters. -/
def slice? (u : Encoding) (start stop : Nat) (cs : List Char) : Option (List Char) :=
  if stop < start then none
  else do
    let (_, rest) ← splitAt? u start cs
    let (piece, _) ← splitAt? u (stop - start) rest
    pure piece

/-- Whether a text is ASCII, so that every character takes one unit of either kind. -/
def isAsciiText (cs : List Char) : Bool :=
  cs.all isAscii

/-- The byte at which `n` UTF-16 code units are counted, after some units and bytes have been; `none` if `n`
falls inside a character or beyond the end. -/
def countTo? (n units bytes : Nat) : List Char → Option Nat
  | [] => if units = n then some bytes else none
  | c :: cs =>
    if units = n then some bytes
    else if n < units then none
    else countTo? n (units + Encoding.utf16.width c) (bytes + c.utf8Size) cs

/-- The byte offset that an offset stands for. An offset that counts bytes may fall inside a character. -/
def byteOffset? (u : Encoding) (n : Nat) (cs : List Char) : Option Nat :=
  if u = .utf8 ∨ isAsciiText cs = true then
    if n ≤ measure .utf8 cs then some n else none
  else countTo? n 0 0 cs

end StoryCatalog.Text
