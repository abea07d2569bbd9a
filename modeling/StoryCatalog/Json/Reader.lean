import StoryCatalog.Json.Number

/-!
# Reading JSON text

`Json.read?` accepts exactly one JSON value of RFC 8259 with blanks around it. The grammar alone
decides acceptance: a string or number without a value, or an object with such a member name, is read
as `broken`. `Json.parse?` reads a text and breaks whatever is nested more than 127 levels deep.
-/

namespace StoryCatalog.Json

/-! ## Strings -/

/-- A piece of a string: a character as written, or one of the escaped UTF-16 code units. -/
inductive Glyph where
  | char (c : Char)
  | unit (u : Nat)

/-- The value of a hexadecimal digit. -/
def hexDigit? (c : Char) : Option Nat :=
  if c.isDigit then some (c.toNat - 48)
  else if 'a' ≤ c && c ≤ 'f' then some (c.toNat - 87)
  else if 'A' ≤ c && c ≤ 'F' then some (c.toNat - 55)
  else none

/-- The number of a list of hexadecimal digits. -/
def hexNumber? (cs : List Char) : Option Nat := do
  let digits ← cs.mapM hexDigit?
  pure (digits.foldl (fun n d => n * 16 + d) 0)

/-- The character that an escape of one letter stands for. -/
def simpleEscape? : Char → Option Char
  | '"' => some '"'
  | '\\' => some '\\'
  | '/' => some '/'
  | 'b' => some '\x08'
  | 'f' => some '\x0c'
  | 'n' => some '\n'
  | 'r' => some '\r'
  | 't' => some '\t'
  | _ => none

/-- The glyphs up to the closing quote, and the text after it. -/
def readGlyphs : List Char → Option (List Glyph × List Char)
  | [] => none
  | '"' :: cs => some ([], cs)
  | '\\' :: 'u' :: a :: b :: c :: d :: cs => do
    let u ← hexNumber? [a, b, c, d]
    let (gs, rest) ← readGlyphs cs
    pure (.unit u :: gs, rest)
  | '\\' :: e :: cs => do
    let c ← simpleEscape? e
    let (gs, rest) ← readGlyphs cs
    pure (.char c :: gs, rest)
  | c :: cs =>
    if c.toNat < 0x20 then none
    else do
      let (gs, rest) ← readGlyphs cs
      pure (.char c :: gs, rest)

/-- Whether a code unit is the first of a surrogate pair. -/
def isHighSurrogate (u : Nat) : Bool :=
  0xd800 ≤ u && u < 0xdc00

/-- Whether a code unit is the second of a surrogate pair. -/
def isLowSurrogate (u : Nat) : Bool :=
  0xdc00 ≤ u && u < 0xe000

/-- The characters of a list of glyphs; `none` if half of a surrogate pair stands alone. -/
def glyphText? : List Glyph → Option (List Char)
  | [] => some []
  | .char c :: gs => (glyphText? gs).map (c :: ·)
  | .unit u :: .unit v :: gs =>
    if isHighSurrogate u && isLowSurrogate v then
      (glyphText? gs).map (Char.ofNat (0x10000 + (u - 0xd800) * 0x400 + (v - 0xdc00)) :: ·)
    else if isHighSurrogate u || isLowSurrogate u then none
    else (glyphText? (.unit v :: gs)).map (Char.ofNat u :: ·)
  | .unit u :: gs =>
    if isHighSurrogate u || isLowSurrogate u then none
    else (glyphText? gs).map (Char.ofNat u :: ·)

/-- Reads a string after its opening quote; its value is missing if it has none. -/
def readString (cs : List Char) : Option (Option String × List Char) := do
  let (gs, rest) ← readGlyphs cs
  pure ((glyphText? gs).map String.ofList, rest)

/-! ## Numbers -/

/-- The decimal digits a text begins with, and the text after them. -/
def readDigits : List Char → List Nat × List Char
  | [] => ([], [])
  | c :: cs =>
    if c.isDigit then
      let (ds, rest) := readDigits cs
      ((c.toNat - 48) :: ds, rest)
    else ([], c :: cs)

/-- At least one decimal digit, and the text after the digits. -/
def readDigits1 (cs : List Char) : Option (List Nat × List Char) :=
  match readDigits cs with
  | ([], _) => none
  | (d :: ds, rest) => some (d :: ds, rest)

/-- The digits before the point: a zero alone, or digits that begin with another one. -/
def readWhole : List Char → Option (List Nat × List Char)
  | '0' :: cs => some ([0], cs)
  | cs => readDigits1 cs

/-- The point and the digits after it, if a point follows. -/
def readFraction : List Char → Option (Option (List Nat) × List Char)
  | '.' :: cs => (readDigits1 cs).map fun (ds, rest) => (some ds, rest)
  | cs => some (none, cs)

/-- The digits of an exponent after its optional sign. -/
def readSignedDigits : List Char → Option ((Bool × List Nat) × List Char)
  | '+' :: cs => (readDigits1 cs).map fun (ds, rest) => ((false, ds), rest)
  | '-' :: cs => (readDigits1 cs).map fun (ds, rest) => ((true, ds), rest)
  | cs => (readDigits1 cs).map fun (ds, rest) => ((false, ds), rest)

/-- The exponent, if an `e` follows. -/
def readExponent : List Char → Option (Option (Bool × List Nat) × List Char)
  | [] => some (none, [])
  | c :: cs =>
    if c = 'e' ∨ c = 'E' then (readSignedDigits cs).map fun (e, rest) => (some e, rest)
    else some (none, c :: cs)

/-- A number without its sign. -/
def readUnsigned (isNegative : Bool) (cs : List Char) : Option (Numeral × List Char) := do
  let (whole, cs) ← readWhole cs
  let (fraction, cs) ← readFraction cs
  let (exponent, cs) ← readExponent cs
  pure (⟨isNegative, whole, fraction, exponent⟩, cs)

/-- A number. -/
def readNumeral : List Char → Option (Numeral × List Char)
  | '-' :: cs => readUnsigned true cs
  | cs => readUnsigned false cs

/-- The value of a numeral, broken if it has none. -/
def ofNumeral (numeral : Numeral) : Json :=
  match numeral.value? with
  | some n => number n
  | none => broken

/-! ## Values -/

/-- Whether a character may stand between the parts of a JSON text. -/
def isSpace (c : Char) : Bool :=
  c == ' ' || c == '\n' || c == '\r' || c == '\t'

/-- The text after the blanks it begins with. -/
def skipSpace (cs : List Char) : List Char :=
  cs.dropWhile isSpace

/-- An object, broken if one of its names is. -/
def ofMembers (members : List (Option String × Json)) : Json :=
  match members.mapM fun (name, j) => name.map (·, j) with
  | some ms => object ms
  | none => broken

mutual

/-- A value, after any blanks, and the text after it. Every call takes one off the fuel. -/
def readValue : Nat → List Char → Option (Json × List Char)
  | 0, _ => none
  | fuel + 1, cs =>
    match skipSpace cs with
    | 'n' :: 'u' :: 'l' :: 'l' :: rest => some (null, rest)
    | 't' :: 'r' :: 'u' :: 'e' :: rest => some (bool true, rest)
    | 'f' :: 'a' :: 'l' :: 's' :: 'e' :: rest => some (bool false, rest)
    | '"' :: rest => (readString rest).map fun (s, rest) => (s.elim broken string, rest)
    | '[' :: rest =>
      match skipSpace rest with
      | ']' :: rest => some (array [], rest)
      | rest => (readItems fuel rest).map fun (items, rest) => (array items, rest)
    | '\x7b' :: rest =>
      match skipSpace rest with
      | '\x7d' :: rest => some (object [], rest)
      | rest => (readMembers fuel rest).map fun (ms, rest) => (ofMembers ms, rest)
    | rest => (readNumeral rest).map fun (n, rest) => (ofNumeral n, rest)

/-- The values of a non-empty array up to its closing bracket. -/
def readItems : Nat → List Char → Option (List Json × List Char)
  | 0, _ => none
  | fuel + 1, cs => do
    let (j, rest) ← readValue fuel cs
    match skipSpace rest with
    | ',' :: rest => (readItems fuel rest).map fun (js, rest) => (j :: js, rest)
    | ']' :: rest => some ([j], rest)
    | _ => none

/-- The members of a non-empty object up to its closing brace. -/
def readMembers : Nat → List Char → Option (List (Option String × Json) × List Char)
  | 0, _ => none
  | fuel + 1, cs =>
    match skipSpace cs with
    | '"' :: rest => do
      let (name, rest) ← readString rest
      match skipSpace rest with
      | ':' :: rest => do
        let (j, rest) ← readValue fuel rest
        match skipSpace rest with
        | ',' :: rest => (readMembers fuel rest).map fun (ms, rest) => ((name, j) :: ms, rest)
        | '\x7d' :: rest => some ([(name, j)], rest)
        | _ => none
      | _ => none
    | _ => none

end

/-- The value that a text spells, with nothing but blanks around it. -/
def read? (text : String) : Option Json := do
  let cs := text.toList
  let (j, rest) ← readValue (2 * cs.length + 2) cs
  if (skipSpace rest).isEmpty then pure j else none

/-- How many arrays and objects may be nested in a text. -/
def depthLimit : Nat := 127

/-- The value that a text spells, broken beyond the depth limit. -/
def parse? (text : String) : Option Json :=
  (read? text).map (clip depthLimit)

end StoryCatalog.Json
