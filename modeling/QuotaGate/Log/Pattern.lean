/-
Patterns for the values of fields.

A value that a filter asks for is a number or a pattern, and a pattern is a regular
expression.  `isValue` tells which texts are values; nothing is ever matched against
them, since values are asked for of spans alone.

Patterns match characters, and know no properties of them: whatever depends on letter
case, on the classes of letters and digits or on the ends of words is refused while the
flag `u` stands, and whatever may match half a character is refused without it.

Design notes: a value holds no closing brace, so no repetition is counted, and no name
stands in braces.
-/
import QuotaGate.Text.Alphanumeric
import QuotaGate.Text.Blank
import QuotaGate.Text.Numeral

namespace QuotaGate.Log.Pattern

/-- The flags that matter for what is refused. -/
structure Flags where
  /-- Characters are matched, not bytes. -/
  unicode : Bool := true
  /-- Letter case does not count. -/
  folds : Bool := false
  /-- Blanks and comments between the parts of the pattern do not count. -/
  spaced : Bool := false

namespace Flags

def set (f : Flags) (flag : Char) (on : Bool) : Flags :=
  if flag = 'u' then { f with unicode := on }
  else if flag = 'i' then { f with folds := on }
  else if flag = 'x' then { f with spaced := on }
  else f

/-- Whether a character may stand for itself. -/
def allowsLiteral (f : Flags) : Bool :=
  !(f.folds && f.unicode)

/-- Passes over blanks and comments. -/
def skipSpace : (comment : Bool) → List Char → List Char
  | _, [] => []
  | comment, c :: rest =>
    if comment then skipSpace (c ≠ '\n') rest
    else if Text.isBlank c then skipSpace false rest
    else if c = '#' then skipSpace true rest
    else c :: rest

/-- Passes over what does not count. -/
def skip (f : Flags) (cs : List Char) : List Char :=
  if f.spaced then skipSpace false cs else cs

end Flags

/-! ### Escapes -/

/-- What an escape stands for. -/
inductive Atom
  | char (c : Char)
  | set
  /-- A place between characters. -/
  | place

/-- Reads the digits of a character's number. -/
def hexEscape? (f : Flags) (digits : Nat) (cs : List Char) : Option (Atom × List Char) := do
  let ds ← (cs.take digits).mapM Numeral.hexDigit?
  let n := ds.foldl (16 * · + ·) 0
  if ds.length = digits && decide n.isValidChar && (f.unicode || digits ≠ 2 || n < 0x80) then
    some (.char (Char.ofNat n), cs.drop digits)
  else none

/-- The characters that letters after a backslash stand for. -/
def controls : List (Char × Char) :=
  [('a', '\x07'), ('f', '\x0c'), ('t', '\t'), ('n', '\n'), ('r', '\r'), ('v', '\x0b')]

/-- Reads an escape after its backslash. -/
def escape? (f : Flags) : List Char → Option (Atom × List Char)
  | [] => none
  | c :: rest =>
    if c = 'x' then hexEscape? f 2 rest
    else if c = 'u' then hexEscape? f 4 rest
    else if c = 'U' then hexEscape? f 8 rest
    else if c = 'A' || c = 'z' then some (.place, rest)
    else if c = 'b' || c = 'B' || c = '<' || c = '>' then if f.unicode then none else some (.place, rest)
    else if c = 'd' || c = 's' || c = 'w' then if f.unicode then none else some (.set, rest)
    else match controls.lookup c with
      | some d => some (.char d, rest)
      | none => if c.isAlphanum || 0x80 ≤ c.toNat then none else some (.char c, rest)

/-! ### Sets of characters -/

/-- The names of sets of ASCII characters. -/
def setNames : List String :=
  ["alnum", "alpha", "ascii", "blank", "cntrl", "digit", "graph", "lower", "print", "punct", "space", "upper",
    "word", "xdigit"]

/-- Reads a named set after its bracket. -/
def namedSet? : List Char → Option (List Char)
  | ':' :: rest =>
    let rest := if rest.head? == some '^' then rest.drop 1 else rest
    match rest.dropWhile (· ≠ ':') with
    | ':' :: ']' :: after =>
      if setNames.contains (String.ofList (rest.takeWhile (· ≠ ':'))) then some after else none
    | _ => none
  | _ => none

/-- Reads the beginning of a set after its bracket: a complement sign, hyphens that
stand for themselves, and, if nothing else has come, a closing bracket that does. -/
def setStart? (f : Flags) (cs : List Char) : Option (List Char) :=
  let cs := f.skip cs
  let complement := cs.head? == some '^'
  let cs := if complement then f.skip (cs.drop 1) else cs
  let after := cs.dropWhile (· = '-')
  if complement && !f.unicode then none
  else match f.skip after with
    | [] => none
    | ']' :: rest => if after.length = cs.length then some rest else some (']' :: rest)
    | rest => some rest

/-- Reads a member of a set. -/
def member? (f : Flags) : List Char → Option (Atom × List Char)
  | [] => none
  | '\\' :: rest =>
    match escape? f rest with
    | some (.place, _) => none
    | result => result
  | c :: rest => if f.unicode || c.toNat < 0x80 then some (.char c, rest) else none

/-- Reads a set from behind its beginning, `depth` sets deep in others. -/
def set? (f : Flags) : (fuel depth : Nat) → List Char → Option (List Char)
  | 0, _, _ => none
  | fuel + 1, depth, cs =>
    match f.skip cs with
    | [] => none
    | ']' :: rest => if depth = 0 then some rest else set? f fuel (depth - 1) rest
    | '[' :: rest =>
      match namedSet? rest with
      | some rest => set? f fuel depth rest
      | none => (setStart? f rest).bind (set? f fuel (depth + 1))
    | '&' :: '&' :: rest => set? f fuel depth rest
    | '-' :: '-' :: rest => set? f fuel depth rest
    | '~' :: '~' :: rest => set? f fuel depth rest
    | cs => do
      let (first, rest) ← member? f cs
      match f.skip rest with
      | '-' :: more =>
        match f.skip more with
        | ']' :: _ => set? f fuel depth ('-' :: more)
        | '-' :: _ => set? f fuel depth ('-' :: more)
        | more => do
          match first, ← member? f more with
          | .char a, (.char b, rest) => if a ≤ b then set? f fuel depth rest else none
          | _, _ => none
      | rest => set? f fuel depth rest

/-! ### Groups -/

/-- Reads the name of a group up to its closing angle bracket. -/
def groupName? (cs : List Char) : Option (List Char × List Char) :=
  let name := cs.takeWhile (· ≠ '>')
  let mayStand (c : Char) : Bool := Text.isAlphanumeric c || "_.[]".toList.contains c
  match name, cs.dropWhile (· ≠ '>') with
  | first :: _, _ :: rest =>
    if name.all mayStand && (first = '_' || (Text.isAlphanumeric first && !first.isDigit)) then
      some (name, rest)
    else none
  | _, _ => none

/-- Reads flags up to the colon or the parenthesis after them; answers the flags that
stand then, all signs read, and the rest with that mark. -/
def flags? : (on : Bool) → (seen : List Char) → Flags → List Char → Option (Flags × List Char × List Char)
  | _, _, _, [] => none
  | on, seen, f, c :: rest =>
    if c = ':' || c = ')' then
      if seen.head? == some '-' then none else some (f, seen, c :: rest)
    else if seen.contains c then none
    else if c = '-' then flags? false (c :: seen) f rest
    else if "imsRUux".toList.contains c then flags? on (c :: seen) (f.set c on) rest
    else none

/-- Where a reader of patterns stands. -/
structure Place where
  flags : Flags
  /-- The flags around each open group, innermost first. -/
  outer : List Flags
  names : List (List Char)
  /-- Whether there is something to repeat. -/
  operand : Bool

/-- Reads what follows an opening parenthesis. -/
def Place.open? (p : Place) (cs : List Char) : Option (Place × List Char) :=
  let inner : Place := { p with outer := p.flags :: p.outer, operand := false }
  let named (cs : List Char) : Option (Place × List Char) := do
    let (name, rest) ← groupName? cs
    if p.names.contains name then none else some ({ inner with names := name :: p.names }, rest)
  match p.flags.skip cs with
  | '?' :: 'P' :: '<' :: rest => named rest
  | '?' :: '<' :: rest => named rest
  | '?' :: rest => do
    match ← flags? true [] p.flags rest with
    | (flags, _, ':' :: rest) => some ({ inner with flags }, rest)
    | (flags, _ :: _, _ :: rest) => some ({ p with flags, operand := false }, rest)
    | _ => none
  | rest => some (inner, rest)

/-- Whether the rest of a pattern is in order. -/
def inOrder : (fuel : Nat) → Place → List Char → Bool
  | 0, _, _ => false
  | fuel + 1, p, cs =>
    let after (r : List Char) : Bool := inOrder fuel { p with operand := true } r
    match p.flags.skip cs with
    | [] => p.outer.isEmpty
    | '(' :: r =>
      match p.open? r with
      | some (p, r) => inOrder fuel p r
      | none => false
    | ')' :: r =>
      match p.outer with
      | [] => false
      | flags :: outer => inOrder fuel { p with flags, outer, operand := true } r
    | '|' :: r => inOrder fuel { p with operand := false } r
    | '[' :: r =>
      match (setStart? p.flags r).bind (set? p.flags (r.length + 1) 0) with
      | some r => p.flags.allowsLiteral && after r
      | none => false
    | '{' :: _ => false
    | '\\' :: r =>
      match escape? p.flags r with
      | some (.char _, r) => p.flags.allowsLiteral && after r
      | some (_, r) => after r
      | none => false
    | '.' :: r => p.flags.unicode && after r
    | c :: r =>
      if c = '*' || c = '+' || c = '?' then
        p.operand && after (if r.head? == some '?' then r.drop 1 else r)
      else if c = '^' || c = '$' then after r
      else p.flags.allowsLiteral && after r

/-- Whether a text is a pattern. -/
def isValid (cs : List Char) : Bool :=
  inOrder (cs.length + 1) { flags := {}, outer := [], names := [], operand := false } cs

/-! ### Values -/

/-- Whether a text is a number without a sign: digits, perhaps with a point among or
around them and with an exponent, or one of the words for infinity and for no number. -/
def isNumber (cs : List Char) : Bool :=
  let isMark (c : Char) : Bool := c = 'e' || c = 'E'
  let digits := cs.takeWhile fun c => !isMark c
  let exponent := (cs.dropWhile fun c => !isMark c).drop 1
  let unsigned := if exponent.head? == some '+' || exponent.head? == some '-' then exponent.drop 1 else exponent
  ["inf", "infinity", "nan"].contains (String.ofList (cs.map Char.toLower))
    || (digits.any Char.isDigit && (digits.filter fun c => !c.isDigit).isPrefixOf ['.']
      && (digits.length = cs.length || (!unsigned.isEmpty && unsigned.all Char.isDigit)))

/-- Whether a field may be asked for with this value.  Numbers are patterns, except for
a plus sign before them. -/
def isValue (cs : List Char) : Bool :=
  isValid cs || (cs.head? == some '+' && isNumber (cs.drop 1))

end QuotaGate.Log.Pattern
