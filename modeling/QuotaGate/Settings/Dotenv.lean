/-
Files of settings.

A file sets one name in a line, `name=value`, perhaps after the word `export`.  Blank
lines and lines that begin with a number sign say nothing, and so does the rest of a
line from a number sign after a blank on.  In a value

* single quotes keep everything as it is, across lines;
* double quotes keep blanks and number signs, across lines;
* a backslash, outside single quotes, stands for the quote, blank, dollar sign or
  backslash after it, and before an `n` for a line end;
* a dollar sign, outside single quotes, stands for the value of the name after it, which
  may be in braces.

`Dotenv.load` sets what the file says and the environment does not; it stops at the
first line that is not understood.
-/
import QuotaGate.Environment
import QuotaGate.Text.Alphanumeric
import QuotaGate.Text.Blank

namespace QuotaGate.Dotenv

/-! ### Lines -/

/-- Where a reader of lines stands. -/
inductive Place
  | plain
  | afterBlank
  | escaped
  | single (escaped : Bool)
  | double (escaped : Bool)
  deriving DecidableEq, Repr

/-- The place after a character; `none` at a number sign after a blank. -/
def Place.next : Place → Char → Option Place
  | .afterBlank, '#' => none
  | .afterBlank, c => some (
      if c = '\\' then .escaped else if c = '"' then .double false
      else if c = '\x27' then .single false else .plain)
  | .escaped, _ => some .plain
  | .plain, c => some (
      if Text.isBlank c ∧ c ≠ '\n' ∧ c ≠ '\r' then .afterBlank
      else if c = '\\' then .escaped else if c = '"' then .double false
      else if c = '\x27' then .single false else .plain)
  | .double false, c => some (
      if c = '\\' then .double true else if c = '"' then .plain else .double false)
  | .double true, _ => some (.double false)
  | .single false, c => some (
      if c = '\\' then .single true else if c = '\x27' then .plain else .single false)
  | .single true, _ => some (.single false)

/-- What reading through a line comes to: the place at its end, or the part before a
comment. -/
inductive Through
  | at (place : Place)
  | comment (before : List Char)

/-- Reads through the characters of a line. -/
def through (place : Place) : (read : List Char) → List Char → Through
  | _, [] => .at place
  | read, c :: rest =>
    match place.next c with
    | none => .comment read.reverse
    | some place => through place (c :: read) rest

/-- A line with its line end, and what follows it. -/
def cutLine : List Char → List Char × List Char
  | [] => ([], [])
  | '\n' :: rest => (['\n'], rest)
  | c :: rest =>
    let (line, rest) := cutLine rest
    (c :: line, rest)

/-- A line without its line end. -/
def chomp (cs : List Char) : List Char :=
  match cs.reverse with
  | '\n' :: '\r' :: rest => rest.reverse
  | '\n' :: rest => rest.reverse
  | _ => cs

/-- Gathers the lines of a file, each with the following ones that its quotes run into;
`none` stands for one that does not end.  `pending` is the line that is being
gathered. -/
def gather : (fuel : Nat) → (pending : List Char) → Place → List Char → List (Option (List Char))
  | 0, _, _, _ => []
  | _, _, place, [] => if place = .plain then [] else [none]
  | fuel + 1, pending, place, cs =>
    let (line, rest) := cutLine cs
    let whole := pending ++ line
    -- Only a line that begins with a number sign is a comment as a whole.
    if (Text.dropBlank whole).head? == some '#' then some [] :: gather fuel [] .plain rest
    else match through place [] line with
      | .comment before => some (pending ++ before) :: gather fuel [] .plain rest
      | .at .plain => some (chomp whole) :: gather fuel [] .plain rest
      | .at place => gather fuel whole place rest

/-- The lines of a file. -/
def lines (cs : List Char) : List (Option (List Char)) :=
  gather (cs.length + 1) [] .plain cs

/-! ### Values -/

/-- Names set so far, latest first. -/
abbrev Seen := List (String × String)

/-- The value that a name stands for: that of the environment, else the one set so
far. -/
def lookup (env : Environment) (seen : Seen) (name : List Char) : List Char :=
  (((env.text? (String.ofList name)).or (seen.lookup (String.ofList name))).getD "").toList

/-- How a reader of values takes the next character. -/
inductive Mode
  | plain
  | single
  | double
  /-- After the value: only blanks and a comment may follow. -/
  | done
  deriving DecidableEq, Repr

/-- The reader of values.  A dollar sign begins a name, which ends at the first
character that is no letter or digit, or, after an opening brace, at the closing one. -/
structure Reader where
  mode : Mode := .plain
  escaped : Bool := false
  /-- The name being read after a dollar sign, in reverse, and whether it is in braces. -/
  name : Option (List Char × Bool) := none
  /-- The value so far, in reverse. -/
  out : List Char := []

namespace Reader

def push (r : Reader) (cs : List Char) : Reader :=
  { r with out := cs.reverse ++ r.out }

/-- The character that an escape stands for. -/
def unescape? (c : Char) : Option Char :=
  if c = '\\' || c = '\x27' || c = '"' || c = '$' || c = ' ' then some c
  else if c = 'n' then some '\n'
  else none

/-- Takes a character outside escapes and names. -/
def take (r : Reader) (c : Char) : Reader :=
  if c = '$' then { r with name := some ([], false) }
  else if r.mode = .double then
    if c = '"' then { r with mode := .plain }
    else if c = '\\' then { r with escaped := true }
    else r.push [c]
  else if c = '\x27' then { r with mode := .single }
  else if c = '"' then { r with mode := .double }
  else if c = '\\' then { r with escaped := true }
  else if c = ' ' || c = '\t' then { r with mode := .done }
  else r.push [c]

/-- Takes a character of a name or the one after it. -/
def takeName (value : List Char → List Char) (r : Reader) (name : List Char) (braces : Bool)
    (c : Char) : Reader :=
  if Text.isAlphanumeric c then { r with name := some (c :: name, braces) }
  else if braces then
    if c = '\x7d' then { r with name := none }.push (value name.reverse)
    else { r with name := some (c :: name, true) }
  else if c = '\x7b' && name.isEmpty then { r with name := some ([], true) }
  else
    -- The character that ends the name belongs to the value, or begins the next name.
    let r := { r with name := none }.push (value name.reverse)
    if c = '$' then { r with name := some ([], false) } else r.push [c]

/-- Reads to the end of a value. -/
def run (value : List Char → List Char) : Reader → List Char → Option (List Char)
  | r, [] =>
    let open? := r.mode = .single || r.mode = .double || (r.name.map (·.2)).getD false
    -- A name at the very end has nothing after it that would end it.
    if open? then none
    else match r.name with
      | some (name, _) => some (r.push (value name.reverse)).out.reverse
      | none => some r.out.reverse
  | r, c :: rest =>
    if r.mode = .done then
      if c = ' ' || c = '\t' then run value r rest
      else if c = '#' then run value r []
      else none
    else if r.escaped then
      match unescape? c with
      | some x => run value { r with escaped := false, out := x :: r.out } rest
      | none => none
    else if r.mode = .single then
      run value (if c = '\x27' then { r with mode := .plain } else r.push [c]) rest
    else match r.name with
      | some (name, braces) => run value (r.takeName value name braces c) rest
      | none => run value (r.take c) rest

end Reader

/-! ### Loading -/

/-- The name at the front, and what follows it. -/
def key? (cs : List Char) : Option (String × List Char) :=
  match cs with
  | [] => none
  | c :: _ =>
    if c.isAlpha || c = '_' then
      let isPart (c : Char) : Bool := c.isAlphanum || c = '_' || c = '.'
      some (String.ofList (cs.takeWhile isPart), cs.dropWhile isPart)
    else none

/-- The name and the text of the value that a line sets, or nothing. -/
def assignment? (line : List Char) : Option (Option (String × List Char)) := do
  let cs := Text.dropBlank (Text.dropBlankEnd line)
  if cs.isEmpty || cs.head? == some '#' then return none
  let (key, rest) ← key? cs
  match Text.dropBlank rest with
  | '=' :: rest => return some (key, Text.dropBlank rest)
  | rest =>
    if key ≠ "export" then none
    let (key, rest) ← key? rest
    match Text.dropBlank rest with
    | '=' :: rest => return some (key, Text.dropBlank rest)
    | _ => none

/-- Sets what the lines say and the environment does not. -/
def loadLines : Environment → Seen → List (Option (List Char)) → Environment
  | env, _, [] => env
  | env, _, none :: _ => env
  | env, seen, some line :: rest =>
    match assignment? line with
    | none => env
    | some none => loadLines env seen rest
    | some (some (key, text)) =>
      let value := if text.head? == some '#' then some [] else Reader.run (lookup env seen) {} text
      match value with
      | none => env
      | some cs =>
        let value := String.ofList cs
        loadLines (if (env.text? key).isSome then env else env.set key value) ((key, value) :: seen) rest

/-- Sets what a file says and the environment does not. -/
def load (env : Environment) (file : String) : Environment :=
  let cs := file.toList
  loadLines env [] (lines (if cs.head? == some '\ufeff' then cs.drop 1 else cs))

end QuotaGate.Dotenv
