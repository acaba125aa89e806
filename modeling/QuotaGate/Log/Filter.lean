/-
Log filters.

A filter is a list of directives between commas.  A directive names a source, a level,
or both as `source=level`; a source covers every source that begins with it, and of the
directives that cover an event the one with the longest source decides.  A directive may
also ask for a span, `source[span]=level`, or for a field,
`source[\x7bfield=value\x7d]=level`: with a span or a value it says nothing about events
outside of spans, with a field alone it covers the events that have the field.

* `Filter.ofText?` — reads a filter;
* `Filter.passes` — whether an event is logged.

Design notes: a directive is read without the blanks around it, but its parts are cut
out of the text with them, at the distance from its beginning at which they were read,
the last one up to its end.  So a level with a blank after it is a source, and a blank
before a source moves it.
-/
import QuotaGate.Log
import QuotaGate.Log.Pattern
import QuotaGate.Text.Encoding
import QuotaGate.Text.Split

namespace QuotaGate.Log

/-- A field that a directive asks for. -/
structure FieldTest where
  name : String
  /-- Whether a value is asked for too. -/
  valued : Bool
  deriving DecidableEq, Repr

/-- What is logged of the events that a directive covers: the gravest `depth` levels. -/
structure Directive where
  source : Option String
  span : Option String
  field : Option FieldTest
  depth : Nat
  deriving DecidableEq, Repr

/-- A filter. -/
abbrev Filter := List Directive

/-- The number of levels that a word lets through; a numeral says it itself. -/
def depthOf? (word : String) : Option Nat :=
  match Numeral.natUpTo 5 word.toList with
  | .ok n => some n
  | .error _ =>
    ["off", "error", "warn", "info", "debug", "trace"].findIdx?
      (· = String.ofList (word.toList.map Char.toLower))

namespace Directive

/-- A text as it is written, and its size in bytes without the blanks around it. -/
structure Written where
  bytes : List UInt8
  size : Nat

namespace Written

def ofChars (cs : List Char) : Written :=
  { bytes := Text.toUtf8 (String.ofList cs)
    size := (String.ofList (Text.dropBlankEnd (Text.dropBlank cs))).utf8ByteSize }

/-- The place at which `rest` is still to be read. -/
def placeOf (w : Written) (rest : List Char) : Nat :=
  w.size - (String.ofList rest).utf8ByteSize

/-- The part that begins where `start` is still to be read and ends where `stop` is. -/
def part (w : Written) (start stop : List Char) : String :=
  Text.ofUtf8Lossy ((w.bytes.take (w.placeOf stop)).drop (w.placeOf start))

/-- The part that begins where `start` is still to be read. -/
def tail (w : Written) (start : List Char) : String :=
  Text.ofUtf8Lossy (w.bytes.drop (w.placeOf start))

end Written

/-- A directive of one word: a level, or a source of which everything is logged. -/
def ofWord (word : String) : Directive :=
  match depthOf? word with
  | some depth => { source := none, span := none, field := none, depth }
  | none => { source := some word, span := none, field := none, depth := 5 }

/-- Reads what follows the part before the level: nothing, or an equals sign and a
level, which may be left out. -/
def level? (w : Written) : List Char → Option Nat
  | [] => some 5
  | '=' :: rest =>
    let word := w.tail rest
    if word.isEmpty then some 5 else depthOf? word
  | _ => none

/-- Reads the field asked for, with a value perhaps after an equals sign. -/
def field? (text : String) : Option FieldTest :=
  match Text.splitAll '=' text.toList with
  | [] => none
  | [name] => if name.isEmpty then none else some { name := String.ofList name, valued := false }
  | name :: value :: _ =>
    if Pattern.isValue value then some { name := String.ofList name, valued := true } else none

/-- Whether a directive may begin with the character. -/
def mayBegin (c : Char) : Bool :=
  c = '[' || c = '-' || c = ':' || c = '_' || Text.isAlphanumeric c

/-- Reads what stands in brackets and the level after them. -/
def inBrackets? (w : Written) (source : Option String) (cs : List Char) : Option Directive := do
  let isEnd (c : Char) : Bool := c = ']' || c = '\x7b'
  let stop := cs.dropWhile fun c => !isEnd c
  let span := w.part cs stop
  match stop with
  | ']' :: after => return { source, span := some span, field := none, depth := ← level? w after }
  | _ :: inner =>
    -- Up to the brace stands a span, within the braces a field.
    let stop := inner.dropWhile (· ≠ '\x7d')
    let field ← field? (w.part inner stop)
    match stop with
    | _ :: ']' :: after =>
      return { source, span := if span.isEmpty then none else some span, field := some field, depth := ← level? w after }
    | _ => none
  | [] => none

/-- Reads a directive. -/
def ofText? (cs : List Char) : Option Directive := do
  let w := Written.ofChars cs
  let whole := Text.dropBlankEnd (Text.dropBlank cs)
  if !(whole.head?.map mayBegin).getD false then none
  -- A source ends before a level or before brackets, whichever come first.
  let stop := whole.dropWhile fun c => c ≠ '=' && c ≠ '['
  match whole, stop with
  | '[' :: rest, _ => inBrackets? w none rest
  | _, [] => return ofWord (w.tail whole)
  | _, '[' :: rest => inBrackets? w (some (w.part whole stop)) rest
  | _, _ => return { source := some (w.part whole stop), span := none, field := none, depth := ← level? w stop }

/-- Whether a directive says anything about events outside of spans. -/
def isStatic (d : Directive) : Bool :=
  d.span.isNone && !(d.field.map (·.valued)).getD false

/-- Whether a directive covers an event. -/
def covers (d : Directive) (e : Event) : Bool :=
  (match d.source with
    | none => true
    | some s => s.toList.isPrefixOf e.source.toList)
  && (match d.field with
    | none => true
    | some f => e.fieldNames.contains f.name)

/-- The size of the source, one more than that in bytes, if there is one. -/
def reach (d : Directive) : Nat :=
  match d.source with
  | none => 0
  | some s => s.utf8ByteSize + 1

/-- Whether `d` fits what it covers at least as closely as `b`: it has the longer
source, or with sources of one length the field, or the later of two fields in
alphabetical order. -/
def atLeast (d b : Directive) : Bool :=
  b.reach < d.reach || (b.reach = d.reach
    && match b.field, d.field with
      | none, _ => true
      | some _, none => false
      | some f, some g => f.name ≤ g.name)

end Directive

namespace Filter

/-- The filter that lets nothing through. -/
def off : Filter :=
  [{ source := none, span := none, field := none, depth := 0 }]

/-- Reads a filter.  With no directive at all, nothing is logged. -/
def ofText? (s : String) : Option Filter :=
  let parts := (Text.splitAll ',' s.toList).filter fun d => !d.isEmpty
  if parts.isEmpty then some off else parts.mapM Directive.ofText?

/-- The directive that decides on an event: the closest, and of equally close ones the
last. -/
def deciding? (f : Filter) (e : Event) : Option Directive :=
  (f.filter fun d => d.isStatic && d.covers e).foldl
    (fun best d => match best with
      | none => some d
      | some b => if d.atLeast b then some d else some b)
    none

/-- Whether an event is logged. -/
def passes (f : Filter) (e : Event) : Bool :=
  match f.deciding? e with
  | none => false
  | some d => e.level.rank ≤ d.depth

end Filter

end QuotaGate.Log
