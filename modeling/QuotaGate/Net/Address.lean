/-
Internet addresses and their texts.

* `Ip.text` — the one canonical text of an address: four decimal octets; or eight
  hexadecimal groups without leading zeros, the first of the longest runs of at least
  two zero groups written as `::`.  An address that only wraps a four-octet one shows it
  in the old form behind `::ffff:`;
* `V4.ofText?`, `V6.ofText?`, `SocketAddress.ofText?` — reading addresses.
-/
import QuotaGate.Text.Numeral
import QuotaGate.Text.Split

namespace QuotaGate

/-- An address of four octets. -/
structure V4 where
  octets : List Nat
  length_octets : octets.length = 4
  octet_lt : ∀ o ∈ octets, o < 256
  deriving DecidableEq

/-- An address of eight groups of 16 bits. -/
structure V6 where
  groups : List Nat
  length_groups : groups.length = 8
  group_lt : ∀ g ∈ groups, g < 65536
  deriving DecidableEq

inductive Ip
  | v4 (a : V4)
  | v6 (a : V6)
  deriving DecidableEq

/-- An end point: an address, a port, and for the long addresses a flow label and a
scope. -/
inductive SocketAddress
  | v4 (ip : V4) (port : Nat)
  | v6 (ip : V6) (port flow scope : Nat)
  deriving DecidableEq

/-- The address of an end point. -/
def SocketAddress.ip : SocketAddress → Ip
  | .v4 a _ => .v4 a
  | .v6 a _ _ _ => .v6 a

/-! ### Writing -/

namespace V4

/-- Decimal octets between points. -/
def write (octets : List Nat) : List Char :=
  Text.joinWith ['.'] (octets.map (Nat.toDigits 10))

def text (a : V4) : String :=
  String.ofList (write a.octets)

end V4

namespace V6

/-- Hexadecimal groups between colons. -/
def writeGroups (groups : List Nat) : List Char :=
  Text.joinWith [':'] (groups.map (Nat.toDigits 16))

/-- The number of zero groups from place `i` on. -/
def zerosAt (groups : List Nat) (i : Nat) : Nat :=
  ((groups.drop i).takeWhile (· = 0)).length

/-- Place and length of the first of the longest runs of zero groups. -/
def longestZeros (groups : List Nat) : Nat × Nat :=
  (List.range groups.length).foldl
    (fun best i => if best.2 < zerosAt groups i then (i, zerosAt groups i) else best) (0, 0)

/-- The octets of the four-octet address that the groups wrap. -/
def wrapped? : List Nat → Option (List Nat)
  | [0, 0, 0, 0, 0, 0xffff, g, h] => some [g / 256, g % 256, h / 256, h % 256]
  | _ => none

def write (groups : List Nat) : List Char :=
  match wrapped? groups with
  | some octets => "::ffff:".toList ++ V4.write octets
  | none =>
    let (start, len) := longestZeros groups
    if 1 < len then
      writeGroups (groups.take start) ++ [':', ':'] ++ writeGroups (groups.drop (start + len))
    else writeGroups groups

def text (a : V6) : String :=
  String.ofList (write a.groups)

end V6

/-- The canonical text of an address. -/
def Ip.text : Ip → String
  | .v4 a => a.text
  | .v6 a => a.text

/-! ### Reading -/

namespace V4

/-- Reads an octet: up to three digits, none of them a needless zero in front. -/
def octet? (cs : List Char) : Option Nat :=
  if 3 < cs.length || (1 < cs.length && cs.head? == some '0') || cs.head? == some '+' then none
  else (Numeral.natUpTo 255 cs).toOption

/-- The octets of a text of four. -/
def octets? (cs : List Char) : Option (List Nat) :=
  (Text.splitAll '.' cs).mapM octet?

/-- The address of the octets, if they are four and in range. -/
def ofOctets? (octets : List Nat) : Option V4 :=
  if h : octets.length = 4 ∧ ∀ o ∈ octets, o < 256 then some ⟨octets, h.1, h.2⟩ else none

def ofText? (cs : List Char) : Option V4 :=
  (octets? cs).bind ofOctets?

end V4

namespace V6

/-- Reads a group: one to four hexadecimal digits. -/
def group? (cs : List Char) : Option Nat :=
  if cs.isEmpty || 4 < cs.length then none
  else (cs.mapM Numeral.hexDigit?).map (·.foldl (16 * · + ·) 0)

/-- Reads groups between colons; the last may be a four-octet address, which is worth
two groups. -/
def pieces? : List (List Char) → Option (List Nat)
  | [] => some []
  | [last] =>
    if '.' ∈ last then
      match V4.octets? last with
      | some [a, b, c, d] => some [256 * a + b, 256 * c + d]
      | _ => none
    else (group? last).map ([·])
  | piece :: rest => do return (← group? piece) :: (← pieces? rest)

/-- The groups of a text without `::`. -/
def groups? (cs : List Char) : Option (List Nat) :=
  if cs.isEmpty then some [] else pieces? (Text.splitAll ':' cs)

/-- The parts before and after the first `::`. -/
def splitGap? : List Char → Option (List Char × List Char)
  | ':' :: ':' :: rest => some ([], rest)
  | c :: rest => (splitGap? rest).map fun p => (c :: p.1, p.2)
  | [] => none

/-- The address of the groups, if they are eight and in range. -/
def ofGroups? (groups : List Nat) : Option V6 :=
  if h : groups.length = 8 ∧ ∀ g ∈ groups, g < 65536 then some ⟨groups, h.1, h.2⟩ else none

def ofText? (cs : List Char) : Option V6 :=
  match splitGap? cs with
  | none => if cs.isEmpty then none else (groups? cs).bind ofGroups?
  | some (head, tail) => do
    if '.' ∈ head then none
    let front ← groups? head
    let back ← groups? tail
    -- The gap stands for at least one group.
    if 7 < front.length + back.length then none
    ofGroups? (front ++ List.replicate (8 - front.length - back.length) 0 ++ back)

end V6

namespace SocketAddress

/-- Reads the digits of a port or a scope. -/
def number? (bound : Nat) (cs : List Char) : Option Nat :=
  if cs.head? == some '+' then none else (Numeral.natUpTo bound cs).toOption

/-- Reads an end point: `a.b.c.d:port`, or `[groups]:port`, the groups followed by
`%scope` if there is one. -/
def ofText? (s : String) : Option SocketAddress := do
  let (host, digits) ← Text.splitLast? ':' s.toList
  let port ← number? 65535 digits
  match host with
  | '[' :: inner =>
    -- The last bracket closes the address; what stands before it may hold a scope.
    let (body, last) := (inner.dropLast, inner.getLast?)
    if last != some ']' then none
    match Text.splitLast? '%' body with
    | none => return .v6 (← V6.ofText? body) port 0 0
    | some (groups, scope) =>
      return .v6 (← V6.ofText? groups) port 0 (← number? 0xffffffff scope)
  | _ => return .v4 (← V4.ofText? host) port

end SocketAddress

end QuotaGate
