/-
Random identifiers as text (RFC 9562, version 4).

`Uuid.ofBits` writes 128 bits as 32 hexadecimal digits in five groups.  Six of the bits
are fixed: the 13th digit is the version, and the 17th is one of the four that name the
variant.
-/
namespace QuotaGate.Uuid

/-- The `i`-th of the 32 digits, the most significant first. -/
def digit (bits i : Nat) : Char :=
  let d := bits >>> (4 * (31 - i)) % 16
  Nat.digitChar (if i = 12 then 4 else if i = 16 then 8 + d % 4 else d)

/-- `count` digits from place `start` on. -/
def group (bits start count : Nat) : String :=
  String.ofList ((List.range' start count).map (digit bits))

/-- The identifier made of 128 bits. -/
def ofBits (bits : Nat) : String :=
  group bits 0 8 ++ "-" ++ group bits 8 4 ++ "-" ++ group bits 12 4 ++ "-" ++ group bits 16 4 ++ "-"
    ++ group bits 20 12

end QuotaGate.Uuid
