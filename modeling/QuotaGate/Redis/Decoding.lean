/-
What a client makes of replies.

A client gets replies as they come, and its library tells what they are worth: whether a
transaction succeeded, what its commands gave, which of the results are asked for, and
which number or text a result is.  `Decoding` stands for the library, of which nothing is
assumed here; the rest is what a session asks of it.

* `Decoding.count?` — the count that the replies to a transaction give;
* `Decoding.alive?` — whether the replies to a ping are a sign of life;
* `Decoding.plain` — the decoding that the program and its examples run with.
-/
import QuotaGate.Redis.Command
import QuotaGate.Redis.Reply
import QuotaGate.Text.Encoding

namespace QuotaGate.Redis

/-- How a client's library reads replies. -/
class Decoding where
  /-- The last of the replies to a transaction, if the transaction was executed. -/
  executed? : List Reply → Option Reply
  /-- The results in the last reply to a transaction, less those that are ignored. -/
  results? : (ignored : List Bool) → Reply → Option (List Reply)
  /-- The number of 64 bits without sign that is all the results. -/
  number? : List Reply → Option Nat
  text? : Reply → Option String

namespace Decoding

section

variable [Decoding]

/-- The count that the replies to a transaction of queued commands give. -/
def count? (queue : List Queued) (replies : List Reply) : Option Nat := do
  let last ← executed? replies
  let results ← results? (queue.map Queued.ignored) last
  number? results

/-- Whether the replies to a ping, of which there is one, are a sign of life. -/
def alive? (replies : List Reply) : Option Unit :=
  match replies with
  | [r] => (text? r).map fun _ => ()
  | _ => none

end

/-- The items that are not marked as ignored. -/
def kept (ignored : List Bool) (items : List Reply) : List Reply :=
  ((ignored.zip items).filter fun p => !p.1).map Prod.snd

/-- The number that a reply is, or is a numeral of. -/
def unsigned? : Reply → Option Nat
  | .integer n => some (n % 0x10000000000000000).toNat
  | .simple text => (Numeral.natUpTo 0xffffffffffffffff text.toList).toOption
  | .bulk bytes =>
    (Text.ofUtf8? bytes).bind fun text => (Numeral.natUpTo 0xffffffffffffffff text.toList).toOption
  | _ => none

/-- The decoding by which a transaction was executed if no reply to it is an error, and
gives one result, no error, for each of its commands. -/
instance (priority := low) plain : Decoding where
  executed? replies := if replies.any Reply.isError then none else replies.getLast?
  results? ignored r :=
    match r with
    | .array items =>
      if items.length = ignored.length ∧ ¬items.any Reply.isError then some (kept ignored items) else none
    | _ => none
  number? results :=
    match results with
    | [r] => unsigned? r
    | _ => none
  text? r :=
    match r with
    | .simple text => some text
    | .bulk bytes => Text.ofUtf8? bytes
    | _ => none

end Decoding

end QuotaGate.Redis
