/-
Clients and the keys that their requests are counted under.

A client is a user, if one is known, and an address otherwise.  Its key carries the kind
beside the value, so that a user and an address of the same text are counted apart.
-/
namespace QuotaGate

/-- Whom a request is charged to. -/
inductive Client
  | user (id : String)
  | address (value : String)
  deriving DecidableEq, Repr

namespace Client

/-- The user, if there is one; else the address, which is only then asked for. -/
def resolve (user : Option String) (address : Unit → String) : Client :=
  match user with
  | some id => .user id
  | none => .address (address ())

/-- The word for the kind of client. -/
def kind : Client → String
  | .user _ => "user"
  | .address _ => "ip"

/-- The user's id or the address. -/
def value : Client → String
  | .user id => id
  | .address a => a

/-- The key of a client within the name space `space`. -/
def key (space : String) (c : Client) : String :=
  space ++ c.kind ++ ":" ++ c.value

end Client

end QuotaGate
