/-
Replies of a sorted-set server, and what a server does in one call of its client.
-/
import QuotaGate.Duration

namespace QuotaGate.Redis

/-- A reply. -/
inductive Reply
  | simple (text : String)
  | error (text : String)
  | integer (n : Int)
  | bulk (bytes : List UInt8)
  | nil
  | array (items : List Reply)

namespace Reply

def isError : Reply → Bool
  | .error _ => true
  | _ => false

end Reply

/-- What follows the replies that a client hears. -/
inductive Ending
  /-- Nothing more. -/
  | silence
  /-- The server closes the connection when it gets the `seen`-th command. -/
  | closed (seen : Nat)
  /-- Bytes that are no reply. -/
  | garbled
  deriving DecidableEq, Repr

/-- How a server meets a client that wants a connection. -/
inductive Welcome
  | accepted
  | refused
  /-- The client hears nothing. -/
  | ignored
  deriving DecidableEq, Repr

/-- What a server does during one call of its client. -/
structure Turn where
  welcome : Welcome
  /-- How long it takes over its replies. -/
  delay : Duration
  replies : List Reply
  ending : Ending

namespace Turn

/-- A server that accepts no connection. -/
def refusing : Turn :=
  { welcome := .refused, delay := .zero, replies := [], ending := .silence }

end Turn

end QuotaGate.Redis
