/-
Commands to a sorted-set server, and the transaction that records a hit.
-/
import QuotaGate.Store.Basic

namespace QuotaGate.Redis

/-- A command. -/
inductive Command
  | ping
  | multi
  | exec
  /-- Removes the members of a set scored from `low` to `high`, both included. -/
  | removeScores (key : String) (low high : Int)
  | add (key : String) (score : Int) (member : String)
  | size (key : String)
  /-- Lets a set expire `span` seconds from now. -/
  | expire (key : String) (span : Int)
  deriving DecidableEq, Repr

namespace Command

/-- A command as the server gets it. -/
def arguments : Command → List String
  | .ping => ["PING"]
  | .multi => ["MULTI"]
  | .exec => ["EXEC"]
  | .removeScores key low high =>
    ["ZREMRANGEBYSCORE", key, Numeral.ofInt low, Numeral.ofInt high]
  | .add key score member => ["ZADD", key, Numeral.ofInt score, member]
  | .size key => ["ZCARD", key]
  | .expire key span => ["EXPIRE", key, Numeral.ofInt span]

end Command

/-- A command of a transaction, and whether its result is ignored. -/
structure Queued where
  command : Command
  ignored : Bool
  deriving DecidableEq, Repr

namespace Queued

def ignore (c : Command) : Queued :=
  { command := c, ignored := true }

def keep (c : Command) : Queued :=
  { command := c, ignored := false }

end Queued

namespace Command

/-- What is queued for a hit whose window starts after `start`.  Of the results only the
size of the set is asked for. -/
def queue (h : Hit) (start : Int) : List Queued :=
  [.ignore (.removeScores h.key 0 start), .ignore (.add h.key h.now h.member), .keep (.size h.key),
    .ignore (.expire h.key h.span)]

/-- The four steps of a hit. -/
def steps (h : Hit) (start : Int) : List Command :=
  (queue h start).map Queued.command

theorem steps_eq (h : Hit) (start : Int) :
    steps h start = [.removeScores h.key 0 start, .add h.key h.now h.member, .size h.key, .expire h.key h.span] := rfl

/-- The transaction that records a hit. -/
def transaction (h : Hit) (start : Int) : List Command :=
  [.multi] ++ steps h start ++ [.exec]

end Command

end QuotaGate.Redis
