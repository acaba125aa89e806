/-
A server of sorted sets, as far as counting needs it.

A set maps members to scores and may have a deadline; from its deadline on it is gone,
and a set without members does not exist.  `Server.run` executes one command at a second
of the server's clock, `Server.transact` the steps of a transaction, of which nothing
else can happen in between.
-/
import QuotaGate.Redis.Command
import QuotaGate.Redis.Reply
import QuotaGate.Store.Table

namespace QuotaGate.Redis

/-- A sorted set: the score of each member, and the second from which on the set is
gone. -/
structure SortedSet where
  scores : Table String Int
  deadline : Option Int

namespace SortedSet

/-- A set that is just being made. -/
def fresh : SortedSet :=
  { scores := .empty, deadline := none }

/-- Whether the set is there at second `t`. -/
def isAlive (s : SortedSet) (t : Int) : Bool :=
  match s.deadline with
  | none => true
  | some d => t < d

end SortedSet

/-- The sets of a server, by key. -/
abbrev Server := Table String SortedSet

namespace Server

/-- The set of a key at second `t`. -/
def set? (s : Server) (t : Int) (key : String) : Option SortedSet :=
  (s.get? key).filter (·.isAlive t)

/-- Removes a key. -/
def erase (s : Server) (key : String) : Server :=
  ⟨s.rows.filter fun r => r.1 ≠ key, s.nodup.sublist (List.filter_sublist.map _)⟩

/-- Stores the set of a key; one without members is removed. -/
def put (s : Server) (key : String) (set : SortedSet) : Server :=
  if set.scores.size = 0 then s.erase key else s.insert key set

/-- Executes a command at second `t`. -/
def run (s : Server) (t : Int) : Command → Server × Reply
  | .ping => (s, .simple "PONG")
  | .multi => (s, .simple "OK")
  | .exec => (s, .error "ERR EXEC without MULTI")
  | .removeScores key low high =>
    match s.set? t key with
    -- What is past its deadline is forgotten on the way.
    | none => (s.erase key, .integer 0)
    | some set =>
      let kept := set.scores.filter fun score => !(decide (low ≤ score) && decide (score ≤ high))
      (s.put key { set with scores := kept }, .integer (set.scores.size - kept.size))
  | .add key score member =>
    let set := (s.set? t key).getD .fresh
    let isNew := (set.scores.get? member).isNone
    (s.put key { set with scores := set.scores.insert member score },
      .integer (if isNew then 1 else 0))
  | .size key =>
    (s, .integer (match s.set? t key with
      | none => 0
      | some set => set.scores.size))
  | .expire key span =>
    match s.set? t key with
    | none => (s, .integer 0)
    | some set =>
      -- A deadline that is not ahead is already over.
      if span ≤ 0 then (s.erase key, .integer 1)
      else (s.insert key { set with deadline := some (t + span) }, .integer 1)

/-- Executes the steps of a transaction at second `t`. -/
def transact (s : Server) (t : Int) : List Command → Server × List Reply
  | [] => (s, [])
  | c :: rest =>
    let (s, r) := s.run t c
    let (s, rs) := s.transact t rest
    (s, r :: rs)

/-- Removes the sets that are gone at second `t`. -/
def purge (s : Server) (t : Int) : Server :=
  s.filter (·.isAlive t)

end Server

end QuotaGate.Redis
