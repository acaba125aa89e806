/-
A client's session with a sorted-set server.

One connection is cached.  It is opened when a call needs one and none is there, before
anything else is done, and it is dropped after every failed exchange and when a caller
gives up waiting, so that a late reply is never taken for the answer to another call.

* `Session.exchange` — sends commands over the cached connection and reads their
  replies;
* `Link.store` — the counting store over a session.

Design notes: a session remembers its exchanges, each with its connection and its end,
which is what a server could tell about the client.  The server itself is a list of
turns, one for each call; after the last it refuses every connection.  What its replies
are worth is for the decoding to tell.
-/
import QuotaGate.Redis.Decoding

namespace QuotaGate.Redis

/-- How an exchange ended. -/
inductive Finish
  | succeeded
  | failed
  | abandoned
  deriving DecidableEq, Repr

/-- Commands sent over one connection in one call. -/
structure Exchange where
  connection : Nat
  /-- The commands that reached the server. -/
  commands : List Command
  finish : Finish
  deriving DecidableEq, Repr

/-- The client's side of its connections, which are numbered from 1 in the order of
their opening. -/
structure Session where
  cached : Option Nat
  opened : Nat
  /-- All exchanges, latest last. -/
  exchanges : List Exchange
  deriving DecidableEq, Repr

namespace Session

/-- A session that has not needed a connection yet. -/
def fresh : Session :=
  { cached := none, opened := 0, exchanges := [] }

/-- The session as an operator sees it. -/
def summary (s : Session) : String :=
  "RedisCountingStore \x7b connected: " ++ (if s.cached.isSome then "true" else "false") ++ " \x7d"

/-- Gets the cached connection, or opens one if the server accepts it. -/
def connect (s : Session) (t : Turn) : Option (Nat × Session) :=
  match s.cached with
  | some c => some (c, s)
  | none =>
    if t.welcome = .accepted then
      some (s.opened + 1, { s with cached := some (s.opened + 1), opened := s.opened + 1 })
    else none

/-- Drops the cached connection. -/
def drop (s : Session) : Session :=
  { s with cached := none }

/-- Adds an exchange over connection `c` of which the server got `commands`. -/
def add (s : Session) (c : Nat) (commands : List Command) (finish : Finish) : Session :=
  { s with exchanges := s.exchanges ++ [{ connection := c, commands, finish }] }

/-- Sends commands over connection `c`, which is cached, and reads one reply for each;
`value?` tells what the replies are worth, if they are a success. -/
def exchange {α : Type} (s : Session) (c : Nat) (t : Turn) (commands : List Command)
    (value? : List Reply → Option α) : Call Session α :=
  let arrived := match t.ending with
    | .closed seen => commands.take seen
    | _ => commands
  let failed (detail : String) : Answer Session α :=
    { delay := t.delay
      result := .error (.store (.redis detail))
      state := (s.add c arrived .failed).drop }
  { abandoned := s.add c arrived .abandoned
    answer :=
      -- Replies beyond the last command's are not looked at.
      if commands.length ≤ t.replies.length then
        match value? (t.replies.take commands.length) with
        | some a =>
          some { delay := t.delay, result := .ok a, state := s.add c arrived .succeeded }
        | none => some (failed "unexpected reply")
      else match t.ending with
        | .silence => none
        | .closed _ => some (failed "connection closed")
        | .garbled => some (failed "reply not understood") }

/-- A call for which no connection can be had.  It fails, unless the server is not even
heard to refuse one. -/
def unconnected {α : Type} (s : Session) (t : Turn) : Call Session α :=
  if t.welcome = .ignored then { abandoned := s, answer := none }
  else .now s (.error (.store (.redis "Connection refused (os error 111)"))) s

/-- Records a hit. -/
def hit [Decoding] (s : Session) (t : Turn) (h : Hit) : Call Session Nat :=
  match s.connect t with
  | none => s.unconnected t
  | some (c, s) =>
    -- The connection is had by now, and stays cached whatever becomes of the start.
    match Clock.before h.now h.span with
    | .error o => .now s (.error (.clock o)) s
    | .ok start =>
      s.exchange c t (Command.transaction h start) (Decoding.count? (Command.queue h start))

/-- Asks for a sign of life. -/
def ping [Decoding] (s : Session) (t : Turn) : Call Session Unit :=
  match s.connect t with
  | none => s.unconnected t
  | some (c, s) => s.exchange c t [.ping] Decoding.alive?

end Session

/-- A session and the server it is held with. -/
structure Link where
  session : Session
  server : List Turn

namespace Link

/-- The server's next turn. -/
def turn (l : Link) : Turn :=
  l.server.headD .refusing

/-- Lets the server take its next turn in a call. -/
def play {α : Type} (l : Link) (call : Session → Turn → Call Session α) : Call Link α :=
  (call l.session l.turn).mapState (⟨·, l.server.tail⟩)

/-- The counting store over a session. -/
def store [Decoding] : CountingStore Link where
  hit l h := l.play fun s t => s.hit t h
  ping l := l.play Session.ping
  onTimeout l := { l with session := l.session.drop }

end Link

end QuotaGate.Redis
