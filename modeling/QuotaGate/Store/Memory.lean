/-
The counting store held in the process.

Every key has a window set: its members with their scores, oldest write first, and the
second at which the whole set expires.

* `WindowSet.enter` — what a hit does to the members of a set;
* `Windows.hit` — the whole hit, with its two checked steps of the clock;
* `Windows.purge` — drops the sets that have expired.

Design notes: expiry is lazy.  A set that has expired stays until the next hit on its
key empties it or a purge drops it; `count` sees through it, `size` does not.  If the
step forward leaves the clock's range, the members are already written, and only the
expiry stays as it was.
-/
import QuotaGate.Store.Basic
import QuotaGate.Store.Table

namespace QuotaGate

/-- A member of a set, scored with the second of its hit. -/
structure Entry where
  score : Int
  member : String
  deriving DecidableEq, Repr

/-- The members of one key. -/
structure WindowSet where
  entries : List Entry
  /-- The second at which the whole set expires. -/
  expiresAt : Int
  deriving DecidableEq, Repr

namespace WindowSet

/-- The set of a key that was never hit. -/
def fresh : WindowSet := ⟨[], 0⟩

def isExpired (s : WindowSet) (now : Int) : Bool :=
  s.expiresAt ≤ now

/-- The members as of `now`: none once the set has expired. -/
def live (s : WindowSet) (now : Int) : List Entry :=
  if s.isExpired now then [] else s.entries

/-- Enters `member` at `now`: of the members as of `now`, those scored after `start`
stay, an earlier entry of `member` itself goes, and the new entry comes last.  The
expiry is left alone. -/
def enter (s : WindowSet) (start now : Int) (member : String) : WindowSet :=
  { s with
    entries :=
      ((s.live now).filter fun e => decide (start < e.score) && decide (e.member ≠ member))
        ++ [⟨now, member⟩] }

end WindowSet

/-- The window sets of all keys. -/
abbrev Windows := Table String WindowSet

namespace Windows

/-- The set of a key, fresh if there is none. -/
def set (w : Windows) (key : String) : WindowSet :=
  (w.get? key).getD .fresh

/-- Records a hit; answers the size of the set after it. -/
def hit (w : Windows) (h : Hit) : Windows × Except Clock.Overflow Nat :=
  match Clock.before h.now h.span with
  | .error o => (w, .error o)
  | .ok start =>
    let set := (w.set h.key).enter start h.now h.member
    -- From here on the members are written, also if the end is a fault.
    match Clock.after h.now h.span with
    | .error o => (w.insert h.key set, .error o)
    | .ok expiry => (w.insert h.key { set with expiresAt := expiry }, .ok set.entries.length)

/-- Drops the sets that have expired by `now`; answers how many. -/
def purge (w : Windows) (now : Int) : Windows × Nat :=
  let kept := w.filter fun s => !s.isExpired now
  (kept, w.size - kept.size)

/-- The number of members of a key as of `now`. -/
def count (w : Windows) (key : String) (now : Int) : Nat :=
  match w.get? key with
  | none => 0
  | some s => (s.live now).length

/-- The counting store over window sets: it answers at once, and never fails. -/
def store : CountingStore Windows where
  hit w h :=
    let r := w.hit h
    .now w (r.2.mapError .clock) r.1
  ping w := .now w (.ok ()) w

end Windows

end QuotaGate
