/-
The connections of a session, over any run of calls.

A call gets the cached connection, or opens one if there is none; then it faults, or it is
one exchange over this connection (`Attempt`).  An exchange that fails drops the
connection, and so does a caller who gives up.  Hence a connection carries exchanges that
succeeded, and after them at most one that did not, its last: nothing that comes late can
be taken for the answer to another call.

* `Session.Sound` — the cached connection has carried successes only, and any other is
  never used again;
* `Link.Reached` — the states of a link in the course of calls, one at a time;
* `Link.Disciplined` — what a call does to the connections, and what they have carried;
* `Link.Reached.disciplined` — every state that is reached is so.

Design notes: what the server does is a list of turns of any kind, and what its replies are
worth is left to the decoding; what follows goes for all of either.  A call that is never
answered has no state after it; its caller waits for ever, or for a bound, and then tells
the store that time ran out.
-/
import QuotaGate.Proofs.Enforcer.Run
import QuotaGate.Redis.Session

namespace QuotaGate.Redis

namespace Session

/-- Connections opened once a call that needs one has been made. -/
def openedBy (s : Session) (t : Turn) : Nat :=
  s.opened + if s.cached = none ∧ t.welcome = .accepted then 1 else 0

theorem connect_eq_none {s : Session} {t : Turn} :
    s.connect t = none ↔ s.cached = none ∧ t.welcome ≠ .accepted := by
  rw [connect]
  cases s.cached with
  | some c => simp
  | none => simp

/-- What is got is cached, and has a number of its own if it is new. -/
theorem connect_eq_some {s s' : Session} {t : Turn} {c : Nat} (h : s.connect t = some (c, s')) :
    s'.cached = some c ∧ s'.exchanges = s.exchanges ∧ s'.opened = s.openedBy t
      ∧ (s' = s ∨ s.opened < c ∧ c = s'.opened) := by
  rw [connect] at h
  cases hc : s.cached with
  | some d =>
    rw [hc] at h
    obtain ⟨rfl, rfl⟩ := Prod.mk.inj (Option.some.inj h)
    exact ⟨hc, rfl, by simp [openedBy, hc], .inl rfl⟩
  | none =>
    rw [hc] at h
    dsimp only at h
    split at h
    · rename_i ha
      obtain ⟨rfl, rfl⟩ := Prod.mk.inj (Option.some.inj h)
      exact ⟨rfl, rfl, by simp [openedBy, hc, ha], .inr ⟨Nat.lt_succ_self _, rfl⟩⟩
    · cases h

/-! ### What a call may come to -/

/-- The three ways of a call on a session: no connection can be had; one is had, and then
the clock faults the call; one is had, and then there is one exchange over it. -/
inductive Attempt {α : Type} (s : Session) (t : Turn) : Call Session α → Prop
  | unconnected (h : s.connect t = none) : Attempt s t (s.unconnected t)
  | faulted {c : Nat} {s' : Session} (h : s.connect t = some (c, s')) (o : Clock.Overflow) :
      Attempt s t (.now s' (.error (.clock o)) s')
  | exchanged {c : Nat} {s' : Session} (h : s.connect t = some (c, s')) (commands : List Command)
      (value? : List Reply → Option α) : Attempt s t (s'.exchange c t commands value?)

theorem hit_attempt [Decoding] (s : Session) (t : Turn) (h : Hit) : Attempt s t (s.hit t h) := by
  rw [hit]
  cases hc : s.connect t with
  | none => exact .unconnected hc
  | some r =>
    obtain ⟨c, s'⟩ := r
    dsimp only
    cases Clock.before h.now h.span with
    | error o => exact .faulted hc o
    | ok start => exact .exchanged hc _ _

theorem ping_attempt [Decoding] (s : Session) (t : Turn) : Attempt s t (s.ping t) := by
  rw [ping]
  cases hc : s.connect t with
  | none => exact .unconnected hc
  | some r => exact .exchanged hc _ _

/-- How an exchange that is answered leaves the session. -/
theorem exchange_answer {α : Type} {s : Session} {c : Nat} {t : Turn} {commands : List Command}
    {value? : List Reply → Option α} {a : Answer Session α}
    (h : (s.exchange c t commands value?).answer = some a) :
    ∃ arrived, ((∃ v, a.result = .ok v) ∧ a.state = s.add c arrived .succeeded)
      ∨ (∃ e, a.result = .error (.store e)) ∧ a.state = (s.add c arrived .failed).drop := by
  simp only [exchange] at h
  split at h
  · split at h <;> obtain rfl := Option.some.inj h
    · exact ⟨_, .inl ⟨⟨_, rfl⟩, rfl⟩⟩
    · exact ⟨_, .inr ⟨⟨_, rfl⟩, rfl⟩⟩
  · split at h
    · cases h
    · obtain rfl := Option.some.inj h
      exact ⟨_, .inr ⟨⟨_, rfl⟩, rfl⟩⟩
    · obtain rfl := Option.some.inj h
      exact ⟨_, .inr ⟨⟨_, rfl⟩, rfl⟩⟩

/-- What a call that returned tells of the cached connection: it is there after a success,
and not after a failure.  A fault of the clock comes once the connection is had and before
anything is sent. -/
def Settled {α : Type} (s : Session) (r : Except Fault α) (s' : Session) : Prop :=
  match r with
  | .ok _ => s'.cached.isSome
  | .error (.store _) => s'.cached = none
  | .error (.clock _) => s'.cached.isSome ∧ s'.exchanges = s.exchanges

theorem Settled.cached_eq_none {α : Type} {s s' : Session} {r : Except Fault α} (h : Settled s r s') :
    s'.cached = none ↔ ∃ e, r = .error (.store e) := by
  rcases r with (e | o) | v
  · exact iff_of_true h ⟨e, rfl⟩
  · exact iff_of_false (Option.isSome_iff_ne_none.1 h.1) nofun
  · exact iff_of_false (Option.isSome_iff_ne_none.1 h) nofun

namespace Attempt

variable {α : Type} {s : Session} {t : Turn} {call : Call Session α}

theorem settled (h : Attempt s t call) {a : Answer Session α} (ha : call.answer = some a) :
    Settled s a.result a.state := by
  cases h with
  | unconnected hc =>
    rw [Session.unconnected] at ha
    split at ha
    · cases ha
    · obtain rfl := Option.some.inj ha
      exact (connect_eq_none.1 hc).1
  | faulted hc o =>
    obtain ⟨hcached, hexchanges, -⟩ := connect_eq_some hc
    obtain rfl := Option.some.inj ha
    exact ⟨by rw [hcached]; rfl, hexchanges⟩
  | exchanged hc commands value? =>
    obtain ⟨hcached, -⟩ := connect_eq_some hc
    obtain ⟨arrived, ⟨⟨v, hr⟩, hs⟩ | ⟨⟨e, hr⟩, hs⟩⟩ := exchange_answer ha
    · rw [hr, hs]
      exact Option.isSome_iff_exists.2 ⟨_, hcached⟩
    · rw [hr, hs]
      exact rfl

/-- A connection is opened just if none is cached and the server accepts one, whether the
call is answered or given up. -/
theorem opened (h : Attempt s t call) :
    call.abandoned.opened = s.openedBy t ∧ ∀ a, call.answer = some a → a.state.opened = s.openedBy t := by
  cases h with
  | unconnected hc =>
    obtain ⟨-, hrefused⟩ := connect_eq_none.1 hc
    have hsame : s.openedBy t = s.opened := by simp [openedBy, hrefused]
    rw [Session.unconnected, hsame]
    split
    · exact ⟨rfl, nofun⟩
    · refine ⟨rfl, fun a ha => ?_⟩
      obtain rfl := Option.some.inj ha
      rfl
  | faulted hc o =>
    obtain ⟨-, -, hopened, -⟩ := connect_eq_some hc
    refine ⟨hopened, fun a ha => ?_⟩
    obtain rfl := Option.some.inj ha
    exact hopened
  | exchanged hc commands value? =>
    obtain ⟨-, -, hopened, -⟩ := connect_eq_some hc
    refine ⟨hopened, fun a ha => ?_⟩
    obtain ⟨arrived, ⟨-, hs⟩ | ⟨-, hs⟩⟩ := exchange_answer ha <;> rw [hs] <;> exact hopened

/-- Where no connection can be had, the session stays as it was, and the call fails if it
is answered at all. -/
theorem of_unconnected (h : Attempt s t call) (hc : s.cached = none) (ht : t.welcome ≠ .accepted) :
    call.abandoned = s ∧ (∀ a, call.answer = some a → a.state = s ∧ ∃ e, a.result = .error (.store e))
      ∧ (t.welcome = .refused → call.answer ≠ none) := by
  have hnone : s.connect t = none := connect_eq_none.2 ⟨hc, ht⟩
  cases h with
  | unconnected hc =>
    rw [Session.unconnected]
    split
    · rename_i hi
      exact ⟨rfl, nofun, fun hr => by rw [hi] at hr; cases hr⟩
    · refine ⟨rfl, fun a ha => ?_, fun _ => nofun⟩
      obtain rfl := Option.some.inj ha
      exact ⟨rfl, _, rfl⟩
  | faulted hsome o => rw [hnone] at hsome; cases hsome
  | exchanged hsome commands value? => rw [hnone] at hsome; cases hsome

end Attempt

/-! ### Sound sessions -/

/-- No exchange comes after one over the same connection that did not succeed. -/
def Ordered (exchanges : List Exchange) : Prop :=
  exchanges.Pairwise fun e e' => e.connection = e'.connection → e.finish = .succeeded

/-- Exchanges were made over connections that had been opened, none after one over the
same connection that did not succeed; and all over the cached connection succeeded. -/
structure Sound (s : Session) : Prop where
  ordered : Ordered s.exchanges
  known : ∀ e ∈ s.exchanges, e.connection ≤ s.opened
  cached_le : ∀ c, s.cached = some c → c ≤ s.opened
  intact : ∀ c, s.cached = some c → ∀ e ∈ s.exchanges, e.connection = c → e.finish = .succeeded

namespace Sound

variable {s s' : Session} {t : Turn} {c : Nat}

theorem fresh : Sound Session.fresh :=
  ⟨.nil, nofun, nofun, nofun⟩

theorem drop (h : Sound s) : Sound s.drop :=
  ⟨h.ordered, h.known, nofun, nofun⟩

theorem connect (h : Sound s) (hc : s.connect t = some (c, s')) : Sound s' := by
  obtain ⟨hcached, hexchanges, hopened, rfl | ⟨hnew, hc'⟩⟩ := connect_eq_some hc
  · exact h
  · -- The number of the new connection is beyond those of all exchanges.
    have hlt : ∀ e ∈ s'.exchanges, e.connection < c := fun e he =>
      Nat.lt_of_le_of_lt (h.known e (hexchanges ▸ he)) hnew
    refine ⟨hexchanges ▸ h.ordered, fun e he => ?_, fun d hd => ?_, fun d hd e he hed => ?_⟩
    · exact hc' ▸ Nat.le_of_lt (hlt e he)
    · obtain rfl := Option.some.inj (hcached.symm.trans hd)
      exact Nat.le_of_eq hc'
    · obtain rfl := Option.some.inj (hcached.symm.trans hd)
      exact absurd hed (Nat.ne_of_lt (hlt e he))

/-- One more exchange over the cached connection, however it ends. -/
theorem add (h : Sound s) (hc : s.cached = some c) (arrived : List Command) (f : Finish) :
    Sound (s.add c arrived f).drop ∧ (f = .succeeded → Sound (s.add c arrived f)) := by
  have hordered : Ordered (s.add c arrived f).exchanges := by
    refine List.pairwise_append.2 ⟨h.ordered, List.pairwise_singleton _ _, fun e he e' he' hee => ?_⟩
    obtain rfl := List.mem_singleton.1 he'
    exact h.intact c hc e he hee
  have hknown : ∀ e ∈ (s.add c arrived f).exchanges, e.connection ≤ s.opened := by
    intro e he
    rcases List.mem_append.1 he with he | he
    · exact h.known e he
    · obtain rfl := List.mem_singleton.1 he
      exact h.cached_le c hc
  refine ⟨⟨hordered, hknown, nofun, nofun⟩, fun hf => ⟨hordered, hknown, h.cached_le, fun d hd e he hed => ?_⟩⟩
  rcases List.mem_append.1 he with he | he
  · exact h.intact d hd e he hed
  · obtain rfl := List.mem_singleton.1 he
    exact hf

/-- A call leaves a sound session sound, once it is answered, or given up and the
connection dropped. -/
theorem attempt {α : Type} {call : Call Session α} (h : Sound s) (hcall : Attempt s t call) :
    Sound call.abandoned.drop ∧ ∀ a, call.answer = some a → Sound a.state := by
  cases hcall with
  | unconnected hc =>
    rw [Session.unconnected]
    split
    · exact ⟨h.drop, nofun⟩
    · refine ⟨h.drop, fun a ha => ?_⟩
      obtain rfl := Option.some.inj ha
      exact h
  | faulted hc o =>
    refine ⟨(h.connect hc).drop, fun a ha => ?_⟩
    obtain rfl := Option.some.inj ha
    exact h.connect hc
  | exchanged hc commands value? =>
    have hs := h.connect hc
    have hcached := (connect_eq_some hc).1
    -- The exchange is added even if it is given up, for its commands are on their way.
    refine ⟨(hs.add hcached _ .abandoned).1, fun a ha => ?_⟩
    obtain ⟨arrived, ⟨-, ha⟩ | ⟨-, ha⟩⟩ := exchange_answer ha
    · rw [ha]
      exact (hs.add hcached arrived .succeeded).2 rfl
    · rw [ha]
      exact (hs.add hcached arrived .failed).1

end Sound

/-- Over each connection there are successes, and then at most one exchange that is
none. -/
theorem Ordered.split {exchanges : List Exchange} (h : Ordered exchanges) (c : Nat) :
    ∃ good last, exchanges.filter (fun e => e.connection = c) = good ++ last
      ∧ (∀ e ∈ good, e.finish = .succeeded) ∧ last.length ≤ 1 := by
  have hsame : ∀ e ∈ exchanges.filter (fun e => e.connection = c), e.connection = c :=
    fun e he => of_decide_eq_true (List.mem_filter.1 he).2
  have hover := h.sublist (List.filter_sublist (p := fun e : Exchange => decide (e.connection = c)))
  rcases List.eq_nil_or_concat (exchanges.filter fun e => e.connection = c) with hnil | ⟨good, e, hlast⟩
  · exact ⟨[], [], hnil, nofun, Nat.zero_le _⟩
  · rw [List.concat_eq_append] at hlast
    rw [hlast] at hsame hover
    refine ⟨good, [e], hlast, fun x hx => ?_, Nat.le_refl _⟩
    have hx' := hsame x (List.mem_append_left _ hx)
    have he := hsame e (List.mem_append_right _ (List.mem_singleton_self e))
    exact (List.pairwise_append.1 hover).2.2 x hx e (List.mem_singleton_self e) (hx'.trans he.symm)

end Session

namespace Link

section

variable [Decoding]

/-! ### Calls as the session sees them -/

theorem hit_answer {l : Link} {h : Hit} {a : Answer Link Nat} (ha : (store.hit l h).answer = some a) :
    ∃ b, (l.session.hit l.turn h).answer = some b ∧ a.result = b.result ∧ a.state.session = b.state := by
  obtain ⟨b, hb, rfl⟩ := Call.answer_mapState ha
  exact ⟨b, hb, rfl, rfl⟩

theorem ping_answer {l : Link} {a : Answer Link Unit} (ha : (store.ping l).answer = some a) :
    ∃ b, (l.session.ping l.turn).answer = some b ∧ a.result = b.result ∧ a.state.session = b.state := by
  obtain ⟨b, hb, rfl⟩ := Call.answer_mapState ha
  exact ⟨b, hb, rfl, rfl⟩

/-! ### Calls one at a time -/

variable [Timer]

/-- The states of a link in the course of calls, one at a time, on a store that is new,
against a server that takes the turns `server`.  A call is waited for until it is answered,
or for a bound, after which the store is told; an enforcement as long as its policy says. -/
inductive Reached (server : List Turn) : Link → Prop
  | start : Reached server ⟨.fresh, server⟩
  | hit {l : Link} {h : Hit} {a : Answer Link Nat} (hl : Reached server l)
      (ha : (store.hit l h).answer = some a) : Reached server a.state
  | ping {l : Link} {a : Answer Link Unit} (hl : Reached server l) (ha : (store.ping l).answer = some a) :
      Reached server a.state
  | hitWithin {l : Link} (hl : Reached server l) (bound : Duration) (h : Hit) :
      Reached server (store.hitWithin bound l h).state
  | pingWithin {l : Link} (hl : Reached server l) (bound : Duration) : Reached server (store.pingWithin bound l).state
  | onTimeout {l : Link} (hl : Reached server l) : Reached server (store.onTimeout l)
  | enforce {l : Link} (hl : Reached server l) (p : Policy) (client : Client) (now : Int) (nonce : String) :
      Reached server (p.enforce store l client now nonce).state

/-- What a call that was waited for tells of the cached connection: it is not there just if
the call failed or ran out of time; and one was opened just if none was cached. -/
def Spent {α : Type} (l : Link) (w : Waited Link α) : Prop :=
  (w.state.session.cached = none ↔ w.result = none ∨ ∃ e, w.result = some (.error (.store e)))
    ∧ w.state.session.opened = l.session.openedBy l.turn

/-- No call changes the session.  A call fails, or is not answered; if the server refuses the
connection it is answered. -/
structure Untouched (l : Link) : Prop where
  hit : ∀ h a, (store.hit l h).answer = some a → a.state.session = l.session ∧ ∃ e, a.result = .error (.store e)
  ping : ∀ a, (store.ping l).answer = some a → a.state.session = l.session ∧ ∃ e, a.result = .error (.store e)
  hitWithin : ∀ bound h, (store.hitWithin bound l h).state.session = l.session
  pingWithin : ∀ bound, (store.pingWithin bound l).state.session = l.session
  enforce : ∀ (p : Policy) (client : Client) (now : Int) (nonce : String),
    let e := p.enforce store l client now nonce
    e.state.session = l.session ∧ e.outcome = .ok .failOpen
  answered : l.turn.welcome = .refused → (∀ h, (store.hit l h).answer ≠ none) ∧ (store.ping l).answer ≠ none

/-- What the next call does to the connections, and what the connections have carried. -/
structure Disciplined (l : Link) : Prop where
  /-- A hit that returns leaves a connection cached just if it succeeded, and opened one
  just if none was cached. -/
  hit : ∀ h a, (store.hit l h).answer = some a →
    Session.Settled l.session a.result a.state.session ∧ a.state.session.opened = l.session.openedBy l.turn
  /-- So does a sign of life. -/
  ping : ∀ a, (store.ping l).answer = some a →
    Session.Settled l.session a.result a.state.session ∧ a.state.session.opened = l.session.openedBy l.turn
  /-- So do calls that are waited for, whether they are answered in time or not. -/
  hitWithin : ∀ bound h, Spent l (store.hitWithin bound l h)
  pingWithin : ∀ bound, Spent l (store.pingWithin bound l)
  onTimeout : (store.onTimeout l).session.cached = none
    ∧ (store.onTimeout l).session.opened = l.session.opened
  /-- An enforcement leaves none cached just if it let the request through uncounted, as it
  does when it ran out of time. -/
  enforce : ∀ (p : Policy) (client : Client) (now : Int) (nonce : String),
    let e := p.enforce store l client now nonce
    ((store.hit l (p.hitFor client now nonce)).Late p.patience → e.state.session.cached = none)
      ∧ (e.state.session.cached = none ↔ e.outcome = .ok .failOpen)
      ∧ e.state.session.opened = l.session.openedBy l.turn
  /-- If no connection can be had, the session stays as it was. -/
  unconnected : l.session.cached = none → l.turn.welcome ≠ .accepted → Untouched l
  /-- Nothing is sent over a connection after an exchange that failed or was given up. -/
  ordered : l.session.exchanges.Pairwise fun e e' => e.connection = e'.connection → e.finish = .succeeded
  /-- Every connection has carried successes, and then at most one exchange that was none. -/
  split : ∀ c, ∃ good last, l.session.exchanges.filter (fun e => e.connection = c) = good ++ last
    ∧ (∀ e ∈ good, e.finish = .succeeded) ∧ last.length ≤ 1
  /-- A window that starts before the clock's range is a fault after the connection is had,
  which stays cached, and before anything is sent. -/
  underflow : ∀ h c s, l.session.connect l.turn = some (c, s) → ¬Clock.Holds (h.now - h.span) →
    (store.hit l h).answer
        = some { delay := .zero, result := .error (.clock .back), state := ⟨s, l.server.tail⟩ }
      ∧ s.cached = some c ∧ s.exchanges = l.session.exchanges

variable {l : Link}

/-- An enforcement over a link is given up, with the connection dropped, or is its hit. -/
theorem enforce_session (l : Link) (p : Policy) (client : Client) (now : Int) (nonce : String) :
    let call := l.session.hit l.turn (p.hitFor client now nonce)
    let e := p.enforce store l client now nonce
    ((store.hit l (p.hitFor client now nonce)).Late p.patience ∧ e.outcome = .ok .failOpen
        ∧ e.state.session = call.abandoned.drop)
      ∨ ∃ b, ¬(store.hit l (p.hitFor client now nonce)).Late p.patience ∧ call.answer = some b
        ∧ e.outcome = p.judge now (some b.result) ∧ e.state.session = b.state := by
  intro call e
  rcases p.enforce_cases store l client now nonce with ⟨hl, ho, hs⟩ | ⟨a, ha, ht, ho, hs⟩
  · exact .inl ⟨hl, ho, by rw [hs]; rfl⟩
  · obtain ⟨b, hb, hr, hstate⟩ := hit_answer ha
    exact .inr ⟨b, fun hl => hl a ha ht, hb, hr ▸ ho, by rw [hs, hstate]⟩

/-- A call that is waited for is given up, with the connection dropped, or is answered. -/
theorem waited_session {α : Type} (l : Link) (call : Session → Turn → Call Session α) (bound : Duration) :
    let w := store.settle ((l.play call).within bound)
    (w.result = none ∧ w.state.session = (call l.session l.turn).abandoned.drop)
      ∨ ∃ b, (call l.session l.turn).answer = some b ∧ w.result = some b.result ∧ w.state.session = b.state := by
  intro w
  rcases store.settle_cases bound (l.play call) with ⟨-, hr, hs⟩ | ⟨a, ha, -, hr, hs⟩
  · exact .inl ⟨hr, congrArg Link.session hs⟩
  · obtain ⟨b, hb, rfl⟩ := Call.answer_mapState ha
    exact .inr ⟨b, hb, hr, congrArg Link.session hs⟩

theorem spent {α : Type} (l : Link) {call : Session → Turn → Call Session α}
    (hcall : Session.Attempt l.session l.turn (call l.session l.turn)) (bound : Duration) :
    Spent l (store.settle ((l.play call).within bound)) := by
  rcases l.waited_session call bound with ⟨hr, hs⟩ | ⟨b, hb, hr, hs⟩
  · rw [Spent, hr, hs]
    exact ⟨iff_of_true rfl (.inl rfl), hcall.opened.1⟩
  · rw [Spent, hr, hs, (hcall.settled hb).cached_eq_none]
    exact ⟨by simp, hcall.opened.2 b hb⟩

theorem waited_untouched {α : Type} {call : Session → Turn → Call Session α}
    (hcall : Session.Attempt l.session l.turn (call l.session l.turn)) (hc : l.session.cached = none)
    (ht : l.turn.welcome ≠ .accepted) (bound : Duration) :
    (store.settle ((l.play call).within bound)).state.session = l.session := by
  obtain ⟨habandoned, hanswer, -⟩ := hcall.of_unconnected hc ht
  rcases l.waited_session call bound with ⟨-, hs⟩ | ⟨b, hb, -, hs⟩
  · rw [hs, habandoned, Session.drop, ← hc]
  · exact hs.trans (hanswer b hb).1

theorem untouched (hc : l.session.cached = none) (ht : l.turn.welcome ≠ .accepted) : Untouched l where
  hit h a ha := by
    obtain ⟨b, hb, hr, hs⟩ := hit_answer ha
    rw [hr, hs]
    exact ((Session.hit_attempt ..).of_unconnected hc ht).2.1 b hb
  ping a ha := by
    obtain ⟨b, hb, hr, hs⟩ := ping_answer ha
    rw [hr, hs]
    exact ((Session.ping_attempt ..).of_unconnected hc ht).2.1 b hb
  hitWithin bound h := waited_untouched (Session.hit_attempt ..) hc ht bound
  pingWithin bound := waited_untouched (Session.ping_attempt ..) hc ht bound
  enforce p client now nonce := by
    intro e
    have hstate : e.state = (store.hitWithin p.patience l (p.hitFor client now nonce)).state :=
      (p.enforce_eq_judge store l client now nonce).2.2
    refine ⟨(congrArg Link.session hstate).trans (waited_untouched (Session.hit_attempt ..) hc ht _), ?_⟩
    rcases enforce_session l p client now nonce with ⟨-, ho, -⟩ | ⟨b, -, hb, ho, -⟩
    · exact ho
    · exact ho.trans (Policy.judge_eq_failOpen.2 (((Session.hit_attempt ..).of_unconnected hc ht).2.1 b hb).2)
  answered hr := by
    refine ⟨fun h h0 => ?_, fun h0 => ?_⟩
    · exact ((Session.hit_attempt ..).of_unconnected hc ht).2.2 hr (Option.map_eq_none_iff.1 h0)
    · exact ((Session.ping_attempt ..).of_unconnected hc ht).2.2 hr (Option.map_eq_none_iff.1 h0)

/-! ### Every state that is reached -/

theorem sound_waited {α : Type} {call : Session → Turn → Call Session α} (hl : Session.Sound l.session)
    (hcall : Session.Attempt l.session l.turn (call l.session l.turn)) (bound : Duration) :
    Session.Sound (store.settle ((l.play call).within bound)).state.session := by
  rcases l.waited_session call bound with ⟨-, hs⟩ | ⟨b, hb, -, hs⟩
  · rw [hs]
    exact (hl.attempt hcall).1
  · rw [hs]
    exact (hl.attempt hcall).2 b hb

theorem Reached.sound {server : List Turn} (hl : Reached server l) : Session.Sound l.session := by
  induction hl with
  | start => exact .fresh
  | hit hl ha ih =>
    obtain ⟨b, hb, -, hs⟩ := hit_answer ha
    rw [hs]
    exact (ih.attempt (Session.hit_attempt ..)).2 b hb
  | ping hl ha ih =>
    obtain ⟨b, hb, -, hs⟩ := ping_answer ha
    rw [hs]
    exact (ih.attempt (Session.ping_attempt ..)).2 b hb
  | hitWithin hl bound h ih => exact sound_waited ih (Session.hit_attempt ..) bound
  | pingWithin hl bound ih => exact sound_waited ih (Session.ping_attempt ..) bound
  | onTimeout hl ih => exact ih.drop
  | enforce hl p client now nonce ih =>
    rw [(p.enforce_eq_judge store _ client now nonce).2.2]
    exact sound_waited ih (Session.hit_attempt ..) p.patience

/-- **One failure ends a connection.**  Whatever the server does in a run of calls, a
connection is cached just after a success, opened just if none is cached, and never used
again after an exchange that failed or was given up. -/
theorem Reached.disciplined {server : List Turn} (hl : Reached server l) : Disciplined l where
  hit h a ha := by
    obtain ⟨b, hb, hr, hs⟩ := hit_answer ha
    rw [hr, hs]
    have hcall := Session.hit_attempt l.session l.turn h
    exact ⟨hcall.settled hb, hcall.opened.2 b hb⟩
  ping a ha := by
    obtain ⟨b, hb, hr, hs⟩ := ping_answer ha
    rw [hr, hs]
    have hcall := Session.ping_attempt l.session l.turn
    exact ⟨hcall.settled hb, hcall.opened.2 b hb⟩
  hitWithin bound h := l.spent (Session.hit_attempt ..) bound
  pingWithin bound := l.spent (Session.ping_attempt ..) bound
  onTimeout := ⟨rfl, rfl⟩
  enforce p client now nonce := by
    intro e
    have hcall := Session.hit_attempt l.session l.turn (p.hitFor client now nonce)
    rcases enforce_session l p client now nonce with ⟨-, ho, hs⟩ | ⟨b, hl, hb, ho, hs⟩
    · rw [show e.state.session = _ from hs, show e.outcome = _ from ho]
      exact ⟨fun _ => rfl, iff_of_true rfl rfl, hcall.opened.1⟩
    · rw [show e.state.session = _ from hs, show e.outcome = _ from ho]
      refine ⟨fun h => absurd h hl, ?_, hcall.opened.2 b hb⟩
      rw [Policy.judge_eq_failOpen]
      exact (hcall.settled hb).cached_eq_none
  unconnected := untouched
  ordered := hl.sound.ordered
  split := hl.sound.ordered.split
  underflow h c s hc hh := by
    obtain ⟨hcached, hexchanges, -⟩ := Session.connect_eq_some hc
    refine ⟨?_, hcached, hexchanges⟩
    have hb : Clock.before h.now h.span = .error .back := if_neg hh
    have hcall : l.session.hit l.turn h = .now s (.error (.clock .back)) s := by
      rw [Session.hit, hc]
      dsimp only
      rw [hb]
    simp only [store, play, hcall]
    rfl

end

/-- Four requests in ten minutes. -/
def sparing : Policy :=
  { space := "p:", quota := 4, window := .ofSecs 600, patience := .ofMillis 250
    quota_pos := by decide, one_le_secs := by decide, window_le := by decide }

/-- A server that answers, stalls, refuses, accepts, answers again, and closes at the third
command. -/
def troubles : List Turn :=
  [{ welcome := .accepted, delay := .zero, ending := .silence
     replies := [.simple "OK", .simple "QUEUED", .simple "QUEUED", .simple "QUEUED", .simple "QUEUED",
      .array [.integer 0, .integer 1, .integer 1, .integer 1]] },
    { welcome := .accepted, delay := .zero, ending := .silence, replies := [.simple "OK"] },
    .refusing,
    { welcome := .accepted, delay := .zero, ending := .silence, replies := [] },
    { welcome := .accepted, delay := .zero, ending := .silence, replies := [.simple "PONG"] },
    { welcome := .accepted, delay := .zero, ending := .closed 3, replies := [.simple "OK", .simple "QUEUED"] }]

/-- What the session remembers of them: a hit and a hit given up, then a sign of life and a
hit that failed.  The refused call and the one faulted by the clock left nothing. -/
def troubled : Session :=
  { cached := none, opened := 2
    exchanges :=
      [⟨1, Command.transaction ⟨"k", "a", 5000, 600⟩ 4400, .succeeded⟩,
        ⟨1, Command.transaction (sparing.hitFor (.user "42") 5001 "b") 4401, .abandoned⟩,
        ⟨2, [.ping], .succeeded⟩,
        ⟨2, (Command.transaction (sparing.hitFor (.user "42") 5002 "c") 4402).take 3, .failed⟩] }

theorem troubled_disciplined : Reached troubles ⟨troubled, []⟩ ∧ Disciplined ⟨troubled, []⟩ := by
  have h₁ : Reached troubles ⟨⟨some 1, 1, troubled.exchanges.take 1⟩, troubles.drop 1⟩ :=
    .hit (h := ⟨"k", "a", 5000, 600⟩) (a := ⟨.zero, .ok 1, _⟩) .start rfl
  have h₂ : Reached troubles ⟨⟨none, 1, troubled.exchanges.take 2⟩, troubles.drop 2⟩ :=
    h₁.enforce sparing (.user "42") 5001 "b"
  have h₃ : Reached troubles ⟨⟨none, 1, troubled.exchanges.take 2⟩, troubles.drop 3⟩ :=
    h₂.hit (h := ⟨"k", "b", 5001, 600⟩) (a := ⟨.zero, _, _⟩) rfl
  have h₄ : Reached troubles ⟨⟨some 2, 2, troubled.exchanges.take 2⟩, troubles.drop 4⟩ :=
    h₃.hit (h := ⟨"k", "c", -9223372036854775808, 600⟩) (a := ⟨.zero, .error (.clock .back), _⟩) rfl
  have h₅ : Reached troubles ⟨⟨some 2, 2, troubled.exchanges.take 3⟩, troubles.drop 5⟩ :=
    h₄.ping (a := ⟨.zero, .ok (), _⟩) rfl
  have h₆ : Reached troubles ⟨troubled, []⟩ := h₅.enforce sparing (.user "42") 5002 "c"
  exact ⟨h₆, h₆.disciplined⟩

end Link

end QuotaGate.Redis
