/-
What the replies of a server amount to.

A hit over a session is one transaction of six commands.  It is answered with a count just if
the whole of it succeeded: no reply is an error, and the last one has four elements, of which
none is an error and the third is the count (`Granted`).  Anything else, a reply of another
kind or none, is a failure or silence; the hit is not made again, and an enforcement lets the
request through.  So a request is rejected on the word of a count above the quota that came in
time, and on nothing else.

* `Session.hit_ok_iff`, `Session.hit_unanswered_iff`, `Session.hit_once` — one hit over a session;
* `Link.Told`, `Link.Judged` — how the next hit is answered, and what the next enforcement comes
  to;
* `Link.replies_judged` — both, whatever the server does in its turn.

Design notes: the decoding is any that is lawful, and the timers are any.  In time is what comes
before the timer ends that is set to the policy's patience.
-/
import QuotaGate.Proofs.Redis.Connection
import QuotaGate.Proofs.Redis.Reading

namespace QuotaGate.Redis

/-! ### One transaction over a session -/

namespace Session

variable {s s' : Session} {t : Turn} {c : Nat}

/-- Beyond what `s` remembers, `s'` has at most one exchange, and in it the server got
`commands`, or the first of them, and nothing else. -/
def Once (commands : List Command) (s s' : Session) : Prop :=
  ∃ sent, s'.exchanges = s.exchanges ++ sent ∧ sent.length ≤ 1 ∧ ∀ e ∈ sent, e.commands <+: commands

theorem Once.of_eq {commands : List Command} (h : s'.exchanges = s.exchanges) : Once commands s s' :=
  ⟨[], by rw [h, List.append_nil], Nat.zero_le _, nofun⟩

theorem Once.add {commands arrived : List Command} (h : arrived <+: commands) (finish : Finish) :
    Once commands s (s.add c arrived finish) := by
  refine ⟨_, rfl, Nat.le_refl _, fun e he => ?_⟩
  rw [List.mem_singleton.1 he]
  exact h

/-- The session that was exchanged over may have had its connection opened for it. -/
theorem Once.of_connected {commands : List Command} {u : Session} (h : Once commands s u)
    (hs : s.exchanges = s'.exchanges) : Once commands s' u := by
  obtain ⟨sent, hsent, hrest⟩ := h
  exact ⟨sent, hs ▸ hsent, hrest⟩

section Exchange

variable {α : Type} {commands : List Command} {value? : List Reply → Option α}

/-- An exchange succeeds if all replies are there and they are worth something together. -/
theorem exchange_ok_iff {v : α} :
    (∃ a, (s.exchange c t commands value?).answer = some a ∧ a.result = .ok v)
      ↔ commands.length ≤ t.replies.length ∧ value? (t.replies.take commands.length) = some v := by
  simp only [exchange]
  by_cases hlen : commands.length ≤ t.replies.length
  · rw [if_pos hlen]
    cases value? (t.replies.take commands.length) with
    | none => simp [hlen]
    | some w => simp [hlen]
  · rw [if_neg hlen]
    cases t.ending with
    | silence => simp [hlen]
    | closed seen => simp [hlen]
    | garbled => simp [hlen]

theorem exchange_unanswered_iff :
    (s.exchange c t commands value?).answer = none ↔ t.replies.length < commands.length ∧ t.ending = .silence := by
  simp only [exchange]
  by_cases hlen : commands.length ≤ t.replies.length
  · rw [if_pos hlen]
    cases value? (t.replies.take commands.length) with
    | none => simp [Nat.not_lt.2 hlen]
    | some w => simp [Nat.not_lt.2 hlen]
  · rw [if_neg hlen]
    cases t.ending with
    | silence => simp [Nat.not_le.1 hlen]
    | closed seen => simp
    | garbled => simp

/-- What the server gets of the commands that are sent. -/
theorem arrived_isPrefix (t : Turn) (commands : List Command) :
    (match t.ending with | .closed seen => commands.take seen | _ => commands) <+: commands := by
  cases t.ending with
  | silence => exact List.prefix_refl _
  | closed seen => exact List.take_prefix _ _
  | garbled => exact List.prefix_refl _

theorem exchange_once :
    Once commands s (s.exchange c t commands value?).abandoned
      ∧ ∀ a, (s.exchange c t commands value?).answer = some a → a.delay = t.delay ∧ Once commands s a.state := by
  have harrived := arrived_isPrefix t commands
  refine ⟨.add harrived .abandoned, fun a ha => ?_⟩
  simp only [exchange] at ha
  split at ha
  · split at ha
    · obtain rfl := Option.some.inj ha
      exact ⟨rfl, .add harrived .succeeded⟩
    · obtain rfl := Option.some.inj ha
      exact ⟨rfl, .add harrived .failed⟩
  · split at ha
    · cases ha
    · obtain rfl := Option.some.inj ha
      exact ⟨rfl, .add harrived .failed⟩
    · obtain rfl := Option.some.inj ha
      exact ⟨rfl, .add harrived .failed⟩

end Exchange

variable [Decoding]

/-- Once a connection is had, a hit whose window starts in the clock's range is the exchange of
its transaction. -/
theorem hit_eq_exchange {h : Hit} (hh : Clock.Holds (h.now - h.span)) (hc : s.connect t = some (c, s')) :
    s.hit t h = s'.exchange c t (Command.transaction h (h.now - h.span))
      (Decoding.count? (Command.queue h (h.now - h.span))) := by
  rw [hit, hc]
  dsimp only
  rw [Clock.before_eq_ok.2 ⟨hh, rfl⟩]

/-- Without a connection it leaves the session as it was, and fails if it is answered. -/
theorem hit_unconnected (h : Hit) (hc : s.connect t = none) :
    (s.hit t h).abandoned = s
      ∧ ∀ a, (s.hit t h).answer = some a → a.state = s ∧ ∃ e, a.result = .error (.store e) := by
  obtain ⟨hcached, hwelcome⟩ := connect_eq_none.1 hc
  obtain ⟨habandoned, hanswer, -⟩ := (hit_attempt s t h).of_unconnected hcached hwelcome
  exact ⟨habandoned, hanswer⟩

theorem hit_once {h : Hit} (hh : Clock.Holds (h.now - h.span)) :
    Once (Command.transaction h (h.now - h.span)) s (s.hit t h).abandoned
      ∧ ∀ a, (s.hit t h).answer = some a → Once (Command.transaction h (h.now - h.span)) s a.state := by
  cases hc : s.connect t with
  | none =>
    obtain ⟨habandoned, hanswer⟩ := hit_unconnected h hc
    refine ⟨.of_eq (congrArg exchanges habandoned), fun a ha => ?_⟩
    exact .of_eq (congrArg exchanges (hanswer a ha).1)
  | some r =>
    obtain ⟨c, s'⟩ := r
    obtain ⟨-, hexchanges, -⟩ := connect_eq_some hc
    rw [hit_eq_exchange hh hc]
    exact ⟨exchange_once.1.of_connected hexchanges, fun a ha => (exchange_once.2 a ha).2.of_connected hexchanges⟩

theorem hit_ok_iff (hd : Decoding.Lawful) {h : Hit} (hh : Clock.Holds (h.now - h.span)) (hs : Sensible t.replies)
    {n : Nat} :
    (∃ a, (s.hit t h).answer = some a ∧ a.result = .ok n) ↔ s.connect t ≠ none ∧ Granted t.replies n := by
  cases hc : s.connect t with
  | none =>
    refine iff_of_false ?_ fun hgranted => hgranted.1 rfl
    rintro ⟨a, ha, hr⟩
    obtain ⟨-, e, he⟩ := (hit_unconnected h hc).2 a ha
    rw [he] at hr
    cases hr
  | some r =>
    obtain ⟨c, s'⟩ := r
    rw [hit_eq_exchange hh hc, exchange_ok_iff]
    exact (hd.count?_take hs).trans (and_iff_right nofun).symm

theorem hit_unanswered_iff {h : Hit} (hh : Clock.Holds (h.now - h.span)) :
    (s.hit t h).answer = none ↔ (s.connect t ≠ none ∧ t.replies.length < 6 ∧ t.ending = .silence)
      ∨ (s.connect t = none ∧ t.welcome = .ignored) := by
  cases hc : s.connect t with
  | none =>
    rw [hit, hc]
    dsimp only
    rw [unconnected]
    split
    · rename_i hi
      exact iff_of_true rfl (.inr ⟨rfl, hi⟩)
    · rename_i hheard
      refine iff_of_false (Option.some_ne_none _) ?_
      rintro (⟨hsome, -⟩ | ⟨-, hi⟩)
      · exact hsome rfl
      · exact hheard hi
  | some r =>
    obtain ⟨c, s'⟩ := r
    rw [hit_eq_exchange hh hc, exchange_unanswered_iff]
    constructor
    · exact fun hsilent => .inl ⟨Option.some_ne_none _, hsilent⟩
    · rintro (⟨-, hsilent⟩ | ⟨hnone, -⟩)
      · exact hsilent
      · cases hnone

/-- An answer is a count or an error of the store, and comes when the server gives it if there
is a connection. -/
theorem hit_answer_shape {h : Hit} (hh : Clock.Holds (h.now - h.span)) {a : Answer Session Nat}
    (ha : (s.hit t h).answer = some a) :
    ((∃ n, a.result = .ok n) ∨ ∃ e, a.result = .error (.store e)) ∧ (s.connect t ≠ none → a.delay = t.delay) := by
  cases hc : s.connect t with
  | none =>
    exact ⟨.inr ((hit_unconnected h hc).2 a ha).2, fun hsome => absurd rfl hsome⟩
  | some r =>
    obtain ⟨c, s'⟩ := r
    rw [hit_eq_exchange hh hc] at ha
    obtain ⟨arrived, ⟨hok, -⟩ | ⟨hfail, -⟩⟩ := exchange_answer ha
    · exact ⟨.inl hok, fun _ => (exchange_once.2 a ha).1⟩
    · exact ⟨.inr hfail, fun _ => (exchange_once.2 a ha).1⟩

end Session

/-! ### One hit on a link -/

namespace Link

variable {l : Link} {h : Hit} {c : Nat}

/-- A connection is cached, or the server accepts one. -/
def Connects (l : Link) : Prop :=
  l.session.cached ≠ none ∨ l.turn.welcome = .accepted

/-- The server grants the count `c` in its turn. -/
def Grants (l : Link) (c : Nat) : Prop :=
  l.Connects ∧ Granted l.turn.replies c

/-- The server leaves a hit without an answer: it stops before the last reply, or is not heard
when a connection is wanted. -/
def Silent (l : Link) : Prop :=
  (l.Connects ∧ l.turn.replies.length < 6 ∧ l.turn.ending = .silence) ∨ (¬l.Connects ∧ l.turn.welcome = .ignored)

/-- The count `c` is granted, and reaches a caller whose timer is set to `bound`. -/
def Hears [Timer] (l : Link) (bound : Duration) (c : Nat) : Prop :=
  l.Grants c ∧ InTime bound l.turn.delay

/-- From `l` to `l'` the server took a turn, and got the transaction of `h`, or the first
commands of it, at most once. -/
def Asked (l : Link) (h : Hit) (l' : Link) : Prop :=
  Session.Once (Command.transaction h (h.now - h.span)) l.session l'.session ∧ l'.server = l.server.tail

/-- How the next hit is answered. -/
structure Told [Decoding] (l : Link) (h : Hit) : Prop where
  /-- With a count just if the server grants it. -/
  ok_iff : ∀ c, (∃ a, (store.hit l h).answer = some a ∧ a.result = .ok c) ↔ l.Grants c
  /-- With an error of the store if none is granted. -/
  failed : ∀ a, (store.hit l h).answer = some a → (∀ c, ¬l.Grants c) → ∃ e, a.result = .error (.store e)
  /-- Not at all just if the server does not speak up. -/
  unanswered_iff : (store.hit l h).answer = none ↔ l.Silent
  /-- Over a connection, when the server gives its answer. -/
  delay : l.Connects → ∀ a, (store.hit l h).answer = some a → a.delay = l.turn.delay
  /-- The server is asked once, whether the hit is answered or given up. -/
  asked : l.Asked h (store.hit l h).abandoned ∧ ∀ a, (store.hit l h).answer = some a → l.Asked h a.state

theorem connects_iff : l.Connects ↔ l.session.connect l.turn ≠ none := by
  rw [Ne, Session.connect_eq_none, Connects]
  by_cases hc : l.session.cached = none <;> simp [hc]

theorem told [Decoding] (hd : Decoding.Lawful) (hs : Sensible l.turn.replies) (hh : Clock.Holds (h.now - h.span)) :
    Told l h := by
  obtain ⟨habandoned, honce⟩ := Session.hit_once (s := l.session) (t := l.turn) hh
  have hok : ∀ c, (∃ a, (store.hit l h).answer = some a ∧ a.result = .ok c) ↔ l.Grants c := by
    intro c
    rw [Grants, connects_iff, ← Session.hit_ok_iff hd hh hs]
    simp [store, play, Call.mapState]
  refine ⟨hok, fun a ha hnone => ?_, ?_, fun hc a ha => ?_, ⟨habandoned, rfl⟩, fun a ha => ?_⟩
  · obtain ⟨b, hb, rfl⟩ := Call.answer_mapState ha
    rcases (Session.hit_answer_shape hh hb).1 with ⟨n, hn⟩ | hfail
    · exact absurd ((hok n).1 ⟨_, ha, hn⟩) (hnone n)
    · exact hfail
  · rw [Silent, connects_iff, not_not, ← Session.hit_unanswered_iff hh]
    exact Option.map_eq_none_iff
  · obtain ⟨b, hb, rfl⟩ := Call.answer_mapState ha
    exact (Session.hit_answer_shape hh hb).2 (connects_iff.1 hc)
  · obtain ⟨b, hb, rfl⟩ := Call.answer_mapState ha
    exact ⟨honce b hb, rfl⟩

/-! ### One enforcement over a link -/

section Enforcement

variable [Timer] [Decoding] {p : Policy} {client : Client} {now : Int} {nonce : String}

/-- What the next enforcement comes to. -/
structure Judged (l : Link) (p : Policy) (client : Client) (now : Int) (nonce : String) : Prop where
  /-- The request is let through just if no count is heard. -/
  failOpen_iff : (p.enforce store l client now nonce).outcome = .ok .failOpen ↔ ∀ c, ¬l.Hears p.patience c
  /-- It is rejected just if a count above the quota is. -/
  rejected_iff : Clock.Holds (now + p.span) → ∀ s, (p.enforce store l client now nonce).outcome = .ok (.rejected s)
    ↔ ∃ c, l.Hears p.patience c ∧ p.quota < c ∧ s = .ofCount p.quota c now (now + p.span)
  /-- It is allowed just if a count within the quota is. -/
  allowed_iff : Clock.Holds (now + p.span) → ∀ s, (p.enforce store l client now nonce).outcome = .ok (.allowed s)
    ↔ ∃ c, l.Hears p.patience c ∧ c ≤ p.quota ∧ s = .ofCount p.quota c now (now + p.span)
  /-- The server is asked once. -/
  asked : l.Asked (p.hitFor client now nonce) (p.enforce store l client now nonce).state

/-- What goes for some count that is heard goes for the only one. -/
theorem Told.exists_hears_iff (ht : Told l h) {bound : Duration} (hc : l.Hears bound c) {P : Nat → Prop} :
    (∃ n, l.Hears bound n ∧ P n) ↔ P c := by
  refine ⟨?_, fun hP => ⟨c, hc, hP⟩⟩
  rintro ⟨n, hn, hP⟩
  obtain ⟨a, ha, hr⟩ := (ht.ok_iff c).2 hc.1
  obtain ⟨a', ha', hr'⟩ := (ht.ok_iff n).2 hn.1
  obtain rfl := Option.some.inj (ha.symm.trans ha')
  obtain rfl := Except.ok.inj (hr.symm.trans hr')
  exact hP

/-- An enforcement decides on the count that is heard; if none is, it lets the request
through. -/
theorem Told.outcome (ht : Told l (p.hitFor client now nonce)) :
    (∃ c, l.Hears p.patience c ∧ (p.enforce store l client now nonce).outcome = p.verdict now c)
      ∨ (∀ c, ¬l.Hears p.patience c) ∧ (p.enforce store l client now nonce).outcome = .ok .failOpen := by
  rcases p.enforce_cases store l client now nonce with ⟨hlate, ho, -⟩ | ⟨a, ha, htime, ho, -⟩
  · refine .inr ⟨fun c hears => ?_, ho⟩
    obtain ⟨a, ha, -⟩ := (ht.ok_iff c).2 hears.1
    exact hlate a ha (ht.delay hears.1.1 a ha ▸ hears.2)
  · by_cases hgrant : ∃ c, l.Grants c
    · obtain ⟨c, hc⟩ := hgrant
      obtain ⟨a', ha', hr⟩ := (ht.ok_iff c).2 hc
      obtain rfl := Option.some.inj (ha.symm.trans ha')
      refine .inl ⟨c, ⟨hc, ht.delay hc.1 a ha ▸ htime⟩, ?_⟩
      rw [ho, hr]
      rfl
    · have hnone : ∀ c, ¬l.Grants c := not_exists.1 hgrant
      obtain ⟨e, he⟩ := ht.failed a ha hnone
      refine .inr ⟨fun c hears => hnone c hears.1, ?_⟩
      rw [ho, he]
      rfl

/-- It decides on nothing else. -/
theorem Told.decided_iff (ht : Told l (p.hitFor client now nonce)) {d : Decision} (hd : d ≠ .failOpen) :
    (p.enforce store l client now nonce).outcome = .ok d ↔ ∃ c, l.Hears p.patience c ∧ p.verdict now c = .ok d := by
  rcases ht.outcome with ⟨c, hc, ho⟩ | ⟨hnone, ho⟩
  · rw [ho, ht.exists_hears_iff hc]
  · rw [ho]
    refine iff_of_false (fun hopen => hd (Except.ok.inj hopen).symm) ?_
    rintro ⟨c, hc, -⟩
    exact hnone c hc

theorem Told.judged (ht : Told l (p.hitFor client now nonce)) : Judged l p client now nonce where
  failOpen_iff := by
    rcases ht.outcome with ⟨c, hc, ho⟩ | ⟨hnone, ho⟩
    · refine iff_of_false (fun hopen => ?_) fun hnone => hnone c hc
      have hjudge : p.judge now (some (.ok c)) = .ok .failOpen := ho.symm.trans hopen
      obtain ⟨e, he⟩ := Policy.judge_eq_failOpen.1 hjudge
      cases he
    · exact iff_of_true ho hnone
  rejected_iff hend s := by
    have hne : Decision.rejected s ≠ .failOpen := nofun
    rw [ht.decided_iff hne]
    simp only [p.verdict_of_holds hend, Except.ok.injEq, Decision.ofStatus_eq_rejected_iff]
    exact Iff.rfl
  allowed_iff hend s := by
    have hne : Decision.allowed s ≠ .failOpen := nofun
    rw [ht.decided_iff hne]
    simp only [p.verdict_of_holds hend, Except.ok.injEq, Decision.ofStatus_eq_allowed_iff]
    exact Iff.rfl
  asked := by
    rcases p.enforce_cases store l client now nonce with ⟨-, -, hstate⟩ | ⟨a, ha, -, -, hstate⟩
    · rw [hstate]
      exact ht.asked.1
    · rw [hstate]
      exact ht.asked.2 a ha

/-- **Nothing but a whole transaction limits.**  A hit is answered with a count just if no reply
is an error and the last one has the count as the third of four elements, none an error; any
other turn of the server fails it, or leaves it without an answer.  The server is asked once.
A request is rejected just if a count above the quota came in time, allowed just if one within
the quota did, and let through uncounted in all other cases.  What comes within the patience is
in time if that is within the reach of timers, and nothing else is if timers count to it. -/
theorem replies_judged (hd : Decoding.Lawful) (hs : Sensible l.turn.replies) :
    (∀ h : Hit, Clock.Holds (h.now - h.span) → Told l h)
      ∧ (∀ (p : Policy) (client : Client) (now : Int) (nonce : String), Clock.Holds (now - p.span) →
        Judged l p client now nonce)
      ∧ ∀ (bound : Duration) (c : Nat),
        (bound ≤ Timer.reach → l.Grants c → l.turn.delay ≤ bound → l.Hears bound c)
          ∧ (Timer.Counts bound → (l.Hears bound c ↔ l.Grants c ∧ l.turn.delay ≤ bound)) :=
  ⟨fun _ hh => told hd hs hh, fun _ _ _ _ hh => (told hd hs hh).judged,
    fun _ _ => ⟨fun hb hc hdelay => ⟨hc, inTime_of_le hb hdelay⟩, fun hb => and_congr_right fun _ => inTime_iff_le hb⟩⟩

end Enforcement

/-- A server that takes all the patience there is, gives the size of the set as a text, and
nonsense for the rest. -/
def wordy : Turn :=
  { welcome := .accepted, delay := .ofMillis 250, ending := .garbled
    replies := [.simple "OK", .nil, .integer (-1), .simple "QUEUED", .bulk [],
      .array [.nil, .array [.integer 7], .bulk [43, 53], .simple "PONG"]] }

theorem wordy_rejected :
    Decoding.Lawful ∧ Sensible wordy.replies ∧ Clock.Holds (5000 - sparing.span)
      ∧ Timer.Counts sparing.patience ∧ Hears ⟨.fresh, [wordy]⟩ sparing.patience 5
      ∧ (sparing.enforce store ⟨.fresh, [wordy]⟩ (.user "42") 5000 "a").outcome
        = .ok (.rejected (.ofCount 4 5 5000 5600)) := by
  have hs : Sensible wordy.replies := by
    intro items size hitems hsize
    obtain rfl := Reply.array.inj (Option.some.inj hitems)
    obtain rfl := Option.some.inj hsize
    trivial
  have hdigit : ∀ c ∈ ['5'], c.isDigit := fun c hc => List.mem_singleton.1 hc ▸ rfl
  have hfive : Numeral.Denotes ['+', '5'] 5 := ⟨['5'], .inr rfl, List.cons_ne_nil _ _, hdigit, rfl⟩
  have hgranted : Granted wordy.replies 5 :=
    ⟨wordy.replies.take 5, _, _, _, _, [], rfl, rfl, by decide, by decide, .bulk rfl hfive (by decide)⟩
  have hspan : Clock.Holds (5000 - sparing.span) := by decide
  have hcounts : Timer.Counts sparing.patience := by decide
  obtain ⟨-, hjudged, hheard⟩ := replies_judged (l := ⟨.fresh, [wordy]⟩) Decoding.lawful_plain hs
  have hears := ((hheard sparing.patience 5).2 hcounts).2 ⟨⟨.inr rfl, hgranted⟩, Nat.le_refl _⟩
  refine ⟨Decoding.lawful_plain, hs, hspan, hcounts, hears, ?_⟩
  exact ((hjudged sparing (.user "42") 5000 "a" hspan).rejected_iff (by decide) _).2 ⟨5, hears, by decide, rfl⟩

end Link

end QuotaGate.Redis
