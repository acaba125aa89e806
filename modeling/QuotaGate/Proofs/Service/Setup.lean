/-
Which settings make a service, and of what kind.

* `exists_ofSettings?_eq_ok` — just those that are `Settings.Accepted`;
* `ofSettings?_eq_error` — what is told of all others, the first fault counting: the
  location of the server, then the limits, then the gateway's header;
* `reflects_of_ofSettings?` — a service carries the values of its settings;
* `Backing.counts_of_handle?` — window sets within reach are the ones counted in.

Design notes: `Settings.Accepted` and `Settings.Refused` speak of the settings alone.
Where a server can be located is the client's own reading, `Redis.Location.open?`.
-/
import QuotaGate.Proofs.Enforcer.Run
import QuotaGate.Service.Backing
import QuotaGate.Service.Setup

namespace QuotaGate

/-! ### Header names -/

namespace HeaderName

/-- What a token may have beside letters and digits (RFC 9110). -/
def marks : List Char := "!#$%&'*+-.^_\x60|~".toList

/-- The spelling of a header name: a token of at most 65535 characters. -/
structure Spelled (text : String) : Prop where
  nonempty : text ≠ ""
  length_le : text.length ≤ 65535
  chars : ∀ c ∈ text.toList, c.isAlphanum ∨ c ∈ marks

theorem mem_marks {c : Char} : c ∈ marks ↔ "!#$%&'*+-.^_|~".toList.contains c ∨ c = '\x60' := by
  have hmarks : marks = "!#$%&'*+-.^_".toList ++ '\x60' :: "|~".toList := by decide
  have hothers : "!#$%&'*+-.^_|~".toList = "!#$%&'*+-.^_".toList ++ "|~".toList := by decide
  rw [hmarks, hothers, List.contains_iff_mem, List.mem_append, List.mem_append, List.mem_cons, or_left_comm, or_comm]

theorem isTokenChar_eq_true {c : Char} : isTokenChar c ↔ c.isLower ∨ c.isDigit ∨ c ∈ marks := by
  rw [mem_marks, isTokenChar]
  simp only [Bool.or_eq_true, decide_eq_true_eq]
  rw [or_assoc, or_assoc, or_left_comm]

theorem isLower_toLower {c : Char} (h : c.isUpper) : c.toLower.isLower := by
  have hupper : c.val ≥ 'A'.val ∧ c.val ≤ 'Z'.val := of_decide_eq_true h
  have hrange : 65 ≤ c.toNat ∧ c.toNat ≤ 90 := by
    simpa [UInt32.le_iff_toNat_le] using hupper
  have hval : c.toLower.val = c.val + 32 := congrArg Char.val (dif_pos hupper)
  have hlower : 'a'.val ≤ c.val + 32 ∧ c.val + 32 ≤ 'z'.val := by
    simp only [UInt32.le_iff_toNat_le]
    change 97 ≤ (c.toNat + 32) % 4294967296 ∧ (c.toNat + 32) % 4294967296 ≤ 122
    omega
  change (decide ('a'.val ≤ c.toLower.val) && decide (c.toLower.val ≤ 'z'.val)) = true
  rw [hval, Bool.and_eq_true, decide_eq_true_iff, decide_eq_true_iff]
  exact hlower

theorem toLower_of_not_isUpper {c : Char} (h : ¬c.isUpper) : c.toLower = c :=
  dif_neg fun hc => h (decide_eq_true hc)

theorem isTokenChar_toLower (c : Char) : isTokenChar c.toLower ↔ c.isAlphanum ∨ c ∈ marks := by
  have halphanum : c.isAlphanum = (c.isUpper || c.isLower || c.isDigit) := rfl
  rw [isTokenChar_eq_true, halphanum]
  -- Nothing but a capital is changed by writing it small.
  by_cases hu : c.isUpper
  · simp [isLower_toLower hu, hu]
  · simp [toLower_of_not_isUpper hu, hu, or_assoc]

theorem exists_ofText?_eq_some {text : String} : (∃ name, ofText? text = some name) ↔ Spelled text := by
  simp only [ofText?, Option.ite_none_right_eq_some, Option.some.injEq, exists_and_left, exists_eq', and_true,
    Bool.and_eq_true, Bool.not_eq_eq_eq_not, Bool.not_true, List.isEmpty_map, List.isEmpty_eq_false_iff, List.length_map,
    String.length_toList, decide_eq_true_eq, List.all_map, List.all_eq_true, Function.comp_apply, isTokenChar_toLower]
  constructor
  · rintro ⟨⟨hne, hlen⟩, hchars⟩
    exact ⟨fun he => hne (String.toList_eq_nil_iff.2 he), by omega, hchars⟩
  · rintro ⟨hne, hlen, hchars⟩
    exact ⟨⟨fun he => hne (String.toList_eq_nil_iff.1 he), by omega⟩, hchars⟩

end HeaderName

/-! ### Faults of settings -/

namespace Settings

variable {s : Settings}

/-- The counting store can be told where it is. -/
def Located (s : Settings) : Prop :=
  s.backend = .memory ∨ ∃ l, Redis.Location.open? s.redisUrl = .ok l

/-- The limits are in their bounds. -/
def Bounded (s : Settings) : Prop :=
  1 ≤ s.quota ∧ 1 ≤ s.windowSecs ∧ s.windowSecs ≤ 31536000

/-- The gateway's header, if there is one, has the name of a header. -/
def Named (s : Settings) : Prop :=
  ∀ text, s.gateway = some text → HeaderName.Spelled text

/-- Settings without a fault. -/
structure Accepted (s : Settings) : Prop where
  located : s.Located
  bounded : s.Bounded
  named : s.Named

/-- What is told of settings that have a fault: what comes later is looked at only if all
before it is right. -/
inductive Refused (s : Settings) : SetupError → Prop
  | location {e : Redis.UrlError} (hb : s.backend = .redis) (hl : Redis.Location.open? s.redisUrl = .error e) :
    Refused s (.location e)
  | zeroQuota (hl : s.Located) (hq : s.quota = 0) : Refused s (.policy .zeroQuota)
  | windowTooShort (hl : s.Located) (hq : 1 ≤ s.quota) (hw : s.windowSecs = 0) :
    Refused s (.policy (.windowTooShort (.ofSecs s.windowSecs)))
  | windowTooLong (hl : s.Located) (hq : 1 ≤ s.quota) (hw : 31536000 < s.windowSecs) :
    Refused s (.policy (.windowTooLong (.ofSecs s.windowSecs)))
  | gateway (hl : s.Located) (hb : s.Bounded) (hn : ¬s.Named) : Refused s .gateway

theorem accepted_or_refused (s : Settings) : s.Accepted ∨ ∃ e, s.Refused e := by
  by_cases hl : s.Located
  · -- The checks in their order, each with all before it passed.
    by_cases hq : s.quota = 0
    · exact .inr ⟨_, .zeroQuota hl hq⟩
    by_cases hshort : s.windowSecs = 0
    · exact .inr ⟨_, .windowTooShort hl (by omega) hshort⟩
    by_cases hlong : 31536000 < s.windowSecs
    · exact .inr ⟨_, .windowTooLong hl (by omega) hlong⟩
    have hb : s.Bounded := ⟨by omega, by omega, by omega⟩
    by_cases hn : s.Named
    · exact .inl ⟨hl, hb, hn⟩
    · exact .inr ⟨_, .gateway hl hb hn⟩
  · -- Only a server can be somewhere that is not understood.
    cases hb : s.backend with
    | memory => exact absurd (.inl hb) hl
    | redis =>
      cases ho : Redis.Location.open? s.redisUrl with
      | ok l => exact absurd (.inr ⟨l, ho⟩) hl
      | error e => exact .inr ⟨_, .location hb ho⟩

theorem Accepted.not_refused (h : s.Accepted) (e : SetupError) : ¬s.Refused e := by
  obtain ⟨hl, ⟨hq, hshort, hlong⟩, hn⟩ := h
  intro hr
  cases hr with
  | location hb he =>
    rcases hl with hm | ⟨l, ho⟩
    · rw [hm] at hb
      cases hb
    · rw [ho] at he
      cases he
  | zeroQuota _ hq' => omega
  | windowTooShort _ _ hw => omega
  | windowTooLong _ _ hw => omega
  | gateway _ _ hn' => exact hn' hn

end Settings

namespace Service

variable {s : Settings} {svc : Service}

/-! ### The three checks -/

theorem checkLocation_of_located (h : s.Located) : checkLocation s = .ok () := by
  unfold checkLocation
  rcases h with hb | ⟨l, hl⟩
  · rw [hb]
  · rw [hl]
    cases s.backend <;> rfl

theorem checkLocation_of_error {e : Redis.UrlError} (hb : s.backend = .redis)
    (he : Redis.Location.open? s.redisUrl = .error e) : checkLocation s = .error e := by
  rw [checkLocation, hb, he]
  rfl

theorem ofSecs_le_longest {n : Nat} : Duration.ofSecs n ≤ Policy.longest ↔ n ≤ 31536000 := by
  change n * 1000000000 ≤ 31536000 * 1000000000 ↔ n ≤ 31536000
  omega

theorem policyOf?_of_error {e : PolicyError} (h : Policy.make? s.space s.quota (.ofSecs s.windowSecs) = .error e) :
    policyOf? s = .error e := by
  rw [policyOf?, h]
  rfl

theorem policyOf?_of_bounded (h : s.Bounded) :
    ∃ p, policyOf? s = .ok p ∧ p.space = s.space ∧ p.quota = s.quota ∧ p.window = .ofSecs s.windowSecs
      ∧ p.patience = .ofMillis s.patienceMillis := by
  obtain ⟨hq, hshort, hlong⟩ := h
  obtain ⟨p, hp⟩ : ∃ p, Policy.make? s.space s.quota (.ofSecs s.windowSecs) = .ok p :=
    Policy.exists_make?_eq_ok.2 ⟨hq, by rwa [Duration.secs_ofSecs], ofSecs_le_longest.2 hlong⟩
  obtain ⟨hspace, hquota, hwindow, -⟩ := Policy.of_make?_eq_ok hp
  refine ⟨p.withPatience (.ofMillis s.patienceMillis), ?_, hspace, hquota, hwindow, rfl⟩
  rw [policyOf?, hp]
  rfl

theorem gatewayOf?_of_named (h : s.Named) : gatewayOf? s = .ok (s.gateway.bind HeaderName.ofText?) := by
  unfold gatewayOf?
  cases hg : s.gateway with
  | none => rfl
  | some text =>
    obtain ⟨name, hname⟩ := HeaderName.exists_ofText?_eq_some.2 (h text hg)
    simp only [Option.bind_some, hname]

theorem gatewayOf?_of_not_named (h : ¬s.Named) : gatewayOf? s = .error () := by
  simp only [Settings.Named, not_forall] at h
  obtain ⟨text, hg, hspelled⟩ := h
  have hname : HeaderName.ofText? text = none := by
    refine Option.eq_none_iff_forall_ne_some.2 fun name hname => ?_
    exact hspelled (HeaderName.exists_ofText?_eq_some.1 ⟨name, hname⟩)
  simp only [gatewayOf?, hg, hname]

/-! ### The whole set-up -/

/-- A service carries the values of its settings. -/
structure Reflects (svc : Service) (s : Settings) : Prop where
  space : svc.policy.space = s.space
  quota : svc.policy.quota = s.quota
  window : svc.policy.window = .ofSecs s.windowSecs
  patience : svc.policy.patience = .ofMillis s.patienceMillis
  trust : svc.trust = s.trust
  gateway : svc.gateway = s.gateway.bind HeaderName.ofText?
  inProcess : svc.inProcess = true ↔ s.backend = .memory

theorem ofSettings?_of_accepted (h : s.Accepted) : ∃ svc, ofSettings? s = .ok svc ∧ svc.Reflects s := by
  obtain ⟨p, hp, hspace, hquota, hwindow, hpatience⟩ := policyOf?_of_bounded h.bounded
  refine ⟨⟨p, s.trust, s.gateway.bind HeaderName.ofText?, s.backend = .memory⟩, ?_, ?_⟩
  · rw [ofSettings?, checkLocation_of_located h.located, hp, gatewayOf?_of_named h.named]
    rfl
  · exact ⟨hspace, hquota, hwindow, hpatience, rfl, rfl, decide_eq_true_iff⟩

theorem ofSettings?_of_checkLocation {e : Redis.UrlError} (h : checkLocation s = .error e) :
    ofSettings? s = .error (.location e) := by
  rw [ofSettings?, h]
  rfl

theorem ofSettings?_of_policy {e : PolicyError} (hl : s.Located)
    (h : Policy.make? s.space s.quota (.ofSecs s.windowSecs) = .error e) : ofSettings? s = .error (.policy e) := by
  rw [ofSettings?, checkLocation_of_located hl, policyOf?_of_error h]
  rfl

theorem ofSettings?_of_refused {e : SetupError} (h : s.Refused e) : ofSettings? s = .error e := by
  cases h with
  | location hb hl => exact ofSettings?_of_checkLocation (checkLocation_of_error hb hl)
  | zeroQuota hl hq => exact ofSettings?_of_policy hl (Policy.make?_eq_error.2 (.inl ⟨hq, rfl⟩))
  | windowTooShort hl hq hw =>
    refine ofSettings?_of_policy hl (Policy.make?_eq_error.2 (.inr (.inl ⟨by omega, ?_, rfl⟩)))
    rwa [Duration.secs_ofSecs]
  | windowTooLong hl hq hw =>
    refine ofSettings?_of_policy hl (Policy.make?_eq_error.2 (.inr (.inr ⟨by omega, ?_, ?_, rfl⟩)))
    · rw [Duration.secs_ofSecs]
      omega
    · rw [ofSecs_le_longest]
      omega
  | gateway hl hb hn =>
    obtain ⟨p, hp, -⟩ := policyOf?_of_bounded hb
    rw [ofSettings?, checkLocation_of_located hl, hp, gatewayOf?_of_not_named hn]
    rfl

theorem exists_ofSettings?_eq_ok : (∃ svc, ofSettings? s = .ok svc) ↔ s.Accepted := by
  refine ⟨?_, fun h => (ofSettings?_of_accepted h).imp fun _ => And.left⟩
  rintro ⟨svc, h⟩
  rcases s.accepted_or_refused with ha | ⟨e, he⟩
  · exact ha
  · rw [ofSettings?_of_refused he] at h
    cases h

theorem ofSettings?_eq_error {e : SetupError} : ofSettings? s = .error e ↔ s.Refused e := by
  refine ⟨fun h => ?_, ofSettings?_of_refused⟩
  rcases s.accepted_or_refused with ha | ⟨x, hx⟩
  · obtain ⟨svc, hsvc, -⟩ := ofSettings?_of_accepted ha
    rw [hsvc] at h
    cases h
  · rw [ofSettings?_of_refused hx] at h
    obtain rfl := Except.error.inj h
    exact hx

theorem reflects_of_ofSettings? (h : ofSettings? s = .ok svc) : svc.Reflects s := by
  obtain ⟨svc', h', hs⟩ := ofSettings?_of_accepted (exists_ofSettings?_eq_ok.1 ⟨svc, h⟩)
  rw [h] at h'
  obtain rfl := Except.ok.inj h'
  exact hs

end Service

/-! ### What is counted in -/

/-- Every request is counted in the window sets that a handle reaches, and decided upon
their answer. -/
def Handle.Counts [Timer] {σ : Type} (x : Handle σ) (store : CountingStore σ) : Prop :=
  ∀ (p : Policy) (s : σ) (client : Client) (now : Int) (nonce : String),
    let e := p.enforce store s client now nonce
    let r := (x.windows s).hit (p.hitFor client now nonce)
    x.windows e.state = r.1 ∧ e.outcome = r.2.bind (p.verdict now)

namespace Backing

variable [Redis.Decoding] {server : List Redis.Turn} {b : Backend}

theorem isSome_handle? : (ofBackend server b).handle?.isSome = true ↔ b = .memory := by
  cases b <;> simp [ofBackend]

theorem counts_of_handle? [Timer] {x : Handle (ofBackend server b).State} (h : (ofBackend server b).handle? = some x) :
    x.Counts (ofBackend server b).store := by
  cases b with
  | redis => cases h
  | memory =>
    obtain rfl := Option.some.inj h
    intro p w client now nonce
    obtain ⟨houtcome, hstate⟩ := p.enforce_eq w ⟨client, now, nonce⟩
    exact ⟨hstate, houtcome⟩

end Backing

end QuotaGate
