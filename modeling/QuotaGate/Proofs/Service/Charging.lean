/-
Whom a request to the limited endpoint is charged to.

A request carries a user, who may be established or named by the gateway's header, or it comes
from an address, which trusted forwarding headers may name in place of the peer's own
(`Charged`).  Of a header the first value counts, and this only if it may be read and is more
than blanks; a value that does not count is as if its header were not there, and nothing else
takes its place.

* `Headers.firstText?_eq_some_iff` — the text of a header, by its bytes;
* `Attribution.user?_eq_some_iff`, `Attribution.address_eq_iff` — the user and the address of a
  request;
* `Service.key_client_eq_iff` — the key that it is counted under;
* `Service.ping_charged` — the hit of a request is on this key.
-/
import QuotaGate.Proofs.Service.Channels
import QuotaGate.Proofs.Service.Patience
import QuotaGate.Proofs.Trimming

namespace QuotaGate

/-! ### The text of a header -/

theorem HeaderValue.text?_eq_some_iff {v : HeaderValue} {s : String} :
    v.text? = some s ↔ (∀ b ∈ v, b = 0x09 ∨ 0x20 ≤ b ∧ b ≤ 0x7e) ∧ s.toList = v.map fun b => Char.ofNat b.toNat := by
  have hreadable : v.all isReadable ↔ ∀ b ∈ v, b = 0x09 ∨ 0x20 ≤ b ∧ b ≤ 0x7e := by
    simp [isReadable, or_comm]
  rw [text?, ← hreadable]
  split
  · rename_i h
    rw [and_iff_right h, Option.some.injEq, ← String.toList_inj, String.toList_ofList, eq_comm]
  · rename_i h
    exact iff_of_false nofun fun hall => h hall.1

namespace Headers

variable {hs : Headers} {n : HeaderName}

/-- The first value of the name `n` is all printable characters of ASCII and tabs, namely
`cs`. -/
def Says (hs : Headers) (n : HeaderName) (cs : List Char) : Prop :=
  ∃ before v after, hs = before ++ (n, v) :: after ∧ (∀ f ∈ before, f.1 ≠ n)
    ∧ (∀ b ∈ v, b = 0x09 ∨ 0x20 ≤ b ∧ b ≤ 0x7e) ∧ cs = v.map fun b => Char.ofNat b.toNat

theorem first?_eq_some_iff {v : HeaderValue} :
    hs.first? n = some v ↔ ∃ before after, hs = before ++ (n, v) :: after ∧ ∀ f ∈ before, f.1 ≠ n := by
  rw [first?, all, List.head?_map, List.head?_filter, Option.map_eq_some_iff]
  simp only [List.find?_eq_some_iff_append]
  constructor
  · rintro ⟨⟨n', v'⟩, ⟨hn, before, after, rfl, hbefore⟩, rfl⟩
    obtain rfl := of_decide_eq_true hn
    exact ⟨before, after, rfl, fun f hf => by simpa using hbefore f hf⟩
  · rintro ⟨before, after, rfl, hbefore⟩
    exact ⟨(n, v), ⟨decide_eq_true rfl, before, after, rfl, fun f hf => by simpa using hbefore f hf⟩, rfl⟩

theorem firstText?_eq_some_iff {s : String} : hs.firstText? n = some s ↔ hs.Says n s.toList := by
  simp only [firstText?, Option.bind_eq_some_iff, first?_eq_some_iff, HeaderValue.text?_eq_some_iff]
  constructor
  · rintro ⟨v, ⟨before, after, hsplit, hbefore⟩, hreadable, htext⟩
    exact ⟨before, v, after, hsplit, hbefore, hreadable, htext⟩
  · rintro ⟨before, v, after, hsplit, hbefore, hreadable, htext⟩
    exact ⟨v, ⟨before, after, hsplit, hbefore⟩, hreadable, htext⟩

/-- What is said of the text of a header, by its characters. -/
theorem exists_firstText? {P : List Char → Prop} :
    (∃ s, hs.firstText? n = some s ∧ P s.toList) ↔ ∃ cs, hs.Says n cs ∧ P cs := by
  constructor
  · rintro ⟨s, htext, hP⟩
    exact ⟨s.toList, firstText?_eq_some_iff.1 htext, hP⟩
  · rintro ⟨cs, hcs, hP⟩
    exact ⟨String.ofList cs, firstText?_eq_some_iff.2 (by rwa [String.toList_ofList]), by rwa [String.toList_ofList]⟩

/-- The fields less those of the name `n`. -/
def without (hs : Headers) (n : HeaderName) : Headers :=
  hs.filter fun f => f.1 ≠ n

theorem first?_without_self : (hs.without n).first? n = none := by
  simp [first?, all, without, List.filter_filter]

theorem first?_without_of_ne {k : HeaderName} (h : k ≠ n) : (hs.without n).first? k = hs.first? k := by
  have hfilter : (hs.filter fun f => f.1 ≠ n).filter (fun f => f.1 = k) = hs.filter fun f => f.1 = k := by
    rw [List.filter_filter]
    refine List.filter_congr fun f _ => ?_
    by_cases hf : f.1 = k
    · simp [hf, h]
    · simp [hf]
  rw [first?, first?, all, all, without, hfilter]

end Headers

/-! ### The user and the address of a request -/

namespace Attribution

variable {hs : Headers} {n : HeaderName}

/-- The text `cs` is `id` but for blanks at its ends, and not blank. -/
def Yields (cs : List Char) (id : String) : Prop :=
  id ≠ "" ∧ Text.Trims cs id.toList

/-- The first value of the name `n` is `id` but for blanks at its ends. -/
def Named (hs : Headers) (n : HeaderName) (id : String) : Prop :=
  ∃ cs, hs.Says n cs ∧ Yields cs id

/-- The text `hop` is all of `chain`, or all before its first comma. -/
def IsFirstHop (chain hop : List Char) : Prop :=
  ',' ∉ hop ∧ (chain = hop ∨ ∃ later, chain = hop ++ ',' :: later)

/-- The first hop of the forwarding chain is `a` but for blanks at its ends. -/
def Forwarded (hs : Headers) (a : String) : Prop :=
  ∃ chain hop, hs.Says forwardedFor chain ∧ IsFirstHop chain hop ∧ Yields hop a

/-- The forwarding headers give the address `a`: the chain does, or does not give any and the
real address is `a`. -/
inductive Relayed (hs : Headers) : String → Prop
  | chain {a : String} (h : Forwarded hs a) : Relayed hs a
  | real {a : String} (hchain : ∀ b, ¬Forwarded hs b) (h : Named hs realIp a) : Relayed hs a

/-- The address behind a request is `a`: trusted forwarding headers give it, or they give none
and it is the peer's own, without the port. -/
inductive Behind (trust : Bool) (peer : Option SocketAddress) (hs : Headers) : String → Prop
  | relayed {a : String} (ht : trust = true) (h : Relayed hs a) : Behind trust peer hs a
  | direct {p : SocketAddress} (hno : trust = true → ∀ a, ¬Relayed hs a) (hp : peer = some p) :
      Behind trust peer hs p.ip.text
  | unknown (hno : trust = true → ∀ a, ¬Relayed hs a) (hp : peer = none) : Behind trust peer hs "unknown"

/-- The user of a request is `u`: the established one, even one without a name; or none is, and
the gateway's header names `u`. -/
inductive Identified (gateway : Option HeaderName) (r : Request) : String → Prop
  | established {u : String} (h : r.user = some u) : Identified gateway r u
  | named {name : HeaderName} {u : String} (hnone : r.user = none) (hg : gateway = some name)
      (h : Named r.headers name u) : Identified gateway r u

theorem nonBlank?_eq_some_iff {s id : String} : nonBlank? s = some id ↔ Yields s.toList id := by
  rw [nonBlank?, Yields, ← Text.trim_eq_iff]
  split
  · rename_i hempty
    refine iff_of_false nofun ?_
    rintro ⟨hne, rfl⟩
    exact hne (String.isEmpty_iff.1 hempty)
  · rename_i hempty
    rw [Option.some.injEq]
    refine ⟨fun h => ⟨?_, h⟩, And.right⟩
    rintro rfl
    exact hempty (String.isEmpty_iff.2 h)

theorem named_iff {id : String} : (hs.firstText? n).bind nonBlank? = some id ↔ Named hs n id := by
  simp only [Option.bind_eq_some_iff, nonBlank?_eq_some_iff]
  exact Headers.exists_firstText? (P := fun cs => Yields cs id)

theorem isFirstHop_iff {chain hop : List Char} : IsFirstHop chain hop ↔ chain.takeWhile (· ≠ ',') = hop := by
  constructor
  · rintro ⟨hcomma, hchain⟩
    have hhop : ∀ c ∈ hop, decide (c ≠ ',') = true := fun c hc => decide_eq_true (ne_of_mem_of_not_mem hc hcomma)
    rcases hchain with rfl | ⟨later, rfl⟩
    · exact List.takeWhile_eq_self_iff.2 hhop
    · rw [List.takeWhile_append_of_pos hhop]
      simp
  · rintro rfl
    refine ⟨fun hcomma => ?_, ?_⟩
    · have := List.mem_takeWhile_imp hcomma
      simp at this
    · have hsplit := List.takeWhile_append_dropWhile (p := fun c => decide (c ≠ ',')) (l := chain)
      cases hdrop : chain.dropWhile fun c => decide (c ≠ ',') with
      | nil =>
        rw [hdrop, List.append_nil] at hsplit
        exact .inl hsplit.symm
      | cons c later =>
        -- It is a comma that ends the hop.
        have hcomma : c = ',' := by
          have := List.head?_dropWhile_not (fun c => decide (c ≠ ',')) chain
          rw [hdrop] at this
          simpa using this
        rw [hdrop, hcomma] at hsplit
        exact .inr ⟨later, hsplit.symm⟩

theorem forwarded_iff {a : String} :
    ((hs.firstText? forwardedFor).bind fun chain => nonBlank? (firstHop chain)) = some a ↔ Forwarded hs a := by
  simp only [Option.bind_eq_some_iff, nonBlank?_eq_some_iff, firstHop, String.toList_ofList]
  rw [Headers.exists_firstText? (P := fun cs => Yields (cs.takeWhile (· ≠ ',')) a)]
  simp only [Forwarded, isFirstHop_iff]
  constructor
  · rintro ⟨chain, hchain, ha⟩
    exact ⟨chain, _, hchain, rfl, ha⟩
  · rintro ⟨chain, hop, hchain, rfl, ha⟩
    exact ⟨chain, hchain, ha⟩

theorem forwarded?_eq_some_iff {a : String} : forwarded? hs = some a ↔ Relayed hs a := by
  have hnone : ((hs.firstText? forwardedFor).bind fun chain => nonBlank? (firstHop chain)) = none
      ↔ ∀ b, ¬Forwarded hs b := by
    simp only [← forwarded_iff]
    exact Option.eq_none_iff_forall_ne_some
  rw [forwarded?, Option.or_eq_some_iff, forwarded_iff, named_iff, hnone]
  constructor
  · rintro (h | ⟨hchain, h⟩)
    · exact .chain h
    · exact .real hchain h
  · rintro (h | ⟨hchain, h⟩)
    · exact .inl h
    · exact .inr ⟨hchain, h⟩

theorem forwarded?_eq_none_iff : forwarded? hs = none ↔ ∀ a, ¬Relayed hs a := by
  simp only [← forwarded?_eq_some_iff]
  exact Option.eq_none_iff_forall_ne_some

theorem address_of_relayed {a : String} (h : Relayed hs a) (peer : Option SocketAddress) : address true peer hs = a := by
  simp only [address, if_true, forwarded?_eq_some_iff.2 h, Option.getD_some]

theorem address_eq_iff {trust : Bool} {peer : Option SocketAddress} {a : String} :
    address trust peer hs = a ↔ Behind trust peer hs a := by
  -- Where nothing is relayed, trust makes no difference.
  have hdirect : (trust = true → ∀ b, ¬Relayed hs b) → address trust peer hs = address false peer hs := by
    intro hno
    cases trust with
    | false => rfl
    | true =>
      have hnone := forwarded?_eq_none_iff.2 (hno rfl)
      simp only [address, if_true, hnone, Option.getD_none, Bool.false_eq_true, if_false]
  constructor
  · rintro rfl
    by_cases hrelayed : trust = true ∧ ∃ a, Relayed hs a
    · obtain ⟨ht, a, ha⟩ := hrelayed
      rw [ht, address_of_relayed ha peer]
      exact .relayed rfl ha
    · have hno : trust = true → ∀ a, ¬Relayed hs a := fun ht a ha => hrelayed ⟨ht, a, ha⟩
      rw [hdirect hno]
      cases peer with
      | some p => exact .direct hno rfl
      | none => exact .unknown hno rfl
  · intro h
    cases h with
    | relayed ht h => rw [ht, address_of_relayed h peer]
    | direct hno hp =>
      subst hp
      exact hdirect hno
    | unknown hno hp =>
      subst hp
      exact hdirect hno

theorem user?_eq_some_iff {gateway : Option HeaderName} {r : Request} {u : String} :
    user? gateway r = some u ↔ Identified gateway r u := by
  rw [user?]
  cases hr : r.user with
  | some id =>
    constructor
    · intro h
      exact .established (hr.trans h)
    · rintro (h | ⟨hnone, -, -⟩)
      · exact hr.symm.trans h
      · rw [hr] at hnone
        cases hnone
  | none =>
    dsimp only
    rw [Option.bind_eq_some_iff]
    constructor
    · rintro ⟨name, hg, h⟩
      exact .named hr hg (named_iff.1 h)
    · rintro (h | ⟨-, hg, h⟩)
      · rw [hr] at h
        cases h
      · exact ⟨_, hg, named_iff.2 h⟩

/-! ### Ids that come from headers -/

theorem Yields.tight {cs : List Char} {id : String} (h : Yields cs id) : id ≠ "" ∧ Text.Tight id.toList := by
  obtain ⟨hne, front, back, -, -, -, ht⟩ := h
  exact ⟨hne, ht⟩

theorem Named.tight {id : String} (h : Named hs n id) : id ≠ "" ∧ Text.Tight id.toList := by
  obtain ⟨cs, -, hid⟩ := h
  exact hid.tight

theorem Forwarded.tight {a : String} (h : Forwarded hs a) : (a ≠ "" ∧ Text.Tight a.toList) ∧ ',' ∉ a.toList := by
  obtain ⟨chain, hop, -, ⟨hcomma, -⟩, ha⟩ := h
  refine ⟨ha.tight, fun hmem => hcomma ?_⟩
  obtain ⟨-, front, back, hhop, -⟩ := ha
  rw [hhop]
  exact List.mem_append_left _ (List.mem_append_right _ hmem)

/-- Nothing is left of blanks. -/
theorem not_yields_of_blank {cs : List Char} (h : ∀ c ∈ cs, Text.isBlank c) (id : String) : ¬Yields cs id := by
  rintro ⟨hne, front, back, rfl, -, -, ht⟩
  cases hid : id.toList with
  | nil => exact hne (String.toList_eq_nil_iff.1 hid)
  | cons c cs =>
    have hc : c ∈ front ++ id.toList ++ back := by simp [hid]
    exact ht.head c (by rw [hid]; rfl) (h c hc)

/-- A blank first hop counts as no chain at all, whatever hops or values come after it. -/
theorem forwarded?_without {chain hop : List Char} (hchain : hs.Says forwardedFor chain) (hhop : IsFirstHop chain hop)
    (hblank : ∀ c ∈ hop, Text.isBlank c) : forwarded? (hs.without forwardedFor) = forwarded? hs := by
  have hsays : hs.firstText? forwardedFor = some (String.ofList chain) :=
    Headers.firstText?_eq_some_iff.2 (by rwa [String.toList_ofList])
  have hnone : nonBlank? (firstHop (String.ofList chain)) = none := by
    rw [Option.eq_none_iff_forall_ne_some]
    intro a ha
    rw [nonBlank?_eq_some_iff, firstHop, String.toList_ofList, String.toList_ofList, isFirstHop_iff.1 hhop] at ha
    exact not_yields_of_blank hblank a ha
  have hself : (hs.without forwardedFor).firstText? forwardedFor = none := by
    rw [Headers.firstText?, Headers.first?_without_self]
    rfl
  have hreal : (hs.without forwardedFor).firstText? realIp = hs.firstText? realIp :=
    Headers.firstText?_congr (Headers.first?_without_of_ne (by decide))
  rw [forwarded?, forwarded?, hself, hsays, hreal, Option.bind_none, Option.bind_some, hnone]

theorem behind_without_iff {chain hop : List Char} (hchain : hs.Says forwardedFor chain) (hhop : IsFirstHop chain hop)
    (hblank : ∀ c ∈ hop, Text.isBlank c) {trust : Bool} {peer : Option SocketAddress} {a : String} :
    Behind trust peer (hs.without forwardedFor) a ↔ Behind trust peer hs a := by
  simp only [← address_eq_iff, address, forwarded?_without hchain hhop hblank]

/-- What goes for the ids that headers give. -/
structure Tidy (hs : Headers) : Prop where
  named : ∀ n id, Named hs n id → id ≠ "" ∧ Text.Tight id.toList
  forwarded : ∀ a, Forwarded hs a → (a ≠ "" ∧ Text.Tight a.toList) ∧ ',' ∉ a.toList
  /-- A blank first hop counts as no chain at all. -/
  blankHop : ∀ chain hop, hs.Says forwardedFor chain → IsFirstHop chain hop → (∀ c ∈ hop, Text.isBlank c) →
    ∀ trust peer a, Behind trust peer (hs.without forwardedFor) a ↔ Behind trust peer hs a

theorem tidy (hs : Headers) : Tidy hs where
  named _ _ := Named.tight
  forwarded _ := Forwarded.tight
  blankHop _ _ hchain hhop hblank _ _ _ := behind_without_iff hchain hhop hblank

end Attribution

/-! ### The key of a request -/

namespace Service

variable {σ : Type} {req : Request}

/-- The key that a request is counted under: of its user if there is one, else of the address
behind it. -/
inductive Charged (svc : Service) (req : Request) : String → Prop
  | user {u : String} (h : Attribution.Identified svc.gateway req u) : Charged svc req (svc.policy.space ++ "user:" ++ u)
  | address {a : String} (hno : ∀ u, ¬Attribution.Identified svc.gateway req u)
      (h : Attribution.Behind svc.trust req.peer req.headers a) : Charged svc req (svc.policy.space ++ "ip:" ++ a)

theorem key_client_eq_iff {svc : Service} {key : String} :
    (Attribution.client svc.gateway svc.trust req).key svc.policy.space = key ↔ svc.Charged req key := by
  have hkey : ∀ space kind value : String, space ++ kind ++ ":" ++ value = space ++ (kind ++ ":") ++ value :=
    fun _ _ _ => congrArg (· ++ _) String.append_assoc
  have huser : ∀ u, Attribution.Identified svc.gateway req u →
      (Attribution.client svc.gateway svc.trust req).key svc.policy.space = svc.policy.space ++ "user:" ++ u := by
    intro u hu
    rw [Attribution.client, Attribution.user?_eq_some_iff.2 hu]
    exact hkey ..
  have haddress : ∀ a, (∀ u, ¬Attribution.Identified svc.gateway req u) →
      Attribution.Behind svc.trust req.peer req.headers a →
      (Attribution.client svc.gateway svc.trust req).key svc.policy.space = svc.policy.space ++ "ip:" ++ a := by
    intro a hno ha
    have hnone : Attribution.user? svc.gateway req = none := by
      simpa only [Option.eq_none_iff_forall_ne_some, ne_eq, Attribution.user?_eq_some_iff] using hno
    rw [Attribution.client, hnone, Attribution.address_eq_iff.2 ha]
    exact hkey ..
  constructor
  · rintro rfl
    by_cases hid : ∃ u, Attribution.Identified svc.gateway req u
    · obtain ⟨u, hu⟩ := hid
      rw [huser u hu]
      exact .user hu
    · have hno := not_exists.1 hid
      have ha := Attribution.address_eq_iff.1 (rfl : Attribution.address svc.trust req.peer req.headers = _)
      rw [haddress _ hno ha]
      exact .address hno ha
  · intro h
    cases h with
    | user hu => exact huser _ hu
    | address hno ha => exact haddress _ hno ha

/-- **The bucket is the client's own.**  A request to the limited endpoint is one hit, on the key
of the user or the address that the request says; at a moment that cannot be told there is no
hit.  An id that a header gives is not empty and has no blanks at its ends, a first hop has no
comma, and a blank one is not made up for by another. -/
theorem ping_charged [Timer] (svc : Service) (store : CountingStore σ) (r : Running (Audited σ)) (m : Clock.Moment)
    (nonce : String) (elapsed : Duration) (hp : req.path = "/api/ping") :
    let out := svc.respond store.audited r m nonce elapsed req
    (∀ now, m.read = .ok now → ∃ h rest, out.2.store.record = r.store.record ++ .hit h :: rest
        ∧ (rest = [] ∨ rest = [.timeout]) ∧ ∀ key, h.key = key ↔ svc.Charged req key)
      ∧ (∀ x, m.read = .error x → out.2.store.record = r.store.record)
      ∧ Attribution.Tidy req.headers := by
  intro out
  refine ⟨fun now hm => ?_, fun x hm => ?_, Attribution.tidy req.headers⟩
  · obtain ⟨-, hstore⟩ := svc.respond_ping_eq store.audited r nonce elapsed hm hp
    let i : Inquiry := .enforce ⟨Attribution.client svc.gateway svc.trust req, now, nonce⟩
    have hrecord : out.2.store.record = r.store.record ++ (i.make svc.policy store r.store).contacts svc.policy store :=
      (congrArg Audited.record hstore).trans (i.disciplined_make svc.policy store r.store).record
    rw [Episode.contacts] at hrecord
    refine ⟨svc.policy.hitFor (Attribution.client svc.gateway svc.trust req) now nonce, ?_⟩
    split at hrecord
    · exact ⟨[.timeout], hrecord, .inr rfl, fun key => key_client_eq_iff⟩
    · exact ⟨[], hrecord, .inl rfl, fun key => key_client_eq_iff⟩
  · exact congrArg (·.2.store.record) (svc.respond_of_unreadable store.audited r nonce elapsed hm hp)

/-- A request by way of a proxy, with a user that cannot be read, and with later values that do
not count. -/
def relayedRequest : Request where
  method := "POST"
  target := "/api/ping?x"
  headers :=
    [(⟨"x-user"⟩, [0xff]), (Attribution.forwardedFor, .ofAscii "\t198.51.100.1 ,10.0.0.2"),
      (⟨"x-user"⟩, .ofAscii "7"), (Attribution.forwardedFor, .ofAscii "192.0.2.1")]
  peer := none
  user := none

theorem relayedRequest_charged :
    relayedRequest.path = "/api/ping" ∧ ∃ h rest,
      (gated.respond Windows.store.audited ⟨⟨[], .empty⟩, .fresh⟩ ⟨1700000000, 0⟩ "x" .zero
          relayedRequest).2.store.record = .hit h :: rest
        ∧ h.key = "g:ip:198.51.100.1" := by
  have hp : relayedRequest.path = "/api/ping" := by decide
  obtain ⟨hhit, -, -⟩ := gated.ping_charged Windows.store ⟨⟨[], .empty⟩, .fresh⟩ ⟨1700000000, 0⟩ "x" .zero hp
  obtain ⟨h, rest, hrecord, -, hkey⟩ := hhit 1700000000 (by decide)
  have hanonymous : Attribution.user? gated.gateway relayedRequest = none := by decide
  have hforwarded : Attribution.forwarded? relayedRequest.headers = some "198.51.100.1" := by decide
  have hno : ∀ u, ¬Attribution.Identified gated.gateway relayedRequest u := by
    intro u hu
    rw [← Attribution.user?_eq_some_iff, hanonymous] at hu
    cases hu
  have hcharged := (hkey _).2 (.address hno (.relayed rfl (Attribution.forwarded?_eq_some_iff.1 hforwarded)))
  exact ⟨hp, h, rest, hrecord, hcharged.trans (by decide)⟩

end Service

end QuotaGate
