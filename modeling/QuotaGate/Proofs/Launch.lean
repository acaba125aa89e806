/-
Starting, whatever the store does.

A start goes wrong in three ways: settings that cannot be read, settings that make no
service, a port that cannot be had (`Launch.Fails`).  The counting store is not among
them.  A shared store that is not heard from is told of in one more line of the log, and
of all else nothing changes.

* `run_of_unread`, `run_of_refused`, `run_of_accepted` — the three courses of a start;
* `failure_run_eq_some` — how a start ends, whatever the store does;
* `exists_log_run_eq` — the log with and without the store's sign of life.
-/
import QuotaGate.Launch
import QuotaGate.Proofs.Service.Run
import QuotaGate.Proofs.Service.Setup

namespace QuotaGate

theorem LaunchError.exists_report_eq (what : String) (reasons : List String) :
    ∃ why, report (what :: reasons) = "Error: " ++ (what ++ why) := by
  match reasons with
  | [] =>
    simp only [report, String.append_assoc]
    exact ⟨_, rfl⟩
  | [_] =>
    simp only [report, String.append_assoc]
    exact ⟨_, rfl⟩
  | _ :: _ :: _ =>
    simp only [report, String.append_assoc]
    exact ⟨_, rfl⟩

namespace Launch

variable {env : Environment} {s : Settings} {c : Call Unit Unit} {h : Host}

/-- How a start fails: by the first that goes wrong. -/
inductive Fails (env : Environment) (portFree : Bool) : LaunchError → Prop
  | settings {e : SettingsError} (hs : Settings.ofEnvironment? env = .error e) : Fails env portFree (.settings e)
  | setup {s : Settings} {e : SetupError} (hs : Settings.ofEnvironment? env = .ok s) (hr : s.Refused e) :
    Fails env portFree (.setup e)
  | port {s : Settings} (hs : Settings.ofEnvironment? env = .ok s) (ha : s.Accepted) (hp : portFree = false) :
    Fails env portFree .port

/-- A start gets as far as to ask the shared store for a sign of life, and is not given
it. -/
def Unheard (env : Environment) (c : Call Unit Unit) : Prop :=
  ∃ s, Settings.ofEnvironment? env = .ok s ∧ s.Accepted ∧ s.backend = .redis ∧ ¬c.Alive

/-! ### The log -/

/-- What the log says before the store is asked for a sign of life. -/
def opening (s : Settings) : List Log.Event :=
  [starting, loaded s, Service.storeChosen s.backend]

/-- What it says from the port on. -/
def closing (s : Settings) (h : Host) : List Log.Event :=
  if h.portFree then [listening s.port, stopping h.stop] ++ winding ++ [stopped] else []

theorem listening_notMem {log : List Log.Event} (hlog : log ⊆ opening s ++ [unreachable]) (port : Nat) :
    listening port ∉ log := by
  have hmessage : ∀ e ∈ opening s ++ [unreachable], e.message ≠ "Server listening" := by
    simp [opening, starting, loaded, Service.storeChosen, unreachable, event]
  exact fun hmem => hmessage _ (hlog hmem) rfl

/-! ### The sign of life -/

theorem unheard_iff (hs : Settings.ofEnvironment? env = .ok s) (ha : s.Accepted) :
    Unheard env c ↔ s.backend = .redis ∧ ¬c.Alive := by
  constructor
  · rintro ⟨s', hs', -, hb, hc⟩
    rw [hs] at hs'
    obtain rfl := Except.ok.inj hs'
    exact ⟨hb, hc⟩
  · rintro ⟨hb, hc⟩
    exact ⟨s, hs, ha, hb, hc⟩

section

variable [Timer]

theorem firstSign_of_not_alive (hb : s.backend = .redis) (hc : ¬c.Alive) : firstSign s c = [unreachable] := by
  rw [Call.alive_iff] at hc
  simp only [firstSign, hb]
  cases hr : (c.within Service.healthPatience).result with
  | none => rfl
  | some result =>
    cases result with
    | error e => rfl
    | ok u => exact absurd hr hc

theorem firstSign_eq_nil (h : s.backend = .redis → c.Alive) : firstSign s c = [] := by
  rw [firstSign]
  cases hb : s.backend with
  | memory => rfl
  | redis => simp only [Call.alive_iff.1 (h hb)]

/-! ### The courses of a start -/

theorem run_of_unread {e : SettingsError} (hs : Settings.ofEnvironment? env = .error e) (h : Host) :
    run env h = { log := [starting], failure := some (.settings e) } := by
  rw [run, prepare, hs]

theorem run_of_refused {e : SetupError} (hs : Settings.ofEnvironment? env = .ok s) (hr : s.Refused e) :
    ∃ log, log <+: opening s ∧ ∀ h, run env h = { log, failure := some (.setup e) } := by
  have he := Service.ofSettings?_of_refused hr
  -- The store is not named in the log if it cannot be located.
  cases hl : Service.checkLocation s with
  | error x =>
    rw [Service.ofSettings?_of_checkLocation hl] at he
    obtain rfl := Except.error.inj he
    refine ⟨[starting, loaded s], ⟨[Service.storeChosen s.backend], rfl⟩, fun h => ?_⟩
    rw [run, prepare, hs]
    simp only [hl]
  | ok u =>
    refine ⟨opening s, List.prefix_rfl, fun h => ?_⟩
    rw [run, prepare, hs]
    simp only [hl, he]
    rfl

theorem run_of_accepted (hs : Settings.ofEnvironment? env = .ok s) (ha : s.Accepted) (h : Host) :
    run env h =
      { log := opening s ++ firstSign s h.redisPing ++ closing s h
        failure := if h.portFree then none else some .port } := by
  obtain ⟨svc, hsvc, -⟩ := Service.ofSettings?_of_accepted ha
  rw [run, prepare, hs]
  simp only [Service.checkLocation_of_located ha.located, hsvc, closing]
  cases h.portFree <;> simp [opening]

/-! ### How a start ends -/

theorem failure_run_eq_some {e : LaunchError} : (run env h).failure = some e ↔ Fails env h.portFree e := by
  constructor
  · intro hf
    cases hs : Settings.ofEnvironment? env with
    | error x =>
      rw [run_of_unread hs] at hf
      obtain rfl := Option.some.inj hf
      exact .settings hs
    | ok s =>
      rcases s.accepted_or_refused with ha | ⟨x, hr⟩
      · rw [run_of_accepted hs ha] at hf
        by_cases hp : h.portFree
        · simp [hp] at hf
        · obtain rfl : LaunchError.port = e := by simpa [hp] using hf
          exact .port hs ha (Bool.not_eq_true _ ▸ hp)
      · obtain ⟨log, -, hrun⟩ := run_of_refused hs hr
        rw [hrun] at hf
        obtain rfl := Option.some.inj hf
        exact .setup hs hr
  · intro hf
    cases hf with
    | settings hs => rw [run_of_unread hs]
    | setup hs hr =>
      obtain ⟨log, -, hrun⟩ := run_of_refused hs hr
      rw [hrun]
    | port hs ha hp => simp [run_of_accepted hs ha, hp]

theorem listening_notMem_of_failure {e : LaunchError} (hf : (run env h).failure = some e) (port : Nat) :
    listening port ∉ (run env h).log := by
  cases failure_run_eq_some.1 hf with
  | settings hs =>
    rw [run_of_unread hs]
    simp [listening, starting, event]
  | setup hs hr =>
    obtain ⟨log, hlog, hrun⟩ := run_of_refused hs hr
    rw [hrun]
    exact listening_notMem (List.Subset.trans hlog.subset (List.subset_append_left ..)) port
  | @port s hs ha hp =>
    have hsign : firstSign s h.redisPing ⊆ [unreachable] := by
      by_cases hc : s.backend = .redis → h.redisPing.Alive
      · simp [firstSign_eq_nil hc]
      · obtain ⟨hb, hc⟩ := Classical.not_imp.1 hc
        simp [firstSign_of_not_alive hb hc]
    rw [run_of_accepted hs ha]
    simp only [closing, hp, Bool.false_eq_true, if_false, List.append_nil]
    refine listening_notMem (List.append_subset.2 ⟨List.subset_append_left .., ?_⟩) port
    exact List.Subset.trans hsign (List.subset_append_right ..)

theorem exists_log_run_eq (env : Environment) (h : Host) :
    ∃ before after, ∀ c, let r := run env { h with redisPing := c }
      r.failure = (run env h).failure
        ∧ (Unheard env c → r.log = before ++ [unreachable] ++ after) ∧ (¬Unheard env c → r.log = before ++ after) := by
  cases hs : Settings.ofEnvironment? env with
  | error e =>
    refine ⟨[starting], [], fun c => ⟨?_, ?_, ?_⟩⟩
    · rw [run_of_unread hs, run_of_unread hs]
    · rintro ⟨s, hs', -⟩
      rw [hs] at hs'
      cases hs'
    · intro _
      rw [run_of_unread hs]
      rfl
  | ok s =>
    rcases s.accepted_or_refused with ha | ⟨e, hr⟩
    · refine ⟨opening s, closing s h, fun c => ⟨?_, ?_, ?_⟩⟩
      · rw [run_of_accepted hs ha, run_of_accepted hs ha]
      · intro hc
        obtain ⟨hb, hc⟩ := (unheard_iff hs ha).1 hc
        rw [run_of_accepted hs ha, firstSign_of_not_alive hb hc]
        rfl
      · intro hc
        rw [unheard_iff hs ha, not_and_not_right] at hc
        rw [run_of_accepted hs ha, firstSign_eq_nil hc]
        simp [closing]
    · obtain ⟨log, -, hrun⟩ := run_of_refused hs hr
      refine ⟨log, [], fun c => ⟨?_, ?_, ?_⟩⟩
      · rw [hrun, hrun]
      · rintro ⟨s', hs', ha, -⟩
        rw [hs] at hs'
        obtain rfl := Except.ok.inj hs'
        exact absurd hr (ha.not_refused e)
      · intro _
        rw [hrun, List.append_nil]

theorem run_of_no_failure (hf : (run env h).failure = none) :
    ∃ s, Settings.ofEnvironment? env = .ok s ∧ s.Accepted ∧ h.portFree = true
      ∧ (run env h).log
        = opening s ++ firstSign s h.redisPing ++ ([listening s.port, stopping h.stop] ++ winding ++ [stopped]) := by
  have hnot : ∀ e, ¬Fails env h.portFree e := by
    intro e he
    rw [failure_run_eq_some.2 he] at hf
    cases hf
  cases hs : Settings.ofEnvironment? env with
  | error e => exact absurd (.settings hs) (hnot _)
  | ok s =>
    rcases s.accepted_or_refused with ha | ⟨e, hr⟩
    · cases hp : h.portFree with
      | false => exact absurd (.port hs ha hp) (hnot _)
      | true =>
        refine ⟨s, rfl, ha, rfl, ?_⟩
        rw [run_of_accepted hs ha, closing, if_pos hp]
    · exact absurd (.setup hs hr) (hnot _)

/-- **The store has no say in a start.**  Settings make a service just if they have no
fault; the first fault is the one told.  The service carries the values of its settings.
Window sets are within reach just if the store is the one held in the process, and are
then those that its requests are counted in.  The program fails, with an exit code of 1
and before it listens, just if the settings cannot be read, are refused, or the port
cannot be had, in this order.  Otherwise it listens until it is asked to stop, however it
is asked, and ends with an exit code of 0.  Whether a shared store answers a ping, fails
or stalls makes a difference of one line in the log. -/
theorem start_regardless_of_store [Redis.Decoding] (env : Environment) (file : Option String) (h : Host)
    (server : List Redis.Turn) :
    let env' := withFile env file
    let r := launch env file h
    let shown := List.filter (filterOf env').passes
    (∀ s : Settings, ((∃ svc, Service.ofSettings? s = .ok svc) ↔ s.Accepted)
          ∧ (∀ e, Service.ofSettings? s = .error e ↔ s.Refused e)
          ∧ ∀ svc, Service.ofSettings? s = .ok svc →
            let b := Backing.ofBackend server s.backend
            svc.Reflects s ∧ (b.handle?.isSome = true ↔ svc.inProcess = true)
              ∧ ∀ x, b.handle? = some x → x.Counts b.store)
      ∧ (∀ e, r.failure = some e ↔ Fails env' h.portFree e)
      ∧ (∀ e, r.failure = some e → r.exitCode = 1
          ∧ (∃ what reasons why, e.chain = what :: reasons ∧ r.lastWords = "Error: " ++ (what ++ why))
          ∧ ∀ port, listening port ∉ r.log)
      ∧ (r.failure = none → r.exitCode = 0 ∧ r.lastWords = "" ∧ ∃ s earlier, Settings.ofEnvironment? env' = .ok s
          ∧ r.log = earlier ++ shown ([listening s.port, stopping h.stop] ++ winding ++ [stopped]))
      ∧ ∃ before after, ∀ c, let q := launch env file { h with redisPing := c }
        q.failure = r.failure
          ∧ (Unheard env' c → q.log = before ++ shown [unreachable] ++ after)
          ∧ (¬Unheard env' c → q.log = before ++ after) := by
  intro env' r shown
  have hlog : ∀ h, (launch env file h).log = shown (run env' h).log := fun _ => rfl
  have hshown : ∀ xs ys, shown (xs ++ ys) = shown xs ++ shown ys := fun _ _ => List.filter_append ..
  refine ⟨fun s => ⟨Service.exists_ofSettings?_eq_ok, fun e => Service.ofSettings?_eq_error, fun svc hsvc => ?_⟩,
    fun e => failure_run_eq_some, fun e he => ?_, fun hf => ?_, ?_⟩
  · have hreflects := Service.reflects_of_ofSettings? hsvc
    exact ⟨hreflects, Backing.isSome_handle?.trans hreflects.inProcess.symm, fun x hx => Backing.counts_of_handle? hx⟩
  · refine ⟨?_, ?_, fun port hmem => ?_⟩
    · rw [Run.exitCode, he]
      rfl
    · obtain ⟨what, reasons, hchain⟩ : ∃ what reasons, e.chain = what :: reasons := by
        cases e <;> exact ⟨_, _, rfl⟩
      obtain ⟨why, hwhy⟩ := LaunchError.exists_report_eq what reasons
      refine ⟨what, reasons, why, hchain, ?_⟩
      rw [Run.lastWords, he, ← hwhy, ← hchain]
    · exact listening_notMem_of_failure he port (List.mem_filter.1 hmem).1
  · obtain ⟨s, hs, -, -, hrun⟩ := run_of_no_failure hf
    refine ⟨?_, ?_, s, shown (opening s ++ firstSign s h.redisPing), hs, ?_⟩
    · rw [Run.exitCode, hf]
      rfl
    · rw [Run.lastWords, hf]
    · rw [hlog, hrun, hshown]
  · obtain ⟨before, after, hrun⟩ := exists_log_run_eq env' h
    refine ⟨shown before, shown after, fun c => ⟨(hrun c).1, fun hc => ?_, fun hc => ?_⟩⟩
    · rw [hlog, (hrun c).2.1 hc, hshown, hshown]
    · rw [hlog, (hrun c).2.2 hc, hshown]

end

/-- The settings of an environment that says nothing. -/
def defaults : Settings where
  port := 3000
  redisUrl := "redis://127.0.0.1:6379"
  backend := .redis
  space := "ratelimit:"
  quota := 100
  windowSecs := 60
  patienceMillis := 250
  trust := false
  gateway := none

/-- A ping that is never answered. -/
def stalled : Call Unit Unit := ⟨(), none⟩

/-- The same with two faults, of which the location is told. -/
def twiceWrong : Settings :=
  { defaults with redisUrl := "http://127.0.0.1", quota := 0 }

/-- With no settings and no server the program listens, and its log has the one line more. -/
theorem defaults_start :
    Settings.ofEnvironment? .empty = .ok defaults ∧ (∃ svc, Service.ofSettings? defaults = .ok svc)
      ∧ (∃ e, Service.ofSettings? twiceWrong = .error (.location e))
      ∧ Unheard .empty stalled ∧ (launch .empty none ⟨true, stalled, .terminate⟩).exitCode = 0
      ∧ unreachable ∈ (launch .empty none ⟨true, stalled, .terminate⟩).log
      ∧ listening 3000 ∈ (launch .empty none ⟨true, stalled, .terminate⟩).log
      ∧ (launch .empty none ⟨false, stalled, .interrupt⟩).failure = some .port := by
  have hs : Settings.ofEnvironment? .empty = .ok defaults := rfl
  have hopen : (Redis.Location.open? defaults.redisUrl).toBool = true := by decide +kernel
  have hlocated : defaults.Located := by
    cases hl : Redis.Location.open? defaults.redisUrl with
    | ok l => exact .inr ⟨l, hl⟩
    | error e =>
      rw [hl] at hopen
      cases hopen
  have hwrong : (Redis.Location.open? twiceWrong.redisUrl).toBool = false := by decide +kernel
  have ha : defaults.Accepted := ⟨hlocated, ⟨by decide, by decide, by decide⟩, nofun⟩
  obtain ⟨hsettings, hfree, -, hends, before, after, hlines⟩ :=
    start_regardless_of_store .empty none ⟨true, stalled, .terminate⟩ []
  obtain ⟨-, htaken, -⟩ := start_regardless_of_store .empty none ⟨false, stalled, .interrupt⟩ []
  have hlistens : (launch .empty none ⟨true, stalled, .terminate⟩).failure = none := by
    refine Option.eq_none_iff_forall_ne_some.2 fun e he => ?_
    cases (hfree e).1 he with
    | settings hs' => cases hs'
    | setup hs' hr =>
      obtain rfl := Except.ok.inj hs'
      exact ha.not_refused _ hr
    | port _ _ hp => cases hp
  have hunheard : Unheard .empty stalled := by
    refine ⟨defaults, hs, ha, rfl, ?_⟩
    rintro ⟨a, hanswer, -⟩
    cases hanswer
  obtain ⟨hexit, -, s, earlier, hs', hlog⟩ := hends hlistens
  obtain rfl := Except.ok.inj (hs.symm.trans hs')
  -- Neither line is kept from the log by the filter of an environment that asks for none.
  have hshown : (filterOf .empty).passes unreachable ∧ (filterOf .empty).passes (listening 3000) := by decide +kernel
  refine ⟨hs, (hsettings defaults).1.2 ha, ?_, hunheard, hexit, ?_, ?_, (htaken .port).2 (.port hs ha rfl)⟩
  · cases hl : Redis.Location.open? twiceWrong.redisUrl with
    | ok l =>
      rw [hl] at hwrong
      cases hwrong
    | error e => exact ⟨e, ((hsettings twiceWrong).2.1 _).2 (.location rfl hl)⟩
  · have hline : unreachable ∈ List.filter (filterOf .empty).passes [unreachable] :=
      List.mem_filter.2 ⟨List.mem_singleton_self _, hshown.1⟩
    rw [(hlines stalled).2.1 hunheard]
    exact List.mem_append_left _ (List.mem_append_right _ hline)
  · rw [hlog]
    exact List.mem_append_right _ (List.mem_filter.2 ⟨List.mem_cons_self .., hshown.2⟩)

end Launch

end QuotaGate
