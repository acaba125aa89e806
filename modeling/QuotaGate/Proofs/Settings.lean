/-
Which environments give settings, and which settings.

Of the nine variables four are numbers and one names the backend; only these can be at fault.
An environment gives settings just if each of the five is unset or spelled as it must be
(`Readable`), and then the settings are told by the texts of the variables (`Reads`).  Of any
other the first fault is told, in the order in which the variables are read (`FirstFault`).

* `Environment.text?_eq_some_iff` — a variable has the text whose bytes it is set to, and none if
  these are of no text;
* `Gives`, `Spelled`, `Misspelled` — one variable: what it stands for, and when it is at fault;
* `ofEnvironment?_eq_ok_iff`, `ofEnvironment?_eq_error_iff` — all of them together;
* `reads_environment_iff` — settings spelled out, number by number in decimal, are read back if
  their numbers have the widths of the variables;
* `SettingsError.names_about` — a message begins with the variable that it is about.
-/
import Mathlib.Algebra.Group.Nat.Defs
import QuotaGate.Proofs.Numeral
import QuotaGate.Proofs.Trimming
import QuotaGate.Settings

namespace QuotaGate

/-! ### Texts of variables -/

namespace Text

theorem toList_loop (bytes : ByteArray) (i : Nat) (front : List UInt8) :
    ByteArray.toList.loop bytes i front = front.reverse ++ bytes.data.toList.drop i := by
  fun_induction ByteArray.toList.loop bytes i front with
  | case1 i front h ih =>
    have hi : i < bytes.data.toList.length := h
    rw [ih, List.drop_eq_getElem_cons hi, List.reverse_cons, List.append_assoc, List.singleton_append]
    congr 2
    show bytes.data[i]! = _
    rw [getElem!_pos bytes.data i h]
    rfl
  | case2 i front h =>
    have hi : bytes.data.toList.length ≤ i := Nat.not_lt.1 h
    rw [List.drop_eq_nil_of_le hi, List.append_nil]

theorem toUtf8_eq (s : String) : toUtf8 s = s.toUTF8.data.toList := by
  rw [toUtf8, ByteArray.toList, toList_loop, List.reverse_nil, List.nil_append, List.drop_zero]

theorem ofUtf8?_eq_some_iff {bytes : List UInt8} {s : String} : ofUtf8? bytes = some s ↔ bytes = toUtf8 s := by
  rw [ofUtf8?, String.fromUTF8?, toUtf8_eq]
  constructor
  · intro h
    split at h
    · obtain rfl := Option.some.inj h
      rfl
    · cases h
  · rintro rfl
    exact dif_pos s.isValidUTF8

end Text

namespace Environment

theorem text?_eq_some_iff {env : Environment} {name text : String} :
    env.text? name = some text ↔ env.value? name = some (Text.toUtf8 text) := by
  simp only [text?, Option.bind_eq_some_iff, Text.ofUtf8?_eq_some_iff, exists_eq_right]

/-- The environment that sets each name of the list to its first text there. -/
def ofTexts (pairs : List (String × String)) : Environment :=
  .ofList (pairs.map fun p => (p.1, Text.toUtf8 p.2))

theorem text?_ofTexts (pairs : List (String × String)) (name : String) : (ofTexts pairs).text? name = pairs.lookup name := by
  induction pairs with
  | nil => rfl
  | cons p pairs ih =>
    obtain ⟨n, text⟩ := p
    rw [text?, ofTexts, ofList] at ih ⊢
    dsimp only at ih ⊢
    rw [List.map_cons, List.lookup_cons, List.lookup_cons]
    cases name == n with
    | true => exact Text.ofUtf8?_eq_some_iff.2 rfl
    | false => exact ih

end Environment

namespace Settings

/-! ### One variable -/

section

variable {α ε : Type} {env : Environment} {name : String} {default : α} {parse : String → Except ε α}
  {Spells : String → α → Prop} {Misspells : String → ε → Prop}

/-- What a variable stands for: the default if it is unset, and else what its text spells. -/
inductive Gives (env : Environment) (name : String) (default : α) (Spells : String → α → Prop) : α → Prop
  | unset (h : env.text? name = none) : Gives env name default Spells default
  | set {text : String} {a : α} (h : env.text? name = some text) (ha : Spells text a) : Gives env name default Spells a

/-- If the variable is set, its text spells something. -/
def Spelled (env : Environment) (name : String) (Spells : String → α → Prop) : Prop :=
  ∀ text, env.text? name = some text → ∃ a, Spells text a

/-- The variable is set to a text with the fault. -/
def Misspelled (env : Environment) (name : String) (Misspells : String → ε → Prop) (e : ε) : Prop :=
  ∃ text, env.text? name = some text ∧ Misspells text e

theorem gives_of_set {text : String} (h : env.text? name = some text) {a : α} :
    Gives env name default Spells a ↔ Spells text a := by
  constructor
  · intro ha
    cases ha with
    | unset hnone => cases h.symm.trans hnone
    | set hset ha =>
      obtain rfl := Option.some.inj (h.symm.trans hset)
      exact ha
  · exact .set h

theorem elim_eq_ok_iff (hok : ∀ {text a}, parse text = .ok a ↔ Spells text a) {a : α} :
    (env.text? name).elim (.ok default) parse = .ok a ↔ Gives env name default Spells a := by
  cases h : env.text? name with
  | none =>
    constructor
    · intro ha
      obtain rfl := Except.ok.inj ha
      exact .unset h
    · intro ha
      cases ha with
      | unset _ => rfl
      | set hset _ => cases h.symm.trans hset
  | some text => rw [Option.elim_some, gives_of_set h, hok]

theorem elim_eq_error_iff (herror : ∀ {text e}, parse text = .error e ↔ Misspells text e) {e : ε} :
    (env.text? name).elim (.ok default) parse = .error e ↔ Misspelled env name Misspells e := by
  rw [Misspelled]
  cases env.text? name with
  | none => exact iff_of_false nofun fun ⟨_, h, _⟩ => nomatch h
  | some text =>
    rw [Option.elim_some, herror]
    constructor
    · intro h
      exact ⟨text, rfl, h⟩
    · rintro ⟨_, hset, h⟩
      obtain rfl := Option.some.inj hset
      exact h

theorem exists_gives_iff : (∃ a, Gives env name default Spells a) ↔ Spelled env name Spells := by
  cases htext : env.text? name with
  | none =>
    refine iff_of_true ⟨default, .unset htext⟩ fun text hset => ?_
    cases htext.symm.trans hset
  | some text =>
    simp only [gives_of_set htext, Spelled, htext, Option.some.injEq, forall_eq']

end

variable {env : Environment} {name : String} {bits default : Nat}

/-! ### Numbers -/

/-- A numeral of at most so many bits. -/
def IsNumber (bits : Nat) (text : String) (n : Nat) : Prop :=
  Numeral.Denotes text.toList n ∧ n < 2 ^ bits

/-- No such numeral, for this reason. -/
def IsNoNumber (bits : Nat) (text : String) (f : Numeral.Fault) : Prop :=
  Numeral.Faulty (2 ^ bits - 1) text.toList f

theorem natUpTo_bits_eq_ok_iff {text : String} {n : Nat} :
    Numeral.natUpTo ((1 <<< bits) - 1) text.toList = .ok n ↔ IsNumber bits text n := by
  have hpos : 0 < 2 ^ bits := Nat.two_pow_pos bits
  rw [Numeral.natUpTo_eq_ok_iff, Nat.one_shiftLeft, Nat.le_sub_one_iff_lt hpos, IsNumber]

theorem natUpTo_bits_eq_error_iff {text : String} {f : Numeral.Fault} :
    Numeral.natUpTo ((1 <<< bits) - 1) text.toList = .error f ↔ IsNoNumber bits text f := by
  rw [Numeral.natUpTo_eq_error_iff, Nat.one_shiftLeft, IsNoNumber]

theorem number?_eq_elim : number? env name bits default
    = (env.text? name).elim (.ok default) fun text => Numeral.natUpTo ((1 <<< bits) - 1) text.toList := by
  rw [number?]
  cases env.text? name <;> rfl

theorem number?_eq_ok_iff {n : Nat} : number? env name bits default = .ok n ↔ Gives env name default (IsNumber bits) n := by
  rw [number?_eq_elim, elim_eq_ok_iff natUpTo_bits_eq_ok_iff]

theorem number?_eq_error_iff {f : Numeral.Fault} :
    number? env name bits default = .error f ↔ Misspelled env name (IsNoNumber bits) f := by
  rw [number?_eq_elim, elim_eq_error_iff natUpTo_bits_eq_error_iff]

/-! ### Words -/

/-- The text is the word, but for blanks at its ends and for capitals. -/
def Says (text word : String) : Prop :=
  ∃ t : String, Text.Trims text.toList t.toList ∧ Text.lower t = word

theorem says_iff {text word : String} : Says text word ↔ Text.lower (Text.trim text) = word := by
  constructor
  · rintro ⟨t, ht, rfl⟩
    rw [Text.trim_eq_iff.2 ht]
  · rintro rfl
    exact ⟨_, Text.trim_eq_iff.1 rfl, rfl⟩

/-- The word for a backend. -/
def wordOf : Backend → String
  | .redis => "redis"
  | .memory => "memory"

/-- The text names the backend. -/
def IsBackend (text : String) (b : Backend) : Prop :=
  Says text (wordOf b)

/-- The text says a word that is of no backend. -/
def IsNoBackend (text word : String) : Prop :=
  Says text word ∧ ∀ b, word ≠ wordOf b

theorem ofText?_eq_ok_iff {text : String} {b : Backend} : Backend.ofText? text = .ok b ↔ IsBackend text b := by
  have hne : "redis" ≠ "memory" := by decide
  rw [IsBackend, says_iff, Backend.ofText?]
  split
  · rename_i hredis
    rw [hredis]
    cases b <;> simp [wordOf, hne]
  · rename_i hredis
    split
    · rename_i hmemory
      rw [hmemory]
      cases b <;> simp [wordOf, hne.symm]
    · rename_i hmemory
      cases b <;> simp [wordOf, hredis, hmemory]

theorem ofText?_eq_error_iff {text word : String} : Backend.ofText? text = .error word ↔ IsNoBackend text word := by
  rw [IsNoBackend, says_iff, Backend.ofText?]
  split
  · rename_i hredis
    refine iff_of_false nofun ?_
    rintro ⟨rfl, hno⟩
    exact hno .redis hredis
  · rename_i hredis
    split
    · rename_i hmemory
      refine iff_of_false nofun ?_
      rintro ⟨rfl, hno⟩
      exact hno .memory hmemory
    · rename_i hmemory
      constructor
      · intro h
        obtain rfl := Except.error.inj h
        refine ⟨rfl, fun b => ?_⟩
        cases b with
        | redis => exact hredis
        | memory => exact hmemory
      · rintro ⟨rfl, -⟩
        rfl

theorem backend?_eq_elim : backend? env = (env.text? "RATE_LIMIT_BACKEND").elim (.ok .redis) Backend.ofText? := by
  rw [backend?]
  cases env.text? "RATE_LIMIT_BACKEND" with
  | none => rfl
  | some text => rw [Option.elim_some]

theorem backend?_eq_ok_iff {b : Backend} : backend? env = .ok b ↔ Gives env "RATE_LIMIT_BACKEND" .redis IsBackend b := by
  rw [backend?_eq_elim, elim_eq_ok_iff ofText?_eq_ok_iff]

theorem backend?_eq_error_iff {word : String} :
    backend? env = .error word ↔ Misspelled env "RATE_LIMIT_BACKEND" IsNoBackend word := by
  rw [backend?_eq_elim, elim_eq_error_iff ofText?_eq_error_iff]

theorem trust_iff : ((env.text? "RATE_LIMIT_TRUST_FORWARDED").map isYes).getD false = true
    ↔ ∃ text word, env.text? "RATE_LIMIT_TRUST_FORWARDED" = some text ∧ Says text word ∧ word ∈ ["1", "true", "yes", "on"] := by
  simp only [says_iff]
  cases env.text? "RATE_LIMIT_TRUST_FORWARDED" with
  | none => simp
  | some text => simp [isYes]

theorem gateway_iff : (env.text? "RATE_LIMIT_USER_HEADER").bind gatewayOf = some name
    ↔ name ≠ "" ∧ ∃ text, env.text? "RATE_LIMIT_USER_HEADER" = some text ∧ Says text name := by
  simp only [says_iff]
  cases env.text? "RATE_LIMIT_USER_HEADER" with
  | none => simp
  | some text =>
    simp only [Option.bind_some, gatewayOf, Option.some.injEq, exists_eq_left']
    split
    · rename_i hempty
      refine iff_of_false nofun ?_
      rintro ⟨hne, rfl⟩
      exact hne (String.isEmpty_iff.1 hempty)
    · rename_i hempty
      rw [Option.some.injEq]
      refine ⟨fun h => ⟨?_, h⟩, And.right⟩
      rintro rfl
      exact hempty (String.isEmpty_iff.2 h)

/-! ### The whole environment -/

/-- Each variable that can be at fault is unset, or spelled as it must be. -/
structure Readable (env : Environment) : Prop where
  port : Spelled env "PORT" (IsNumber 16)
  backend : Spelled env "RATE_LIMIT_BACKEND" IsBackend
  quota : Spelled env "RATE_LIMIT_QUOTA" (IsNumber 32)
  window : Spelled env "RATE_LIMIT_WINDOW_SECS" (IsNumber 64)
  patience : Spelled env "RATE_LIMIT_STORE_TIMEOUT_MS" (IsNumber 64)

/-- The settings that an environment gives. -/
structure Reads (env : Environment) (s : Settings) : Prop where
  port : Gives env "PORT" 3000 (IsNumber 16) s.port
  redisUrl : s.redisUrl = (env.text? "REDIS_URL").getD "redis://127.0.0.1:6379"
  backend : Gives env "RATE_LIMIT_BACKEND" .redis IsBackend s.backend
  space : s.space = (env.text? "RATE_LIMIT_KEY_PREFIX").getD "ratelimit:"
  quota : Gives env "RATE_LIMIT_QUOTA" 100 (IsNumber 32) s.quota
  windowSecs : Gives env "RATE_LIMIT_WINDOW_SECS" 60 (IsNumber 64) s.windowSecs
  patienceMillis : Gives env "RATE_LIMIT_STORE_TIMEOUT_MS" 250 (IsNumber 64) s.patienceMillis
  trust : s.trust = true ↔ ∃ text word, env.text? "RATE_LIMIT_TRUST_FORWARDED" = some text ∧ Says text word
    ∧ word ∈ ["1", "true", "yes", "on"]
  gateway : ∀ name, s.gateway = some name
    ↔ name ≠ "" ∧ ∃ text, env.text? "RATE_LIMIT_USER_HEADER" = some text ∧ Says text name

/-- The first fault of an environment, all variables that are read before it being right. -/
inductive FirstFault (env : Environment) : SettingsError → Prop
  | port {f : Numeral.Fault} (h : Misspelled env "PORT" (IsNoNumber 16) f) : FirstFault env (.port f)
  | backend {word : String} (hp : Spelled env "PORT" (IsNumber 16))
      (h : Misspelled env "RATE_LIMIT_BACKEND" IsNoBackend word) : FirstFault env (.backend word)
  | quota {f : Numeral.Fault} (hp : Spelled env "PORT" (IsNumber 16)) (hb : Spelled env "RATE_LIMIT_BACKEND" IsBackend)
      (h : Misspelled env "RATE_LIMIT_QUOTA" (IsNoNumber 32) f) : FirstFault env (.quota f)
  | window {f : Numeral.Fault} (hp : Spelled env "PORT" (IsNumber 16)) (hb : Spelled env "RATE_LIMIT_BACKEND" IsBackend)
      (hq : Spelled env "RATE_LIMIT_QUOTA" (IsNumber 32)) (h : Misspelled env "RATE_LIMIT_WINDOW_SECS" (IsNoNumber 64) f) :
      FirstFault env (.window f)
  | patience {f : Numeral.Fault} (hp : Spelled env "PORT" (IsNumber 16)) (hb : Spelled env "RATE_LIMIT_BACKEND" IsBackend)
      (hq : Spelled env "RATE_LIMIT_QUOTA" (IsNumber 32)) (hw : Spelled env "RATE_LIMIT_WINDOW_SECS" (IsNumber 64))
      (h : Misspelled env "RATE_LIMIT_STORE_TIMEOUT_MS" (IsNoNumber 64) f) : FirstFault env (.patience f)

theorem bind_mapError_eq_ok {ε ε' α β : Type} {x : Except ε α} {g : ε → ε'} {f : α → Except ε' β} {b : β} :
    (x.mapError g >>= f) = .ok b ↔ ∃ a, x = .ok a ∧ f a = .ok b := by
  cases x <;> simp [Except.mapError, bind, Except.bind]

theorem bind_mapError_eq_error {ε ε' α β : Type} {x : Except ε α} {g : ε → ε'} {f : α → Except ε' β} {e : ε'} :
    (x.mapError g >>= f) = .error e ↔ (∃ e', x = .error e' ∧ e = g e') ∨ ∃ a, x = .ok a ∧ f a = .error e := by
  cases x <;> simp [Except.mapError, bind, Except.bind, eq_comm]

theorem ofEnvironment?_eq_ok_iff {s : Settings} : ofEnvironment? env = .ok s ↔ Reads env s := by
  simp only [ofEnvironment?, bind_mapError_eq_ok, number?_eq_ok_iff, backend?_eq_ok_iff, pure, Except.pure, Except.ok.injEq]
  constructor
  · rintro ⟨port, hport, b, hb, quota, hquota, window, hwindow, patience, hpatience, rfl⟩
    exact ⟨hport, rfl, hb, rfl, hquota, hwindow, hpatience, trust_iff, fun name => gateway_iff⟩
  · intro h
    refine ⟨_, h.port, _, h.backend, _, h.quota, _, h.windowSecs, _, h.patienceMillis, ?_⟩
    have htrust : ((env.text? "RATE_LIMIT_TRUST_FORWARDED").map isYes).getD false = s.trust := by
      rw [Bool.eq_iff_iff, trust_iff, h.trust]
    have hgateway : (env.text? "RATE_LIMIT_USER_HEADER").bind gatewayOf = s.gateway := by
      ext name
      rw [gateway_iff, h.gateway]
    rw [htrust, hgateway, ← h.redisUrl, ← h.space]

theorem exists_ofEnvironment?_eq_ok_iff : (∃ s, ofEnvironment? env = .ok s) ↔ Readable env := by
  constructor
  · rintro ⟨s, hs⟩
    have h := ofEnvironment?_eq_ok_iff.1 hs
    exact ⟨exists_gives_iff.1 ⟨_, h.port⟩, exists_gives_iff.1 ⟨_, h.backend⟩, exists_gives_iff.1 ⟨_, h.quota⟩,
      exists_gives_iff.1 ⟨_, h.windowSecs⟩, exists_gives_iff.1 ⟨_, h.patienceMillis⟩⟩
  · intro h
    obtain ⟨port, hport⟩ := exists_gives_iff.2 h.port
    obtain ⟨b, hb⟩ := exists_gives_iff.2 h.backend
    obtain ⟨quota, hquota⟩ := exists_gives_iff.2 h.quota
    obtain ⟨window, hwindow⟩ := exists_gives_iff.2 h.window
    obtain ⟨patience, hpatience⟩ := exists_gives_iff.2 h.patience
    simp only [ofEnvironment?, bind_mapError_eq_ok, number?_eq_ok_iff, backend?_eq_ok_iff]
    exact ⟨_, port, hport, b, hb, quota, hquota, window, hwindow, patience, hpatience, rfl⟩

theorem ofEnvironment?_eq_error_iff {e : SettingsError} : ofEnvironment? env = .error e ↔ FirstFault env e := by
  simp only [ofEnvironment?, bind_mapError_eq_error, number?_eq_ok_iff, number?_eq_error_iff, backend?_eq_ok_iff,
    backend?_eq_error_iff]
  constructor
  · rintro (⟨f, hf, rfl⟩ | ⟨port, hport, h⟩)
    · exact .port hf
    have hport := exists_gives_iff.1 ⟨port, hport⟩
    obtain ⟨word, hword, rfl⟩ | ⟨b, hb, h⟩ := h
    · exact .backend hport hword
    have hb := exists_gives_iff.1 ⟨b, hb⟩
    obtain ⟨f, hf, rfl⟩ | ⟨quota, hquota, h⟩ := h
    · exact .quota hport hb hf
    have hquota := exists_gives_iff.1 ⟨quota, hquota⟩
    obtain ⟨f, hf, rfl⟩ | ⟨window, hwindow, h⟩ := h
    · exact .window hport hb hquota hf
    have hwindow := exists_gives_iff.1 ⟨window, hwindow⟩
    obtain ⟨f, hf, rfl⟩ | ⟨patience, -, h⟩ := h
    · exact .patience hport hb hquota hwindow hf
    · -- With the last of the five read, nothing can go wrong.
      cases h
  · intro h
    cases h with
    | port h => exact .inl ⟨_, h, rfl⟩
    | backend hp h =>
      obtain ⟨_, hp⟩ := exists_gives_iff.2 hp
      exact .inr ⟨_, hp, .inl ⟨_, h, rfl⟩⟩
    | quota hp hb h =>
      obtain ⟨_, hp⟩ := exists_gives_iff.2 hp
      obtain ⟨_, hb⟩ := exists_gives_iff.2 hb
      exact .inr ⟨_, hp, .inr ⟨_, hb, .inl ⟨_, h, rfl⟩⟩⟩
    | window hp hb hq h =>
      obtain ⟨_, hp⟩ := exists_gives_iff.2 hp
      obtain ⟨_, hb⟩ := exists_gives_iff.2 hb
      obtain ⟨_, hq⟩ := exists_gives_iff.2 hq
      exact .inr ⟨_, hp, .inr ⟨_, hb, .inr ⟨_, hq, .inl ⟨_, h, rfl⟩⟩⟩⟩
    | patience hp hb hq hw h =>
      obtain ⟨_, hp⟩ := exists_gives_iff.2 hp
      obtain ⟨_, hb⟩ := exists_gives_iff.2 hb
      obtain ⟨_, hq⟩ := exists_gives_iff.2 hq
      obtain ⟨_, hw⟩ := exists_gives_iff.2 hw
      exact .inr ⟨_, hp, .inr ⟨_, hb, .inr ⟨_, hq, .inr ⟨_, hw, .inl ⟨_, h, rfl⟩⟩⟩⟩⟩

/-! ### Settings spelled out -/

/-- What each variable is set to where the settings are spelled out, numbers in decimal. -/
def spelling (s : Settings) : List (String × String) :=
  [("PORT", Numeral.ofNat s.port), ("REDIS_URL", s.redisUrl), ("RATE_LIMIT_BACKEND", wordOf s.backend),
    ("RATE_LIMIT_KEY_PREFIX", s.space), ("RATE_LIMIT_QUOTA", Numeral.ofNat s.quota),
    ("RATE_LIMIT_WINDOW_SECS", Numeral.ofNat s.windowSecs),
    ("RATE_LIMIT_STORE_TIMEOUT_MS", Numeral.ofNat s.patienceMillis),
    ("RATE_LIMIT_TRUST_FORWARDED", if s.trust then "true" else "false")]
    ++ s.gateway.toList.map fun name => ("RATE_LIMIT_USER_HEADER", name)

/-- The environment that spells the settings out. -/
def environment (s : Settings) : Environment :=
  .ofTexts s.spelling

/-- A header is named as one would be read: not by the empty name, and without blanks at its ends
or capitals. -/
def Tidy (s : Settings) : Prop :=
  ∀ name, s.gateway = some name → name ≠ "" ∧ Says name name

/-- The numbers have the widths of the variables that they are read from. -/
structure Narrow (s : Settings) : Prop where
  port : s.port < 2 ^ 16
  quota : s.quota < 2 ^ 32
  windowSecs : s.windowSecs < 2 ^ 64
  patienceMillis : s.patienceMillis < 2 ^ 64

theorem isBackend_wordOf (b : Backend) : IsBackend (wordOf b) b := by
  rw [IsBackend, says_iff]
  cases b <;> decide

theorem gives_ofNat_iff {n : Nat} (h : env.text? name = some (Numeral.ofNat n)) :
    Gives env name default (IsNumber bits) n ↔ n < 2 ^ bits := by
  rw [gives_of_set h, IsNumber, and_iff_right (Numeral.denotes_ofNat n)]

theorem reads_environment_iff {s : Settings} : Reads s.environment s ↔ s.Tidy ∧ s.Narrow := by
  have htext (name : String) : s.environment.text? name = s.spelling.lookup name := Environment.text?_ofTexts _ _
  have hport : s.environment.text? "PORT" = some (Numeral.ofNat s.port) := htext _
  have hquota : s.environment.text? "RATE_LIMIT_QUOTA" = some (Numeral.ofNat s.quota) := htext _
  have hwindow : s.environment.text? "RATE_LIMIT_WINDOW_SECS" = some (Numeral.ofNat s.windowSecs) := htext _
  have hpatience : s.environment.text? "RATE_LIMIT_STORE_TIMEOUT_MS" = some (Numeral.ofNat s.patienceMillis) := htext _
  have hurl : s.environment.text? "REDIS_URL" = some s.redisUrl := htext _
  have hbackend : s.environment.text? "RATE_LIMIT_BACKEND" = some (wordOf s.backend) := htext _
  have hspace : s.environment.text? "RATE_LIMIT_KEY_PREFIX" = some s.space := htext _
  have htrust : s.environment.text? "RATE_LIMIT_TRUST_FORWARDED" = some (if s.trust then "true" else "false") := htext _
  have hgateway : s.environment.text? "RATE_LIMIT_USER_HEADER" = s.gateway := by
    rw [htext, spelling]
    cases s.gateway <;> rfl
  constructor
  · intro h
    refine ⟨fun name hname => ?_, (gives_ofNat_iff hport).1 h.port, (gives_ofNat_iff hquota).1 h.quota,
      (gives_ofNat_iff hwindow).1 h.windowSecs, (gives_ofNat_iff hpatience).1 h.patienceMillis⟩
    obtain ⟨hne, text, htext, hsays⟩ := (h.gateway name).1 hname
    obtain rfl : text = name := Option.some.inj (htext.symm.trans (hgateway.trans hname))
    exact ⟨hne, hsays⟩
  · rintro ⟨htidy, hnarrow⟩
    constructor
    case port => exact (gives_ofNat_iff hport).2 hnarrow.port
    case redisUrl => rw [hurl, Option.getD_some]
    case backend => exact .set hbackend (isBackend_wordOf s.backend)
    case space => rw [hspace, Option.getD_some]
    case quota => exact (gives_ofNat_iff hquota).2 hnarrow.quota
    case windowSecs => exact (gives_ofNat_iff hwindow).2 hnarrow.windowSecs
    case patienceMillis => exact (gives_ofNat_iff hpatience).2 hnarrow.patienceMillis
    case trust =>
      rw [← trust_iff, htrust]
      cases s.trust <;> decide
    case gateway =>
      intro name
      rw [hgateway]
      constructor
      · intro hname
        exact ⟨(htidy name hname).1, name, hname, (htidy name hname).2⟩
      · rintro ⟨-, text, htext, hsays⟩
        -- The text says itself, so it is the name.
        have hself : Says text text := (htidy text htext).2
        obtain rfl : text = name := (says_iff.1 hself).symm.trans (says_iff.1 hsays)
        exact htext

end Settings

namespace SettingsError

/-- The variable at fault. -/
def about : SettingsError → String
  | .port _ => "PORT"
  | .backend _ => "RATE_LIMIT_BACKEND"
  | .quota _ => "RATE_LIMIT_QUOTA"
  | .window _ => "RATE_LIMIT_WINDOW_SECS"
  | .patience _ => "RATE_LIMIT_STORE_TIMEOUT_MS"

/-- The message begins with the name of the variable at fault, and that variable is set. -/
theorem names_about {env : Environment} {e : SettingsError} (h : Settings.FirstFault env e) :
    (∃ text, env.text? e.about = some text) ∧ ∃ rest, e.message = e.about ++ " must be " ++ rest := by
  refine ⟨?_, ?_⟩
  · cases h with
    | port h | backend _ h | quota _ _ h | window _ _ _ h | patience _ _ _ _ h => exact ⟨_, h.choose_spec.1⟩
  · cases e with
    | port _ => exact ⟨"a valid u16", rfl⟩
    | backend _ => exact ⟨"'redis' or 'memory'", rfl⟩
    | quota _ => exact ⟨"a valid u32", rfl⟩
    | window _ | patience _ => exact ⟨"a valid u64", rfl⟩

end SettingsError

namespace Settings

/-- **An environment is read just if it is spelled as it must be, and then as it is spelled.**
Settings are read back from the environment that spells them out, except where they have a patience
of 2⁶⁴ milliseconds or more: the variable holds no such number. -/
theorem environment_read (env : Environment) :
    (∀ name text, env.text? name = some text ↔ env.value? name = some (Text.toUtf8 text))
      ∧ ((∃ s, ofEnvironment? env = .ok s) ↔ Readable env)
      ∧ (∀ s, ofEnvironment? env = .ok s ↔ Reads env s)
      ∧ (∀ e, ofEnvironment? env = .error e ↔ FirstFault env e)
      ∧ ∀ s : Settings, ofEnvironment? s.environment = .ok s ↔ s.Tidy ∧ s.Narrow := by
  refine ⟨fun name text => Environment.text?_eq_some_iff, exists_ofEnvironment?_eq_ok_iff,
    fun s => ofEnvironment?_eq_ok_iff, fun e => ofEnvironment?_eq_error_iff, fun s => ?_⟩
  rw [ofEnvironment?_eq_ok_iff, reads_environment_iff]

/-- Settings with the longest patience that a variable holds. -/
def gated : Settings where
  port := 8080
  redisUrl := ""
  backend := .memory
  space := "gate:"
  quota := 5
  windowSecs := 3600
  patienceMillis := 2 ^ 64 - 1
  trust := true
  gateway := some "x-user-id"

theorem tidy_gated : gated.Tidy := by
  intro name hname
  obtain rfl := Option.some.inj hname
  exact ⟨by decide, says_iff.2 (by decide)⟩

theorem gated_read_back : gated.Tidy ∧ gated.Narrow ∧ ofEnvironment? gated.environment = .ok gated := by
  have hnarrow : gated.Narrow := ⟨by decide, by decide, by decide, by decide⟩
  exact ⟨tidy_gated, hnarrow, ((environment_read .empty).2.2.2.2 gated).2 ⟨tidy_gated, hnarrow⟩⟩

/-- The same settings with one millisecond more, which is a span of time like others. -/
def patient : Settings :=
  { gated with patienceMillis := 2 ^ 64 }

theorem patient_not_read_back :
    patient.Tidy ∧ patient.port < 2 ^ 16 ∧ patient.quota < 2 ^ 32 ∧ patient.windowSecs < 2 ^ 64
      ∧ (Duration.ofMillis patient.patienceMillis).secs < 2 ^ 64
      ∧ ofEnvironment? patient.environment = .error (.patience .tooLarge)
      ∧ ofEnvironment? patient.environment ≠ .ok patient := by
  have hfault : ofEnvironment? patient.environment = .error (.patience .tooLarge) := by decide +kernel
  refine ⟨tidy_gated, by decide, by decide, by decide, by decide, hfault, ?_⟩
  rw [hfault]
  nofun

end Settings

end QuotaGate
