import SocksTunnel.Proofs.Command.Settings
import SocksTunnel.Proofs.Route.Line

/-
  SocksTunnel.Proofs.Command.Precedence — which value a flag has in a run. By the rule it is that of
  the option of its name, and without one that of the command line; the three timeouts count where
  none are given as a whole.

  Proved: what each flag is in a run, and that the rule is kept exactly if no option differs from
  the command line in the log, the version or one of the three timeouts
  (`prepare_follows_options`). The log is set up before any option is looked at, so its options are
  without effect (`log_option_without_effect`), and so is that of the version; those of the three
  timeouts count in the timeouts of the run, but not as flags of their own. A user or a payload that
  is broken text becomes no data, and there are no settings then.
-/

namespace SocksTunnel

/-! ## Numbers of seconds -/

theorem Duration.ofNumber?_eq_some_iff {x : Binary64} {d : Duration} : ofNumber? x = some d ↔ x = d.number := by
  constructor
  · exact fun h => (ofNumber?_eq_some h).symm
  · rintro rfl
    exact dif_pos ⟨d.isFinite, d.notNegative⟩

namespace Value

/-- A number of seconds, of either kind. -/
inductive IsSeconds (d : Duration) : Value → Prop
  | whole {n : Int} (h : Binary64.ofInt? n = some d.number) : IsSeconds d (.int n)
  | real : IsSeconds d (.real d.number)

theorem duration_eq_ok_iff {v : Value} {p : Phase} {d : Duration} : v.duration p = .ok d ↔ IsSeconds d v := by
  constructor
  · intro h
    unfold duration at h
    split at h
    · split at h
      · cases h
      · rename_i n x hx
        split at h
        · rename_i e he
          cases h
          exact .whole (Duration.ofNumber?_eq_some_iff.mp he ▸ hx)
        · cases h
    · split at h
      · rename_i x e he
        cases h
        exact Duration.ofNumber?_eq_some_iff.mp he ▸ .real
      · cases h
    · cases h
  · intro h
    cases h with
    | whole hn => simp only [duration, hn, Duration.ofNumber?_eq_some_iff.mpr rfl]
    | real => simp only [duration, Duration.ofNumber?_eq_some_iff.mpr rfl]

theorem timeoutsOf_eq_ok_iff {c w r : Value} {t : Timeouts} :
    timeoutsOf c w r = .ok t ↔ IsSeconds t.connect c ∧ IsSeconds t.write w ∧ IsSeconds t.read r := by
  constructor
  · intro h
    obtain ⟨c', hc, h⟩ := Except.bind_eq_ok_iff.mp h
    obtain ⟨w', hw, h⟩ := Except.bind_eq_ok_iff.mp h
    obtain ⟨r', hr, h⟩ := Except.bind_eq_ok_iff.mp h
    cases h
    exact ⟨duration_eq_ok_iff.mp hc, duration_eq_ok_iff.mp hw, duration_eq_ok_iff.mp hr⟩
  · rintro ⟨hc, hw, hr⟩
    refine Except.bind_eq_ok_iff.mpr ⟨_, duration_eq_ok_iff.mpr hc, ?_⟩
    refine Except.bind_eq_ok_iff.mpr ⟨_, duration_eq_ok_iff.mpr hw, ?_⟩
    exact Except.bind_eq_ok_iff.mpr ⟨_, duration_eq_ok_iff.mpr hr, rfl⟩

/-- Only text can have timeouts written in it. -/
theorem readTimeouts_eq_ok_iff {v : Value} {t : Timeouts} :
    v.readTimeouts = .ok t ↔ ∃ u, v = .text u ∧ Line.IsLimits u t := by
  cases v with
  | text u =>
    rw [← Line.isLimits_iff]
    exact ⟨fun h => ⟨u, rfl, h⟩, fun ⟨_, hu, h⟩ => by cases hu; exact h⟩
  | _ => exact ⟨nofun, nofun⟩

end Value

namespace Settings

open Value (IsSeconds)

variable {words : List Value} {opts : Named} {s r : Settings} {f : Flag} {log log' : Log}

/-! ## The rule -/

/-- What a flag is by the rule. -/
inductive Follows (s : Settings) (opts : Named) (f : Flag) : Value → Prop
  | option {v : Value} (h : opts.lookup f.key = some v) : Follows s opts f v
  | words (h : opts.lookup f.key = none) : Follows s opts f (s.get f)

/-- What the timeouts are by the rule: those given as a whole, written as text or not, and without such one number of
seconds for each phase. -/
inductive TimeoutsFollow (s : Settings) (opts : Named) (t : Timeouts) : Prop
  | whole (h : Follows s opts .timeouts (.timeouts t))
  | written {u : Text} (h : Follows s opts .timeouts (.text u)) (hu : Line.IsLimits u t)
  | phases {c w r : Value} (h : Follows s opts .timeouts .nothing) (hc : Follows s opts .connectTimeout c)
      (hw : Follows s opts .writeTimeout w) (hr : Follows s opts .readTimeout r) (hconnect : IsSeconds t.connect c)
      (hwrite : IsSeconds t.write w) (hread : IsSeconds t.read r)

/-- The settings of a run and its log by the rule. Help has no value to be told: it ends the run. -/
structure ByRule (s : Settings) (opts : Named) (log : Log) (r : Settings) (log' : Log) : Prop where
  plain : ∀ f, f ∉ [.help, .user, .payload, .timeouts] → Follows s opts f (r.get f)
  /-- User and payload as data; without a payload there still is none. -/
  data : ∀ f ∈ [.user, .payload], ∃ v, Follows s opts f v ∧ v.toBytes = .ok (r.get f)
  timeouts : ∃ t, TimeoutsFollow s opts t ∧ r.get .timeouts = .timeouts t
  log : log.setup (r.get .logFile) (r.get .logLevel) (r.get .logFormat) = (.ok (), log')

/-! ## What holds -/

/-- The flags that no option replaces. -/
def kept : List Flag :=
  [.help, .version, .logLevel, .logFile, .logFormat, .connectTimeout, .writeTimeout, .readTimeout]

/-- What the settings of a run are: options come first, but for the flags that no option replaces. -/
structure IsResolved (s : Settings) (opts : Named) (r : Settings) : Prop where
  replaced : ∀ f ∈ replaceable, Follows s opts f (r.get f)
  data : ∀ f ∈ [.user, .payload], ∃ v, Follows s opts f v ∧ v.toBytes = .ok (r.get f)
  timeouts : ∃ t, TimeoutsFollow s opts t ∧ r.get .timeouts = .timeouts t
  kept : ∀ f ∈ kept, r.get f = s.get f

theorem chosen_cases (s : Settings) (opts : Named) (f : Flag) :
    (∃ v, opts.lookup f.key = some v ∧ s.chosen opts f = v) ∨ s.chosen opts f = s.get f := by
  cases h : opts.lookup f.key with
  | none => exact .inr (by rw [chosen, h, Option.getD_none])
  | some v => exact .inl ⟨v, rfl, chosen_option h⟩

theorem follows_iff {v : Value} : Follows s opts f v ↔ v = s.chosen opts f := by
  constructor
  · rintro (h | h) <;> simp [chosen, h]
  · rintro rfl
    cases h : opts.lookup f.key with
    | none => simpa [chosen, h] using Follows.words h
    | some v => simpa [chosen, h] using Follows.option h

theorem timeoutsOf_eq_ok_iff {t : Timeouts} : s.timeoutsOf opts = .ok t ↔ TimeoutsFollow s opts t := by
  constructor
  · intro h
    unfold timeoutsOf at h
    split at h
    · rename_i u hu
      cases h
      exact .whole (follows_iff.mpr hu.symm)
    · rename_i hu
      rw [Except.mapError_eq_ok_iff, Value.timeoutsOf_eq_ok_iff] at h
      obtain ⟨hc, hw, hr⟩ := h
      exact .phases (follows_iff.mpr hu.symm) (follows_iff.mpr rfl) (follows_iff.mpr rfl) (follows_iff.mpr rfl) hc hw hr
    · obtain ⟨u, hu, hlimits⟩ := Value.readTimeouts_eq_ok_iff.mp h
      exact .written (follows_iff.mpr hu.symm) hlimits
  · intro h
    unfold timeoutsOf
    cases h with
    | whole h => rw [← follows_iff.mp h]
    | written h hu =>
      rw [← follows_iff.mp h]
      exact Value.readTimeouts_eq_ok_iff.mpr ⟨_, rfl, hu⟩
    | phases h hc hw hr hconnect hwrite hread =>
      rw [← follows_iff.mp h, ← follows_iff.mp hc, ← follows_iff.mp hw, ← follows_iff.mp hr]
      exact Except.mapError_eq_ok_iff.mpr (Value.timeoutsOf_eq_ok_iff.mpr ⟨hconnect, hwrite, hread⟩)

theorem payloadOf_eq (v : Value) : payloadOf v = v.toBytes := by
  cases v <;> rfl

theorem resolved_eq_ok_iff : s.resolved opts = .ok r ↔ IsResolved s opts r := by
  constructor
  · intro h
    obtain ⟨u, hu, h⟩ := Except.bind_eq_ok_iff.mp h
    obtain ⟨q, hq, h⟩ := Except.bind_eq_ok_iff.mp h
    obtain ⟨t, ht, h⟩ := Except.bind_eq_ok_iff.mp h
    rw [Except.mapError_eq_ok_iff] at hu hq ht
    cases h
    refine ⟨fun f hf => follows_iff.mpr ?_, fun f hf => ⟨s.chosen opts f, follows_iff.mpr rfl, ?_⟩,
      ⟨t, timeoutsOf_eq_ok_iff.mp ht, rfl⟩, fun f hf => ?_⟩
    · simp only [replaceable, List.mem_cons, List.not_mem_nil, or_false] at hf
      rcases hf with rfl | rfl | rfl | rfl | rfl <;> rfl
    · simp only [List.mem_cons, List.not_mem_nil, or_false] at hf
      rcases hf with rfl | rfl
      · exact hu
      · exact (payloadOf_eq _).symm.trans hq
    · simp only [kept, List.mem_cons, List.not_mem_nil, or_false] at hf
      rcases hf with rfl | rfl | rfl | rfl | rfl | rfl | rfl | rfl <;> rfl
  · rintro ⟨hreplaced, hdata, ⟨t, ht, htimeouts⟩, hkept⟩
    have hbytes : ∀ f ∈ [.user, .payload], (s.chosen opts f).toBytes = .ok (r.get f) := fun f hf => by
      obtain ⟨v, hv, h⟩ := hdata f hf
      rwa [follows_iff.mp hv] at h
    have hpayload : payloadOf (s.chosen opts .payload) = .ok (r.get .payload) :=
      (payloadOf_eq _).trans (hbytes .payload (by decide))
    refine Except.bind_eq_ok_iff.mpr ⟨_, Except.mapError_eq_ok_iff.mpr (hbytes .user (by decide)), ?_⟩
    refine Except.bind_eq_ok_iff.mpr ⟨_, Except.mapError_eq_ok_iff.mpr hpayload, ?_⟩
    refine Except.bind_eq_ok_iff.mpr ⟨t, Except.mapError_eq_ok_iff.mpr (timeoutsOf_eq_ok_iff.mpr ht),
      congrArg (Except.ok ∘ Settings.mk) (funext fun f => ?_)⟩
    symm
    cases f with
    | proxyHost | proxyPort | protocol | destination | destinationPort =>
      exact follows_iff.mp (hreplaced _ (by decide))
    | user | payload => rfl
    | timeouts => exact htimeouts
    | help | version | logLevel | logFile | logFormat | connectTimeout | writeTimeout | readTimeout =>
      exact hkept _ (by decide)

theorem prepare_eq_ok_iff : prepare words opts log = (.ok r, log') ↔ ∃ s, Arguments.parse words = .ok s ∧
    log.setup (s.get .logFile) (s.get .logLevel) (s.get .logFormat) = (.ok (), log') ∧ IsResolved s opts r := by
  unfold prepare
  cases Arguments.parse words with
  | error e => simp
  | ok s =>
    dsimp only
    simp only [Except.ok.injEq, exists_eq_left']
    rcases log.setup (s.get .logFile) (s.get .logLevel) (s.get .logFormat) with ⟨_ | ⟨⟩, k⟩
    · simp
    · simp only [Prod.mk.injEq, resolved_eq_ok_iff, true_and]
      exact and_comm

/-- A flag that no option replaces follows the rule if its option, if any, agrees with the command line. -/
theorem follows_kept_iff (h : r.get f = s.get f) :
    Follows s opts f (r.get f) ↔ ∀ v, opts.lookup f.key = some v → v = s.get f := by
  rw [h, follows_iff, chosen]
  cases opts.lookup f.key with
  | none => simp
  | some v => simp [eq_comm]

theorem byRule_iff (h : IsResolved s opts r)
    (hlog : log.setup (s.get .logFile) (s.get .logLevel) (s.get .logFormat) = (.ok (), log')) :
    ByRule s opts log r log' ↔ ∀ f ∈ kept, f ≠ .help → ∀ v, opts.lookup f.key = some v → v = s.get f := by
  constructor
  · intro hrule f hf hne
    refine (follows_kept_iff (h.kept f hf)).mp (hrule.plain f ?_)
    have hkept : ∀ f ∈ kept, f ≠ .help → f ∉ [Flag.help, .user, .payload, .timeouts] := by decide
    exact hkept f hf hne
  · intro hkept
    refine ⟨fun f hf => ?_, h.data, h.timeouts, ?_⟩
    · by_cases hk : f ∈ kept
      · exact (follows_kept_iff (h.kept f hk)).mpr (hkept f hk fun he => hf (he ▸ List.mem_cons_self))
      · refine h.replaced f ?_
        cases f <;> first | decide | exact absurd (by decide) hk | exact absurd (by decide) hf
    · rw [h.kept .logFile (by decide), h.kept .logLevel (by decide), h.kept .logFormat (by decide)]
      exact hlog

/-- Broken text is no data, so there is no run with it as user or payload. -/
theorem not_isResolved_of_broken {b : BrokenText} (hf : f ∈ [.user, .payload]) (hb : Follows s opts f (.broken b)) :
    ¬ IsResolved s opts r := by
  intro h
  obtain ⟨v, hv, hbytes⟩ := h.data f hf
  obtain rfl : .broken b = v := (follows_iff.mp hb).trans (follows_iff.mp hv).symm
  cases hbytes

/-- The settings of a run are had exactly from a command line that is read and sets up the log, from a user and a payload
that become data, and from timeouts that are numbers of seconds: the option of a flag comes before the command line,
unless it is one of those that no option replaces. So the rule is followed by all runs but those with an option of that
kind that differs from the command line. A user or payload with surrogates, which has no octets, leaves nothing to run. -/
theorem prepare_follows_options (words : List Value) (opts : Named) (log : Log) (r : Settings) (log' : Log) :
    (prepare words opts log = (.ok r, log') ↔ ∃ s, Arguments.parse words = .ok s ∧
      log.setup (s.get .logFile) (s.get .logLevel) (s.get .logFormat) = (.ok (), log') ∧ IsResolved s opts r) ∧
    (∀ s, Arguments.parse words = .ok s → prepare words opts log = (.ok r, log') →
      (ByRule s opts log r log' ↔ ∀ f ∈ kept, f ≠ .help → ∀ v, opts.lookup f.key = some v → v = s.get f)) ∧
    ∀ s, Arguments.parse words = .ok s → ∀ f ∈ [.user, .payload], ∀ b : BrokenText, Follows s opts f (.broken b) →
      prepare words opts log ≠ (.ok r, log') := by
  refine ⟨prepare_eq_ok_iff, fun s hs h => ?_, fun s hs f hf b hb h => ?_⟩
  · obtain ⟨s', hs', hlog, hresolved⟩ := prepare_eq_ok_iff.mp h
    cases hs.symm.trans hs'
    exact byRule_iff hresolved hlog
  · obtain ⟨s', hs', -, hresolved⟩ := prepare_eq_ok_iff.mp h
    cases hs.symm.trans hs'
    exact not_isResolved_of_broken hf hb hresolved

/-- The option of a port comes before its flag; a user and timeouts come from options, the protocol from the command
line. A user that is a single surrogate ends the run. -/
theorem prepare_follows_options_given :
    let words : List Value := [.text (.lit "--proxy-port"), .text (.lit "9050"), .text (.lit "--protocol=socks4")]
    let opts : Named := [(.lit "proxy_port", .int 1081), (.lit "ident", .text (.lit "fred")),
      (.lit "timeouts", .text (.lit "1:2:3"))]
    let name : BrokenText := ⟨[.surrogate ⟨0xdcff, by decide⟩], rfl⟩
    (∃ s r log', Arguments.parse words = .ok s ∧ prepare words opts .start = (.ok r, log') ∧ IsResolved s opts r ∧
      ByRule s opts .start r log' ∧ r.get .proxyPort = .int 1081 ∧ r.get .user = .bytes (Text.utf8 (.lit "fred")) ∧
      (r.get .protocol).plain = .lit "socks4") ∧
    ∀ r log', prepare [.ofSigns (Text.signs (.lit "--ident=") ++ name.signs)] [] .start ≠ (.ok r, log') := by
  intro words opts name
  refine ⟨?_, fun r log' => ?_⟩
  · obtain ⟨r, log', h, hprotocol⟩ := exists_of_prepare_with words opts .start
      (fun r _ => (r.get .protocol).plain == .lit "socks4") (by decide +kernel)
    obtain ⟨hiff, hrule, -⟩ := prepare_follows_options words opts .start r log'
    obtain ⟨s, hs, -, hresolved⟩ := hiff.mp h
    have hport := follows_iff.mp (hresolved.replaced .proxyPort (by decide))
    obtain ⟨v, hv, huser⟩ := hresolved.data .user (by decide)
    rw [follows_iff.mp hv] at huser
    have hnone : ∀ f ∈ kept, opts.lookup f.key = none := by decide
    refine ⟨s, r, log', hs, h, hresolved, (hrule s hs h).mpr fun f hf _ v hv => ?_, hport, (Except.ok.inj huser).symm,
      eq_of_beq hprotocol⟩
    rw [hnone f hf] at hv
    cases hv
  · have hparse : Arguments.parse [.ofSigns (Text.signs (.lit "--ident=") ++ name.signs)] =
        .ok (Settings.default.set .user (.broken name)) := rfl
    exact (prepare_follows_options _ [] .start r log').2.2 _ hparse .user (by decide) name (.words rfl)

/-- An option for the level of the log that is given and does nothing. -/
theorem log_option_without_effect :
    let opts : Named := [(.lit "log_level", .text (.lit "DEBUG"))]
    ∃ r log', prepare [] opts .start = (.ok r, log') ∧ log'.level = .info ∧ r.get .logLevel = .text (.lit "INFO") ∧
      ¬ ByRule .default opts .start r log' := by
  intro opts
  have hprepare : ∃ r log', prepare [] opts .start = (.ok r, log') ∧ log'.level = .info := ⟨_, _, rfl, rfl⟩
  obtain ⟨r, log', h, hlevel⟩ := hprepare
  obtain ⟨s, hs, hlog, hresolved⟩ := prepare_eq_ok_iff.mp h
  cases hs
  refine ⟨r, log', h, hlevel, hresolved.kept .logLevel (by decide), fun hrule => ?_⟩
  have hsame := (byRule_iff hresolved hlog).mp hrule .logLevel (by decide) (by decide) _ rfl
  have hlevels : Text.lit "DEBUG" = Text.lit "INFO" := Value.text.inj hsame
  exact absurd hlevels (by decide)

end Settings

end SocksTunnel
