import SocksTunnel.Proofs.Command.Precedence
import SocksTunnel.Proofs.Decimal.Rounding

/-
  SocksTunnel.Proofs.Command.Usage — how a command line ends that gives no settings. What is wrong
  with a flag or an option should be a mistake of usage, told as one and with the code of one. Only
  bad values are, and only those that are looked for: a failure of another kind is not caught, and
  nobody asks whether user and payload are text.

  Proved: the settings of a run have timeouts that are finite and not negative, and without settings
  the run is over with the code of help, version or a mistake of usage, unless something escapes
  (`prepare_ends_or_escapes`). That is a level, timeouts or a number whose flag was given no word, a
  log file that the disk does not open, a user or payload with surrogates, and an integer that no
  number of 64 bits is nearest to (`large_timeout_escapes`).
-/

namespace SocksTunnel

theorem Stop.of_eq_failed_iff {f g : Failure} : Stop.of f = .failed g ↔ f = g ∧ g.isBadValue = false := by
  unfold Stop.of
  split
  · rename_i h
    refine ⟨nofun, ?_⟩
    rintro ⟨rfl, hg⟩
    rw [h] at hg
    cases hg
  · rename_i h
    constructor
    · rintro ⟨⟩
      exact ⟨rfl, Bool.eq_false_iff.mpr h⟩
    · rintro ⟨rfl, -⟩
      rfl

/-! ## Words -/

namespace Arguments

variable {words : List (List Sign)} {s s' : Settings} {left left' : List Value} {tokens : List (Value × Token)}

/-- A word as a system hands it over. -/
def IsWord (v : Value) : Prop := ∃ ss, v = .ofSigns ss

theorem classifyAll_words (words : List (List Sign)) : (∃ e, classifyAll (words.map .ofSigns) = .error (.ended e)) ∨
    ∃ tokens, classifyAll (words.map .ofSigns) = .ok tokens ∧ ∀ x ∈ tokens, IsWord x.1 := by
  induction words with
  | nil => exact .inr ⟨[], rfl, nofun⟩
  | cons w r ih =>
    rw [List.map_cons, classifyAll, Value.signs?_ofSigns]
    dsimp only
    split
    · refine .inr ⟨_, rfl, ?_⟩
      simp only [List.mem_cons, List.mem_map, forall_eq_or_imp]
      refine ⟨⟨w, rfl⟩, ?_⟩
      rintro x ⟨_, ⟨u, -, rfl⟩, rfl⟩
      exact ⟨u, rfl⟩
    split
    · exact .inl ⟨_, rfl⟩
    · rename_i k _
      rcases ih with ⟨e, he⟩ | ⟨tokens, htokens, hwords⟩
      · exact .inl ⟨e, by rw [he]; rfl⟩
      · refine .inr ⟨(.ofSigns w, k) :: tokens, by rw [htokens]; rfl, ?_⟩
        exact List.forall_mem_cons.mpr ⟨⟨w, rfl⟩, hwords⟩

/-- The words that are left over are among those that were given. -/
theorem run_words (h : run s left tokens = .ok (s', left')) (hleft : ∀ v ∈ left, IsWord v)
    (htokens : ∀ x ∈ tokens, IsWord x.1) : ∀ v ∈ left', IsWord v := by
  fun_induction run s left tokens with
  | case1 =>
    cases h
    exact hleft
  | case4 _ _ _ _ _ _ _ _ _ _ _ _ ih => exact ih h hleft (List.forall_mem_cons.mp htokens).2
  | case6 _ _ _ _ _ _ _ _ _ _ ih => exact ih h hleft (List.forall_mem_cons.mp htokens).2
  | case8 _ _ _ _ _ _ _ _ _ _ ih =>
    exact ih h hleft (List.forall_mem_cons.mp (List.forall_mem_cons.mp htokens).2).2
  | case10 s left word _ rest _ ih =>
    obtain ⟨hword, hrest⟩ := List.forall_mem_cons.mp htokens
    refine ih h (fun v hv => ?_) hrest
    rcases List.mem_append.mp hv with hv | hv
    · exact hleft v hv
    · exact List.mem_singleton.mp hv ▸ hword
  | case2 | case3 | case5 | case7 | case9 => cases h

theorem refusal_words (h : ∀ v ∈ left, IsWord v) : ∃ e, refusal left = .ended e := by
  have htexts : ∃ words, texts? left = some words := by
    induction left with
    | nil => exact ⟨[], rfl⟩
    | cons v r ih =>
      obtain ⟨⟨w, rfl⟩, hr⟩ := List.forall_mem_cons.mp h
      obtain ⟨words, hwords⟩ := ih hr
      rw [texts?] at hwords
      exact ⟨Sign.text w :: words, by rw [texts?, List.mapM_cons, Value.signs?_ofSigns, hwords]; rfl⟩
  obtain ⟨words, hwords⟩ := htexts
  exact ⟨_, by rw [refusal, hwords]⟩

/-- Nothing escapes from the words themselves. -/
theorem parse_words_ended {e : Stop} (h : parse (words.map .ofSigns) = .error e) : ∃ x, e = .ended x := by
  rcases classifyAll_words words with ⟨x, hx⟩ | ⟨tokens, htokens, hwords⟩
  · rw [parse, hx] at h
    cases h
    exact ⟨x, rfl⟩
  rw [parse, htokens] at h
  dsimp only [bind, Except.bind] at h
  split at h
  · cases h
    exact ⟨_, rfl⟩
  · rename_i s left hrun
    split at h
    · cases h
      exact refusal_words (run_words hrun nofun hwords)
    · split at h
      · cases h
        exact ⟨_, rfl⟩
      · cases h

end Arguments

/-! ## Setting up the log -/

namespace Log

variable {file level layout : Value} {files : Files} {disk : Disk} {log : Log} {f : Failure}

theorem setup_eq_error_iff : (log.setup file level layout).1 = .error f ↔
    (∃ g, Level.ofValue level = .error g ∧ f = .fault g) ∨ ∃ v, Level.ofValue level = .ok v ∧
      (openSetting log.disk file log.files = .error f ∨
        ∃ o g, openSetting log.disk file log.files = .ok o ∧ layoutOf layout = .error g ∧ f = .fault g) := by
  unfold setup
  cases Level.ofValue level with
  | error g => simp [eq_comm]
  | ok v =>
    cases openSetting log.disk file log.files with
    | error g => simp
    | ok o => cases layoutOf layout <;> simp [eq_comm]

/-- Why the file of a name is not opened: the name has a zero, or the disk refuses it. -/
theorem openFile_eq_error_iff {name : Bytes} : openFile disk name files = .error f ↔
    (0 ∈ name ∧ f = .fault .logFileName) ∨ (0 ∉ name ∧ ∃ e, disk.refusal files name = some e ∧ f = .peer (.io e)) := by
  unfold openFile
  by_cases hzero : 0 ∈ name
  · simp [hzero, eq_comm]
  · cases he : disk.refusal files name with
    | none => simp [hzero]
    | some e => simp [hzero, eq_comm]

theorem openSetting_eq_error_iff : openSetting disk file files = .error f ↔
    nameOf disk file = .error f ∨ ∃ name, nameOf disk file = .ok (some name) ∧ openFile disk name files = .error f := by
  unfold openSetting
  rcases nameOf disk file with g | _ | name
  · simp [bind, Except.bind]
  · simp [bind, Except.bind]
  · simp only [bind, Except.bind, reduceCtorEq, Except.ok.injEq, Option.some.injEq, exists_eq_left', false_or]
    cases openFile disk name files <;> simp

/-- A path is refused for its surrogates alone. -/
theorem nameOf_signs_error {ss : List Sign} (h : nameOf disk (.ofSigns ss) = .error f) : f.isBadValue = true := by
  rcases Sign.text_or_broken ss with ⟨t, rfl⟩ | ⟨b, rfl⟩
  · rw [Value.ofSigns_signs, nameOf] at h
    split at h <;> cases h
  · rw [Value.ofSigns_broken] at h
    obtain ⟨e, he, rfl⟩ := Except.mapError_eq_error_iff.mp h
    obtain ⟨u, rfl⟩ := Policy.writeFrom_error (p := .keepOctets) rfl (Except.map_eq_error_iff.mp he)
    rfl

end Log

/-! ## Reading timeouts -/

namespace Value

/-- A number of seconds that is refused as no bad value. -/
inductive Unreadable (p : Phase) : Value → Fault → Prop
  /-- A flag without a word. -/
  | unnamed : Unreadable p (.list []) (.timeoutType p (.list []))
  /-- An integer that is too large for a number of 64 bits. -/
  | large {n : Int} (h : 2 ^ 1024 - 2 ^ 970 ≤ n.natAbs) : Unreadable p (.int n) .tooLarge

theorem duration_failed_iff {v : Value} {p : Phase} {g : Fault} (hv : v = .list [] ∨ (∃ n, v = .int n) ∨ ∃ x, v = .real x)
    (hg : g.isBadValue = false) : v.duration p = .error g ↔ Unreadable p v g := by
  constructor
  · intro h
    rcases hv with rfl | ⟨n, rfl⟩ | ⟨x, rfl⟩
    · cases h
      exact .unnamed
    · unfold duration at h
      dsimp only at h
      split at h
      · rename_i hn
        cases h
        exact .large (Binary64.ofInt?_eq_none_iff.mp hn)
      · split at h
        · cases h
        · cases h
          cases hg
    · unfold duration at h
      dsimp only at h
      split at h
      · cases h
      · cases h
        cases hg
  · intro h
    cases h with
    | unnamed => rfl
    | large hn => simp only [duration, Binary64.ofInt?_eq_none_iff.mpr hn]

/-- The first phase whose number is refused decides. -/
theorem timeoutsOf_eq_error_iff {v : Phase → Value} {g : Fault} :
    timeoutsOf (v .connect) (v .write) (v .read) = .error g ↔
      ∃ p, (v p).duration p = .error g ∧ ∀ q, q.code < p.code → ∃ d, (v q).duration q = .ok d := by
  unfold timeoutsOf
  simp only [Except.bind_eq_error_iff]
  constructor
  · rintro (h | ⟨c, hc, h | ⟨w, hw, h | ⟨_, -, ⟨⟩⟩⟩⟩)
    · refine ⟨.connect, h, fun q hq => ?_⟩
      cases q <;> cases hq
    · refine ⟨.write, h, fun q hq => ?_⟩
      cases q with
      | connect => exact ⟨c, hc⟩
      | write | read => exact absurd hq (by decide)
    · refine ⟨.read, h, fun q hq => ?_⟩
      cases q with
      | connect => exact ⟨c, hc⟩
      | write => exact ⟨w, hw⟩
      | read => exact absurd hq (by decide)
  · rintro ⟨p, h, hfirst⟩
    cases p with
    | connect => exact .inl h
    | write =>
      obtain ⟨c, hc⟩ := hfirst .connect (by decide)
      exact .inr ⟨c, hc, .inl h⟩
    | read =>
      obtain ⟨c, hc⟩ := hfirst .connect (by decide)
      obtain ⟨w, hw⟩ := hfirst .write (by decide)
      exact .inr ⟨c, hc, .inr ⟨w, hw, .inl h⟩⟩

end Value

namespace Settings

open Value (IsSeconds Unreadable)

variable {words : List (List Sign)} {opts : Named} {s r : Settings} {log : Log} {f : Failure}

/-- What the log of a command line fails for in another way than by a bad value. -/
inductive SpoilsLog (s : Settings) (log : Log) : Failure → Prop
  /-- A level without a word. -/
  | level (h : s.get .logLevel = .list []) : SpoilsLog s log (.fault .noSuchPart)
  /-- A file that the disk of the log does not open. -/
  | file {v : Level} {name : Bytes} {e : IoError} (hlevel : Level.ofValue (s.get .logLevel) = .ok v)
      (hname : Log.nameOf log.disk (s.get .logFile) = .ok (some name)) (hzero : 0 ∉ name)
      (hrefused : log.disk.refusal log.files name = some e) : SpoilsLog s log (.peer (.io e))

theorem Fits.get_text_of_default (hs : s.Fits) {g : Flag} {t : Text} (hg : g.kind = .text) (ht : g.default = .text t) :
    s.get g = .list [] ∨ ∃ ss, s.get g = .ofSigns ss := by
  rcases hs.get_text hg with h | h
  · exact .inr ⟨t.signs, (h.trans ht).trans (Value.ofSigns_signs t).symm⟩
  · exact h

theorem level_signs_error {ss : List Sign} {g : Fault} (h : Level.ofValue (.ofSigns ss) = .error g) : g.isBadValue = true := by
  rcases Sign.text_or_broken ss with ⟨t, rfl⟩ | ⟨b, rfl⟩
  · rw [Value.ofSigns_signs, Level.ofValue] at h
    split at h
    · cases h
    · cases h
      rfl
  · rw [Value.ofSigns_broken] at h
    cases h
    rfl

theorem Fits.level_failed_iff (hs : s.Fits) {g : Fault} (hg : g.isBadValue = false) :
    Level.ofValue (s.get .logLevel) = .error g ↔ s.get .logLevel = .list [] ∧ g = .noSuchPart := by
  rcases hs.get_text_of_default (g := .logLevel) rfl rfl with h | ⟨ss, h⟩
  · simp [h, Level.ofValue, eq_comm]
  · constructor
    · intro he
      rw [h] at he
      exact absurd (level_signs_error he) (Bool.eq_false_iff.mp hg)
    · rintro ⟨hl, -⟩
      exact absurd (h.symm.trans hl) (Value.ofSigns_ne rfl ss)

theorem Fits.layout_error (hs : s.Fits) {g : Fault} (h : Log.layoutOf (s.get .logFormat) = .error g) : g.isBadValue = true := by
  unfold Log.layoutOf at h
  split at h
  · cases h
  rename_i hgiven
  rcases hs.get_text_of_default (g := .logFormat) rfl rfl with hl | ⟨ss, hl⟩
  · exact absurd (by rw [hl]; rfl) hgiven
  · rw [hl] at h
    rcases Sign.text_or_broken ss with ⟨t, rfl⟩ | ⟨b, rfl⟩
    · rw [Value.ofSigns_signs] at h
      dsimp only at h
      split at h
      · cases h
      · cases h
        rfl
    · rw [Value.ofSigns_broken] at h
      dsimp only at h
      split at h
      · cases h
      · cases h
        rfl

theorem Fits.nameOf_error (hs : s.Fits) (h : Log.nameOf log.disk (s.get .logFile) = .error f) : f.isBadValue = true := by
  rcases hs.get_text (f := .logFile) rfl with hl | hl | ⟨ss, hl⟩
  · rw [hl] at h
    cases h
  · rw [hl] at h
    cases h
  · rw [hl] at h
    exact Log.nameOf_signs_error h

theorem Fits.file_failed_iff (hs : s.Fits) (hf : f.isBadValue = false) :
    Log.openSetting log.disk (s.get .logFile) log.files = .error f ↔
      ∃ name e, Log.nameOf log.disk (s.get .logFile) = .ok (some name) ∧
        0 ∉ name ∧ log.disk.refusal log.files name = some e ∧ f = .peer (.io e) := by
  rw [Log.openSetting_eq_error_iff]
  constructor
  · rintro (h | ⟨name, hname, h⟩)
    · exact absurd (hs.nameOf_error h) (Bool.eq_false_iff.mp hf)
    · rcases Log.openFile_eq_error_iff.mp h with ⟨-, rfl⟩ | ⟨hzero, e, he, rfl⟩
      · cases hf
      · exact ⟨name, e, hname, hzero, he, rfl⟩
  · rintro ⟨name, e, hname, hzero, he, rfl⟩
    exact .inr ⟨name, hname, Log.openFile_eq_error_iff.mpr (.inr ⟨hzero, e, he, rfl⟩)⟩

theorem Fits.setup_failed_iff (hs : s.Fits) (hf : f.isBadValue = false) :
    (log.setup (s.get .logFile) (s.get .logLevel) (s.get .logFormat)).1 = .error f ↔ SpoilsLog s log f := by
  rw [Log.setup_eq_error_iff]
  constructor
  · rintro (⟨g, hg, rfl⟩ | ⟨v, hv, ho | ⟨o, g, -, hg, rfl⟩⟩)
    · obtain ⟨hlevel, rfl⟩ := (hs.level_failed_iff hf).mp hg
      exact .level hlevel
    · obtain ⟨name, e, hname, hzero, he, rfl⟩ := (hs.file_failed_iff hf).mp ho
      exact .file hv hname hzero he
    · exact absurd (hs.layout_error hg) (Bool.eq_false_iff.mp hf)
  · intro h
    cases h with
    | level h => exact .inl ⟨_, (hs.level_failed_iff rfl).mpr ⟨h, rfl⟩, rfl⟩
    | file hlevel hname hzero he =>
      exact .inr ⟨_, hlevel, .inl ((hs.file_failed_iff rfl).mpr ⟨_, _, hname, hzero, he, rfl⟩)⟩

/-! ## User and payload -/

/-- What user and payload fail for: nobody asks whether they are text. -/
inductive SpoilsData (s : Settings) (opts : Named) : Failure → Prop
  | user {b : BrokenText} (h : Follows s opts .user (.broken b)) :
      SpoilsData s opts (.fault (.coding (.unencodable b.refusal)))
  | payload {b : BrokenText} (huser : ∀ c, ¬ Follows s opts .user (.broken c)) (h : Follows s opts .payload (.broken b)) :
      SpoilsData s opts (.fault (.coding (.unencodable b.refusal)))

/-- User and payload that become data. -/
def HasData (s : Settings) (opts : Named) : Prop := ∀ g ∈ [.user, .payload], ∀ b, ¬ Follows s opts g (.broken b)

theorem toBytes_mapError_eq_iff {v : Value} {e : Stop} : v.toBytes.mapError (fun f => Stop.failed (.fault f)) = .error e ↔
    ∃ b, v = .broken b ∧ e = .failed (.fault (.coding (.unencodable b.refusal))) := by
  rw [Except.mapError_eq_error_iff]
  constructor
  · rintro ⟨f, hf, rfl⟩
    obtain ⟨b, rfl, rfl⟩ := Value.toBytes_eq_error_iff.mp hf
    exact ⟨b, rfl, rfl⟩
  · rintro ⟨b, rfl, rfl⟩
    exact ⟨_, rfl, rfl⟩

theorem toBytes_mapError_isOk_iff {v : Value} : (∃ u, v.toBytes.mapError (fun f => Stop.failed (.fault f)) = .ok u) ↔
    ∀ b, v ≠ .broken b := by
  constructor
  · rintro ⟨u, hu⟩ b rfl
    cases hu
  · intro h
    cases hv : v.toBytes with
    | ok u => exact ⟨u, rfl⟩
    | error f =>
      obtain ⟨b, rfl, -⟩ := Value.toBytes_eq_error_iff.mp hv
      exact absurd rfl (h b)

/-- User, payload and timeouts are looked at in this order. -/
theorem resolved_failed_iff : s.resolved opts = .error (.failed f) ↔
    SpoilsData s opts f ∨ HasData s opts ∧ (s.timeoutsOf opts).mapError Stop.of = .error (.failed f) := by
  have hdata : HasData s opts ↔ (∀ b, s.chosen opts .user ≠ .broken b) ∧ ∀ b, s.chosen opts .payload ≠ .broken b := by
    simp [HasData, follows_iff, eq_comm]
  rw [hdata, resolved, payloadOf_eq]
  simp only [Except.bind_eq_error_iff, reduceCtorEq, and_false, exists_false, or_false]
  constructor
  · rintro (h | ⟨u, hu, h | ⟨q, hq, h⟩⟩)
    · obtain ⟨b, hb, ⟨⟩⟩ := toBytes_mapError_eq_iff.mp h
      exact .inl (.user (follows_iff.mpr hb.symm))
    · obtain ⟨b, hb, ⟨⟩⟩ := toBytes_mapError_eq_iff.mp h
      refine .inl (.payload (fun c hc => ?_) (follows_iff.mpr hb.symm))
      exact toBytes_mapError_isOk_iff.mp ⟨u, hu⟩ c (follows_iff.mp hc).symm
    · exact .inr ⟨⟨toBytes_mapError_isOk_iff.mp ⟨u, hu⟩, toBytes_mapError_isOk_iff.mp ⟨q, hq⟩⟩, h⟩
  · rintro (h | ⟨⟨huser, hpayload⟩, h⟩)
    · cases h with
      | user h => exact .inl (toBytes_mapError_eq_iff.mpr ⟨_, (follows_iff.mp h).symm, rfl⟩)
      | payload huser h =>
        obtain ⟨u, hu⟩ := toBytes_mapError_isOk_iff.mpr fun c hc => huser c (follows_iff.mpr hc.symm)
        exact .inr ⟨u, hu, .inl (toBytes_mapError_eq_iff.mpr ⟨_, (follows_iff.mp h).symm, rfl⟩)⟩
    · obtain ⟨u, hu⟩ := toBytes_mapError_isOk_iff.mpr huser
      obtain ⟨q, hq⟩ := toBytes_mapError_isOk_iff.mpr hpayload
      exact .inr ⟨u, hu, .inr ⟨q, hq, h⟩⟩

/-! ## Timeouts -/

/-- The flag of one timeout. -/
def timeoutFlag : Phase → Flag
  | .connect => .connectTimeout
  | .write => .writeTimeout
  | .read => .readTimeout

/-- What the timeouts fail for in another way than by a bad value: the first number that does counts. -/
inductive SpoilsTimeouts (s : Settings) (opts : Named) : Failure → Prop
  | whole (h : Follows s opts .timeouts (.list [])) : SpoilsTimeouts s opts (.fault .noSuchPart)
  | phase {p : Phase} {v : Value} {g : Fault} (hnone : Follows s opts .timeouts .nothing)
      (hfirst : ∀ q, q.code < p.code → ∃ w d, Follows s opts (timeoutFlag q) w ∧ IsSeconds d w)
      (hv : Follows s opts (timeoutFlag p) v) (h : Unreadable p v g) : SpoilsTimeouts s opts (.fault g)

/-- Options for the timeouts of the types that they are meant to have. -/
structure Documented (opts : Named) : Prop where
  whole : ∀ v, opts.lookup Flag.timeouts.key = some v → v = .nothing ∨ (∃ ss, v = .ofSigns ss) ∨ ∃ t, v = .timeouts t
  phase : ∀ p v, opts.lookup (timeoutFlag p).key = some v → (∃ n, v = .int n) ∨ ∃ x, v = .real x

theorem chosen_phase (hs : s.Fits) (ho : Documented opts) (p : Phase) : s.chosen opts (timeoutFlag p) = .list [] ∨
    (∃ n, s.chosen opts (timeoutFlag p) = .int n) ∨ ∃ x, s.chosen opts (timeoutFlag p) = .real x := by
  rcases chosen_cases s opts (timeoutFlag p) with ⟨v, hv, h⟩ | h
  · rw [h]
    exact .inr (ho.phase p v hv)
  rw [h]
  rcases hs.get_real (f := timeoutFlag p) (by cases p <;> rfl) with h | h | h
  · exact .inr (.inr ⟨Duration.ten.number, h.trans (by cases p <;> rfl)⟩)
  · exact .inl h
  · exact .inr (.inr h)

theorem chosen_whole (hs : s.Fits) (ho : Documented opts) : s.chosen opts .timeouts = .nothing ∨
    s.chosen opts .timeouts = .list [] ∨ (∃ ss, s.chosen opts .timeouts = .ofSigns ss) ∨
      ∃ t, s.chosen opts .timeouts = .timeouts t := by
  rcases chosen_cases s opts .timeouts with ⟨v, hv, h⟩ | h
  · rw [h]
    rcases ho.whole v hv with hv | hv
    · exact .inl hv
    · exact .inr (.inr hv)
  rw [h]
  rcases hs.get_text (f := .timeouts) rfl with h | h | h
  · exact .inl h
  · exact .inr (.inl h)
  · exact .inr (.inr (.inl h))

theorem phases_failed_iff (hs : s.Fits) (ho : Documented opts) {g : Fault} (hg : g.isBadValue = false) :
    Value.timeoutsOf (s.chosen opts .connectTimeout) (s.chosen opts .writeTimeout) (s.chosen opts .readTimeout) = .error g ↔
      ∃ p, Unreadable p (s.chosen opts (timeoutFlag p)) g ∧
        ∀ q, q.code < p.code → ∃ d, IsSeconds d (s.chosen opts (timeoutFlag q)) := by
  have herror := Value.timeoutsOf_eq_error_iff (v := fun p => s.chosen opts (timeoutFlag p)) (g := g)
  refine herror.trans (exists_congr fun p => and_congr ?_ ?_)
  · exact Value.duration_failed_iff (chosen_phase hs ho p) hg
  · exact forall₂_congr fun q _ => exists_congr fun d => Value.duration_eq_ok_iff

theorem SpoilsLog.isBadValue (h : SpoilsLog s log f) : f.isBadValue = false := by
  cases h <;> rfl

theorem SpoilsTimeouts.isBadValue (h : SpoilsTimeouts s opts f) : f.isBadValue = false := by
  cases h with
  | whole => rfl
  | phase _ _ _ h => cases h <;> rfl

theorem timeoutsOf_signs_error {ss : List Sign} (hw : s.chosen opts .timeouts = .ofSigns ss)
    (h : s.timeoutsOf opts = .error f) : f.isBadValue = true := by
  rw [timeoutsOf, hw] at h
  rcases Sign.text_or_broken ss with ⟨t, rfl⟩ | ⟨b, rfl⟩
  · rw [Value.ofSigns_signs] at h
    simp only [Value.readTimeouts] at h
    split at h
    · cases h
    · cases h
      rfl
  · rw [Value.ofSigns_broken] at h
    cases h
    rfl

theorem timeoutsOf_failed_iff (hs : s.Fits) (ho : Documented opts) (hf : f.isBadValue = false) :
    s.timeoutsOf opts = .error f ↔ SpoilsTimeouts s opts f := by
  constructor
  · intro h
    rcases chosen_whole hs ho with hw | hw | ⟨ss, hw⟩ | ⟨t, hw⟩
    · rw [timeoutsOf, hw] at h
      obtain ⟨g, hg, rfl⟩ := Except.mapError_eq_error_iff.mp h
      obtain ⟨p, hp, hfirst⟩ := (phases_failed_iff hs ho hf).mp hg
      refine .phase (follows_iff.mpr hw.symm) (fun q hq => ?_) (follows_iff.mpr rfl) hp
      obtain ⟨d, hd⟩ := hfirst q hq
      exact ⟨_, d, follows_iff.mpr rfl, hd⟩
    · rw [timeoutsOf, hw] at h
      cases h
      exact .whole (follows_iff.mpr hw.symm)
    · exact absurd (timeoutsOf_signs_error hw h) (Bool.eq_false_iff.mp hf)
    · rw [timeoutsOf, hw] at h
      cases h
  · intro h
    unfold timeoutsOf
    cases h with
    | whole h =>
      rw [← follows_iff.mp h]
      rfl
    | phase hnone hfirst hv h =>
      rw [← follows_iff.mp hnone]
      refine Except.mapError_eq_error_iff.mpr ⟨_, ?_, rfl⟩
      refine (phases_failed_iff hs ho hf).mpr ⟨_, follows_iff.mp hv ▸ h, fun q hq => ?_⟩
      obtain ⟨w, d, hw, hd⟩ := hfirst q hq
      exact ⟨d, follows_iff.mp hw ▸ hd⟩

/-! ## Ends -/

/-- What ends a run without settings in another way than as help, version or a mistake of usage. -/
inductive Escapes (s : Settings) (opts : Named) (log : Log) (f : Failure) : Prop
  | log (h : SpoilsLog s log f)
  | data (hlog : (log.setup (s.get .logFile) (s.get .logLevel) (s.get .logFormat)).1 = .ok ()) (h : SpoilsData s opts f)
  | timeouts (hlog : (log.setup (s.get .logFile) (s.get .logLevel) (s.get .logFormat)).1 = .ok ())
      (hdata : HasData s opts) (h : SpoilsTimeouts s opts f)

theorem setup_stop_iff (hs : s.Fits) :
    (∃ g, (log.setup (s.get .logFile) (s.get .logLevel) (s.get .logFormat)).1 = .error g ∧ Stop.of g = .failed f) ↔
      SpoilsLog s log f := by
  simp only [Stop.of_eq_failed_iff]
  constructor
  · rintro ⟨g, hg, rfl, hf⟩
    exact (hs.setup_failed_iff hf).mp hg
  · intro h
    exact ⟨f, (hs.setup_failed_iff h.isBadValue).mpr h, rfl, h.isBadValue⟩

theorem timeouts_stop_iff (hs : s.Fits) (ho : Documented opts) :
    (s.timeoutsOf opts).mapError Stop.of = .error (.failed f) ↔ SpoilsTimeouts s opts f := by
  rw [Except.mapError_eq_error_iff]
  simp only [Stop.of_eq_failed_iff]
  constructor
  · rintro ⟨g, hg, rfl, hf⟩
    exact (timeoutsOf_failed_iff hs ho hf).mp hg
  · intro h
    exact ⟨f, (timeoutsOf_failed_iff hs ho h.isBadValue).mpr h, rfl, h.isBadValue⟩

/-- After the words the log comes first, and with a log user, payload and timeouts in their order. -/
theorem escapes_iff (hs : s.Fits) (ho : Documented opts) : Escapes s opts log f ↔
    (∃ g, (log.setup (s.get .logFile) (s.get .logLevel) (s.get .logFormat)).1 = .error g ∧ Stop.of g = .failed f) ∨
      (log.setup (s.get .logFile) (s.get .logLevel) (s.get .logFormat)).1 = .ok () ∧
        s.resolved opts = .error (.failed f) := by
  rw [setup_stop_iff hs, resolved_failed_iff, timeouts_stop_iff hs ho]
  constructor
  · intro h
    cases h with
    | log h => exact .inl h
    | data hlog h => exact .inr ⟨hlog, .inl h⟩
    | timeouts hlog hdata h => exact .inr ⟨hlog, .inr ⟨hdata, h⟩⟩
  · rintro (h | ⟨hlog, h | ⟨hdata, h⟩⟩)
    · exact .log h
    · exact .data hlog h
    · exact .timeouts hlog hdata h

theorem prepare_failed_iff (ho : Documented opts) : (prepare (words.map .ofSigns) opts log).1 = .error (.failed f) ↔
    ∃ s, Arguments.parse (words.map .ofSigns) = .ok s ∧ Escapes s opts log f := by
  unfold prepare
  cases hp : Arguments.parse (words.map .ofSigns) with
  | error e =>
    obtain ⟨x, rfl⟩ := Arguments.parse_words_ended hp
    exact ⟨nofun, nofun⟩
  | ok s =>
    simp only [Except.ok.injEq, exists_eq_left', escapes_iff (Arguments.parse_fits hp) ho]
    rcases log.setup (s.get .logFile) (s.get .logLevel) (s.get .logFormat) with ⟨_ | ⟨⟩, log'⟩
    · simp
    · simp

/-- A command line, with options for the timeouts of the types that they are meant to have, gives settings whose
timeouts are finite and not negative, or else ends with the code of help, version or a mistake of usage, unless
something escapes; and what escapes is known exactly. -/
theorem prepare_ends_or_escapes (words : List (List Sign)) {opts : Named} (ho : Documented opts) (log : Log) :
    let outcome := (prepare (words.map .ofSigns) opts log).1
    (∀ r, outcome = .ok r → ∃ t, r.get .timeouts = .timeouts t ∧
      ∀ p, (t.get p).number.isFinite = true ∧ (t.get p).number.isNegative = false) ∧
    ((¬ ∃ s f, Arguments.parse (words.map .ofSigns) = .ok s ∧ Escapes s opts log f) →
      (∃ r, outcome = .ok r) ∨ ∃ e, outcome = .error (.ended e) ∧ (e.code = 0 ∨ e.code = 2)) ∧
    ∀ f, outcome = .error (.failed f) ↔ ∃ s, Arguments.parse (words.map .ofSigns) = .ok s ∧ Escapes s opts log f := by
  intro outcome
  refine ⟨fun r hr => ?_, fun hno => ?_, fun f => prepare_failed_iff ho⟩
  · have hprepare : prepare (words.map .ofSigns) opts log = (.ok r, _) := Prod.ext hr rfl
    obtain ⟨s, -, -, hresolved⟩ := prepare_eq_ok_iff.mp hprepare
    obtain ⟨t, -, ht⟩ := hresolved.timeouts
    exact ⟨t, ht, fun p => ⟨(t.get p).isFinite, (t.get p).notNegative⟩⟩
  · rcases h : outcome with (e | f) | r
    · refine .inr ⟨e, rfl, ?_⟩
      cases e with
      | help | version => exact .inl rfl
      | usage => exact .inr rfl
    · obtain ⟨s, hs, he⟩ := (prepare_failed_iff ho).mp h
      exact absurd ⟨s, f, hs, he⟩ hno
    · exact .inl ⟨r, rfl⟩

/-- A user that is no text is told as no mistake of usage. -/
example (name : BrokenText) : (prepare [] [(.lit "ident", .broken name)] .start).1 =
    .error (.failed (.fault (.coding (.unencodable name.refusal)))) := rfl

/-- A zero with a minus sign is not negative. -/
theorem prepare_ends_or_escapes_zero :
    let words : List (List Sign) := [Text.signs (.lit "--read-timeout=-0.0")]
    let opts : Named := [(.lit "connect_timeout", .int 3)]
    let outcome := (prepare (words.map .ofSigns) opts .start).1
    Documented opts ∧ (¬ ∃ s f, Arguments.parse (words.map .ofSigns) = .ok s ∧ Escapes s opts .start f) ∧
      ∃ r t, outcome = .ok r ∧ r.get .timeouts = .timeouts t ∧
        ∀ p, (t.get p).number.isFinite = true ∧ (t.get p).number.isNegative = false := by
  intro words opts outcome
  have ho : Documented opts := by
    refine ⟨nofun, fun p v hv => ?_⟩
    cases p with
    | connect => exact .inl ⟨3, (Option.some.inj hv).symm⟩
    | write | read => cases hv
  obtain ⟨r, log', h, -⟩ := exists_of_prepare_with (words.map .ofSigns) opts .start (fun _ _ => true) (by decide +kernel)
  have hok : outcome = .ok r := congrArg Prod.fst h
  obtain ⟨hsettings, hends, hescapes⟩ := prepare_ends_or_escapes words ho .start
  have hno : ¬ ∃ s f, Arguments.parse (words.map .ofSigns) = .ok s ∧ Escapes s opts .start f := by
    rintro ⟨s, f, hf⟩
    cases hok.symm.trans ((hescapes f).mpr ⟨s, hf⟩)
  obtain ⟨r', hr⟩ | ⟨e, he, -⟩ := hends hno
  · obtain ⟨t, ht, hp⟩ := hsettings r' hr
    exact ⟨ho, hno, r', t, hr, ht, hp⟩
  · cases hok.symm.trans he

/-- An integer for a timeout that is too large is no mistake of usage. -/
theorem large_timeout_escapes :
    let opts : Named := [(.lit "connect_timeout", .int (10 ^ 400))]
    let words : List (List Sign) := []
    let outcome := (prepare (words.map .ofSigns) opts .start).1
    Documented opts ∧ outcome = .error (.failed (.fault .tooLarge)) ∧
      ¬ ((∃ r, outcome = .ok r) ∨ ∃ e, outcome = .error (.ended e)) := by
  intro opts words outcome
  have ho : Documented opts := by
    refine ⟨nofun, fun p v hv => ?_⟩
    cases p with
    | connect => exact .inl ⟨_, (Option.some.inj hv).symm⟩
    | write | read => cases hv
  have hfirst : Follows .default opts (timeoutFlag .connect) (.int (10 ^ 400)) := .option rfl
  have hlarge : Unreadable .connect (.int (10 ^ 400)) .tooLarge := .large (by decide +kernel)
  have hspoils : SpoilsTimeouts .default opts (.fault .tooLarge) :=
    .phase (.words rfl) (fun q hq => by cases q <;> cases hq) hfirst hlarge
  have hdata : HasData .default opts := by
    intro g hg b hb
    simp only [List.mem_cons, List.not_mem_nil, or_false] at hg
    rcases hg with rfl | rfl <;> cases follows_iff.mp hb
  have hfailed : outcome = .error (.failed (.fault .tooLarge)) :=
    (prepare_failed_iff ho).mpr ⟨.default, Arguments.parse_nil, .timeouts rfl hdata hspoils⟩
  refine ⟨ho, hfailed, ?_⟩
  rintro (⟨r, hr⟩ | ⟨e, he⟩)
  · cases hfailed.symm.trans hr
  · cases hfailed.symm.trans he

end Settings

end SocksTunnel
