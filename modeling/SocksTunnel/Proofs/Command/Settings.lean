import SocksTunnel.Command.Options
import SocksTunnel.Proofs.Failure.Chain

/-
  SocksTunnel.Proofs.Command.Settings — what the settings of a run may be. A command line
  gives every flag its default or a value of its kind; a double dash behind an equals sign
  gives it an empty list instead, whatever its kind.

  Proved: carrying out the words of a command line keeps this (`run_fits`), and so the
  settings that are prepared from one have timeouts, data as user and payload, and text and
  numbers for the rest, but for those lists (`prepare_prepared`).
-/

namespace SocksTunnel

/-- What a flag of a kind holds once it was given. -/
inductive Flag.Kind.Holds : Flag.Kind → Value → Prop
  | unnamed (k : Flag.Kind) : Holds k (.list [])
  | switch (b : Bool) : Holds .switch (.bool b)
  | text (ss : List Sign) : Holds .text (.ofSigns ss)
  | whole (n : Int) : Holds .whole (.int n)
  | real (x : Binary64) : Holds .real (.real x)
  | choice (p : Protocol) : Holds .choice (.text (.lit p.name))

/-- Every flag has its default or a value of its kind. -/
def Settings.Fits (s : Settings) : Prop := ∀ f, s.get f = f.default ∨ f.kind.Holds (s.get f)

theorem Settings.Fits.set {s : Settings} (h : s.Fits) {f : Flag} {v : Value} (hv : f.kind.Holds v) : (s.set f v).Fits := by
  intro g
  rw [Settings.get_set]
  split
  · rename_i hg
    exact .inr (hg ▸ hv)
  · exact h g

theorem Settings.fits_default : Settings.default.Fits := fun _ => .inl rfl

/-! ## Letters -/

/-- Only flags that take no value have a letter. -/
theorem Flag.kind_of_letter {c : Char} {f : Flag} (h : ofLetter? c = some f) : f.kind = .switch := by
  have hmem : f.names.contains ['-', c] = true := List.find?_some (p := fun f : Flag => f.names.contains ['-', c]) h
  have hlong : ∀ g : Flag, g.longName.length ≠ 2 := by
    intro g
    cases g <;> decide
  have hne : ∀ g : Flag, g.longName ≠ ['-', c] := fun g hg => hlong g (congrArg List.length hg)
  cases f with
  | help | version => rfl
  | _ => exact absurd (List.mem_singleton.mp (List.contains_iff_mem.mp hmem)).symm (hne _)

namespace Arguments

theorem cluster_kind {f : Flag} (hf : f.kind = .switch) {w : List Sign} {fs : List Flag} (h : cluster f w = .ok fs) :
    ∀ g ∈ fs, g.kind = .switch := by
  induction w generalizing f fs with
  | nil =>
    cases h
    intro g hg
    rw [List.mem_singleton.mp hg, hf]
  | cons s r ih =>
    unfold cluster at h
    split at h
    · cases h
    · rename_i g hg
      obtain ⟨c, -, hg⟩ := Option.bind_eq_some_iff.mp hg
      cases hr : cluster g r with
      | error e =>
        rw [hr] at h
        cases h
      | ok gs =>
        rw [hr] at h
        cases h
        exact List.forall_mem_cons.mpr ⟨hf, ih (Flag.kind_of_letter hg) hr⟩

theorem switches_kind {f : Flag} (hf : f.kind = .switch) {name : Text} {given : Option (List Sign)} {fs : List Flag}
    (h : switches f name given = .ok fs) : ∀ g ∈ fs, g.kind = .switch := by
  unfold switches at h
  split at h
  · cases h
    intro g hg
    rw [List.mem_singleton.mp hg, hf]
  · split at h
    · cases h
    · exact cluster_kind hf h

/-! ## Carrying out -/

theorem textOf_eq (v : Value) : ∃ ss, textOf v = .ofSigns ss := by
  cases v with
  | broken b => exact ⟨b.signs, (Value.ofSigns_broken b).symm⟩
  | _ => exact ⟨_, (Value.ofSigns_signs _).symm⟩

theorem valueOf_holds {f : Flag} (hf : f.kind ≠ .switch) {v w : Value} (h : valueOf f v = .ok w) : f.kind.Holds w := by
  unfold valueOf at h
  cases hk : f.kind with
  | switch => exact absurd hk hf
  | text =>
    rw [hk] at h
    cases h
    obtain ⟨ss, hss⟩ := textOf_eq v
    rw [hss]
    exact .text ss
  | whole =>
    rw [hk] at h
    dsimp only at h
    split at h
    · cases h
      exact .whole _
    · cases h
  | real =>
    rw [hk] at h
    dsimp only at h
    split at h
    · cases h
      exact .real _
    · cases h
  | choice =>
    rw [hk] at h
    dsimp only at h
    split at h
    · cases h
      exact .choice _
    · cases h

theorem givenOf_holds {f : Flag} (hf : f.kind ≠ .switch) {ss : List Sign} {w : Value} (h : givenOf f ss = .ok w) :
    f.kind.Holds w := by
  unfold givenOf at h
  split at h
  · cases h
    exact .unnamed _
  · exact valueOf_holds hf h

theorem switchOn_fits {s s' : Settings} (hs : s.Fits) {f : Flag} (hf : f.kind = .switch) (h : switchOn s f = .ok s') :
    s'.Fits := by
  unfold switchOn at h
  split at h
  · cases h
  · cases h
    exact hs.set (hf ▸ .switch true)

theorem foldlM_switchOn_fits {s s' : Settings} (hs : s.Fits) {fs : List Flag} (hf : ∀ f ∈ fs, f.kind = .switch)
    (h : fs.foldlM switchOn s = .ok s') : s'.Fits := by
  induction fs generalizing s with
  | nil =>
    cases h
    exact hs
  | cons f fs ih =>
    rw [List.foldlM_cons] at h
    cases ho : switchOn s f with
    | error e =>
      rw [ho] at h
      cases h
    | ok u =>
      rw [ho] at h
      obtain ⟨hf, hfs⟩ := List.forall_mem_cons.mp hf
      exact ih (switchOn_fits hs hf ho) hfs h

theorem run_fits {s s' : Settings} (hs : s.Fits) {left left' : List Value} {tokens : List (Value × Token)}
    (h : run s left tokens = .ok (s', left')) : s'.Fits := by
  fun_induction run s left tokens with
  | case1 =>
    cases h
    exact hs
  -- switches, a value behind an equals sign, the next word as the value, and a word that is left over
  | case4 s left _ f name given rest hk fs hsw s₁ hfold ih =>
    exact ih (foldlM_switchOn_fits hs (switches_kind hk hsw) hfold) h
  | case6 s left _ f name hk t rest v hv ih => exact ih (hs.set (givenOf_holds hk hv)) h
  | case8 s left _ f name hk v rest w hv ih => exact ih (hs.set (valueOf_holds hk hv)) h
  | case10 s left word _ rest _ ih => exact ih hs h
  | case2 | case3 | case5 | case7 | case9 => cases h

/-- Settings that are parsed come from words that all were carried out. -/
theorem run_of_parse {words : List Value} {s : Settings} (h : parse words = .ok s) :
    ∃ tokens left, run .default [] tokens = .ok (s, left) := by
  unfold parse at h
  cases hc : classifyAll words with
  | error e =>
    rw [hc] at h
    cases h
  | ok tokens =>
    rw [hc] at h
    dsimp only [bind, Except.bind] at h
    split at h
    · cases h
    · rename_i s' left hr
      split at h
      · cases h
      · split at h
        · cases h
        · cases h
          exact ⟨tokens, left, hr⟩

theorem parse_fits {words : List Value} {s : Settings} (h : parse words = .ok s) : s.Fits := by
  obtain ⟨tokens, left, hr⟩ := run_of_parse h
  exact run_fits Settings.fits_default hr

end Arguments

/-! ## Settings of a run -/

/-- What the settings of a run may be that come from a command line alone. -/
structure Settings.Prepared (s : Settings) : Prop where
  timeouts : ∃ t, s.get .timeouts = .timeouts t
  destination : s.get .destination = .nothing ∨ s.get .destination = .list [] ∨ ∃ ss, s.get .destination = .ofSigns ss
  port : s.get .destinationPort = .list [] ∨ ∃ n, s.get .destinationPort = .int n
  user : s.get .user = .list [] ∨ ∃ b, s.get .user = .bytes b
  payload : s.get .payload = .nothing ∨ s.get .payload = .list [] ∨ ∃ b, s.get .payload = .bytes b

namespace Settings

/-- The timeouts of a run. -/
def timeouts? (s : Settings) : Option Timeouts :=
  match s.get .timeouts with
  | .timeouts t => some t
  | _ => none

theorem timeouts?_eq {s : Settings} {t : Timeouts} (h : s.get .timeouts = .timeouts t) : s.timeouts? = some t := by
  rw [timeouts?, h]

theorem set_get (s : Settings) (f : Flag) : s.set f (s.get f) = s := by
  have h : (s.set f (s.get f)).get = s.get := by
    funext g
    rw [get_set]
    split
    · rename_i hg
      rw [hg]
    · rfl
  exact congrArg Settings.mk h

theorem foldl_set_get (s : Settings) (fs : List Flag) : fs.foldl (fun r f => r.set f (s.get f)) s = s := by
  induction fs with
  | nil => rfl
  | cons f fs ih => rw [List.foldl_cons, set_get, ih]

theorem resolved_eq {s s' : Settings} (h : s.resolved [] = .ok s') :
    ∃ u q t, (s.get .user).toBytes = .ok u ∧ payloadOf (s.get .payload) = .ok q ∧
      s' = ((s.set .user u).set .payload q).set .timeouts (.timeouts t) := by
  obtain ⟨u, hu, h⟩ := Except.bind_eq_ok_iff.mp h
  obtain ⟨q, hq, h⟩ := Except.bind_eq_ok_iff.mp h
  obtain ⟨t, -, h⟩ := Except.bind_eq_ok_iff.mp h
  have hsame : replaceable.foldl (fun r f => r.set f (s.chosen [] f)) s = s := foldl_set_get s replaceable
  rw [hsame] at h
  exact ⟨u, q, t, Except.mapError_eq_ok_iff.mp hu, Except.mapError_eq_ok_iff.mp hq, (Except.ok.inj h).symm⟩

theorem Fits.get_text {s : Settings} (hs : s.Fits) {f : Flag} (hf : f.kind = .text) :
    s.get f = f.default ∨ s.get f = .list [] ∨ ∃ ss, s.get f = .ofSigns ss := by
  rcases hs f with h | h
  · exact .inl h
  · rw [hf] at h
    generalize s.get f = v at h
    cases h with
    | unnamed => exact .inr (.inl rfl)
    | text ss => exact .inr (.inr ⟨ss, rfl⟩)

theorem Fits.get_whole {s : Settings} (hs : s.Fits) {f : Flag} (hf : f.kind = .whole) :
    s.get f = f.default ∨ s.get f = .list [] ∨ ∃ n, s.get f = .int n := by
  rcases hs f with h | h
  · exact .inl h
  · rw [hf] at h
    generalize s.get f = v at h
    cases h with
    | unnamed => exact .inr (.inl rfl)
    | whole n => exact .inr (.inr ⟨n, rfl⟩)

theorem Fits.get_real {s : Settings} (hs : s.Fits) {f : Flag} (hf : f.kind = .real) :
    s.get f = f.default ∨ s.get f = .list [] ∨ ∃ x, s.get f = .real x := by
  rcases hs f with h | h
  · exact .inl h
  · rw [hf] at h
    generalize s.get f = v at h
    cases h with
    | unnamed => exact .inr (.inl rfl)
    | real x => exact .inr (.inr ⟨x, rfl⟩)

/-- Of signs only text becomes data. -/
theorem toBytes_ofSigns_eq_ok {ss : List Sign} {u : Value} (h : (Value.ofSigns ss).toBytes = .ok u) : ∃ b, u = .bytes b := by
  rcases Sign.text_or_broken ss with ⟨t, rfl⟩ | ⟨b, rfl⟩
  · rw [Value.ofSigns_signs] at h
    exact ⟨t.utf8, (Except.ok.inj h).symm⟩
  · rw [Value.ofSigns_broken] at h
    cases h

theorem Fits.prepared {s : Settings} (hs : s.Fits) {u q : Value} (hu : (s.get .user).toBytes = .ok u)
    (hq : payloadOf (s.get .payload) = .ok q) (t : Timeouts) :
    (((s.set .user u).set .payload q).set .timeouts (.timeouts t)).Prepared where
  timeouts := ⟨t, rfl⟩
  destination := hs.get_text (f := .destination) rfl
  port := by
    show s.get .destinationPort = .list [] ∨ ∃ n, s.get .destinationPort = .int n
    rcases hs.get_whole (f := .destinationPort) rfl with h | h | h
    · exact .inr ⟨_, h⟩
    · exact .inl h
    · exact .inr h
  user := by
    show u = .list [] ∨ ∃ b, u = .bytes b
    rcases hs.get_text (f := .user) rfl with h | h | ⟨ss, h⟩
    · rw [h] at hu
      exact .inr ⟨[], (Except.ok.inj hu).symm⟩
    · rw [h] at hu
      exact .inl (Except.ok.inj hu).symm
    · rw [h] at hu
      exact .inr (toBytes_ofSigns_eq_ok hu)
  payload := by
    show q = .nothing ∨ q = .list [] ∨ ∃ b, q = .bytes b
    rcases hs.get_text (f := .payload) rfl with h | h | ⟨ss, h⟩
    · rw [h] at hq
      exact .inl (Except.ok.inj hq).symm
    · rw [h] at hq
      exact .inr (.inl (Except.ok.inj hq).symm)
    · have hne : payloadOf (.ofSigns ss) = (Value.ofSigns ss).toBytes := by
        unfold Value.ofSigns
        split <;> rfl
      rw [h, hne] at hq
      exact .inr (.inr (toBytes_ofSigns_eq_ok hq))

theorem prepare_prepared {words : List Value} {log log' : Log} {s : Settings}
    (h : prepare words [] log = (.ok s, log')) : s.Prepared := by
  unfold prepare at h
  split at h
  · cases h
  · rename_i s₀ hp
    split at h
    · cases h
    · obtain ⟨h, -⟩ := Prod.mk.inj h
      cases hr : s₀.resolved [] with
      | error f =>
        rw [hr] at h
        cases h
      | ok s₁ =>
        rw [hr] at h
        cases h
        obtain ⟨u, q, t, hu, hq, rfl⟩ := resolved_eq hr
        exact (Arguments.parse_fits hp).prepared hu hq t

/-- What a test finds of the settings and the log for a run. -/
theorem exists_of_prepare_with (words : List Value) (opts : Named) (log : Log) (test : Settings → Log → Bool)
    (h : (match prepare words opts log with
      | (.ok s, log') => test s log'
      | _ => false) = true) :
    ∃ s log', prepare words opts log = (.ok s, log') ∧ test s log' = true := by
  split at h
  · rename_i s log' hs
    exact ⟨s, log', hs, h⟩
  · cases h

theorem exists_of_prepare (words : List Value) (log : Log) (test : Settings → Log → Bool)
    (h : (match prepare words [] log with
      | (.ok s, log') => test s log'
      | _ => false) = true) :
    ∃ s log', prepare words [] log = (.ok s, log') ∧ test s log' = true :=
  exists_of_prepare_with words [] log test h

end Settings

end SocksTunnel
