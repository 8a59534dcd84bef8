import Mathlib.Algebra.Order.Ring.Unbundled.Rat
import SocksTunnel.Proofs.Command.Precedence
import SocksTunnel.Proofs.Decimal.Rounding
import SocksTunnel.Proofs.Script.Timing

/-
  SocksTunnel.Proofs.Timeouts.Steps — timeouts that are made one after another, from numbers, from
  one number for all phases, from the parts of a setting, from text, or from the timeouts before
  with some phases replaced. Settings are of any type and any size.

  Proved: a number is one of seconds exactly if it is finite and not below zero
  (`exists_isSeconds_iff`), so neither truth values nor text pass, and neither do infinities or what
  is no number. Timeouts come from such numbers alone, whichever way they are made, and a way that
  fails leaves those before it (`made_from_seconds`).
-/

namespace SocksTunnel

/-! ## Numbers of seconds -/

namespace Binary64

variable {x : Binary64}

theorem value_nonneg_iff : 0 ≤ x.value ↔ x.sign = false ∨ x.magnitude = 0 := by
  obtain ⟨k, hk⟩ : ∃ k, k = 1074 := ⟨_, rfl⟩
  have hpow : Nat.pow 2 k ≠ 0 := (Nat.two_pow_pos k).ne'
  rw [value, ← hk, Rat.mkRat_nonneg_iff _ hpow]
  cases x.sign <;> simp

end Binary64

namespace Value

/-- Numbers that timeouts may have: finite and not below zero, and rounded to a finite one if they are whole. -/
inductive IsAllowed : Value → Prop
  | whole {n : Int} (h : 0 ≤ n) (hlarge : n.natAbs < 2 ^ 1024 - 2 ^ 970) : IsAllowed (.int n)
  | real {x : Binary64} (hfinite : x.isFinite = true) (h : 0 ≤ x.value) : IsAllowed (.real x)

theorem exists_isSeconds_iff {v : Value} : (∃ d, IsSeconds d v) ↔ IsAllowed v := by
  constructor
  · rintro ⟨d, @⟨n, hn⟩ | -⟩
    · refine .whole ((Binary64.isNegative_ofInt? hn).2.mp d.notNegative) (Nat.not_le.mp fun hlarge => ?_)
      exact Option.some_ne_none _ (hn.symm.trans (Binary64.ofInt?_eq_none_iff.mpr hlarge))
    · exact .real d.isFinite d.seconds_nonneg
  · rintro (@⟨n, h, hlarge⟩ | ⟨hfinite, h⟩)
    · cases hn : Binary64.ofInt? n with
      | none => exact absurd (Binary64.ofInt?_eq_none_iff.mp hn) (Nat.not_le.mpr hlarge)
      | some x =>
        obtain ⟨hfinite, hneg⟩ := Binary64.isNegative_ofInt? hn
        exact ⟨⟨x, hfinite, hneg.mpr h⟩, .whole hn⟩
    · exact ⟨⟨_, hfinite, (Binary64.isNegative_eq_false_iff hfinite).mpr (Binary64.value_nonneg_iff.mp h)⟩, .real⟩

theorem IsSeconds.unique {d e : Duration} {v : Value} (h : IsSeconds d v) (h' : IsSeconds e v) : d = e :=
  Except.ok.inj ((duration_eq_ok_iff (p := .connect).mpr h).symm.trans (duration_eq_ok_iff.mpr h'))

theorem isSeconds_real_iff {x : Binary64} {d : Duration} : IsSeconds d (.real x) ↔ d.number = x :=
  ⟨fun h => by cases h; rfl, fun h => h ▸ .real⟩

end Value

theorem Duration.ext {d e : Duration} (h : d.number = e.number) : d = e := by
  cases d
  cases e
  cases h
  rfl

namespace Timeouts

open Value (IsSeconds)

variable {now : Option Timeouts} {s t : Timeouts} {fields : List (Text × Value)}

/-! ## One step -/

/-- A way to make timeouts. -/
inductive Step where
  | new (settings : List Value)
  | uniform (settings : List Value)
  /-- From the parts of a setting. -/
  | row (setting : Value)
  | read (setting : Value)
  | replace (fields : List (Text × Value))

/-- Makes timeouts, and replaces those before it where it does. -/
def perform (now : Option Timeouts) : Step → Except Failure Timeouts
  | .new settings => (Value.timeoutsOfList settings).mapError .fault
  | .uniform [] => .ok (Timeouts.uniform .ten)
  | .uniform [v] => (Value.timeoutsOf v v v).mapError .fault
  | .uniform _ => .error (.fault .wrongType)
  | .row v => (v.elements >>= Value.timeoutsOfList).mapError .fault
  | .read v => v.readTimeouts
  | .replace fields =>
    match now with
    | some t => (t.replaced fields).mapError .fault
    | none => .error (.fault .noSuchPart)

/-- The timeouts after a step: new ones, or those before it if it fails. -/
def next (now : Option Timeouts) (s : Step) : Option Timeouts :=
  match perform now s with
  | .ok t => some t
  | .error _ => now

def after (now : Option Timeouts) (steps : List Step) : Option Timeouts := steps.foldl next now

/-- What replacing some phases makes of timeouts: the fields are those of phases, each that is named has the number of its
field, and each other one is as it was. -/
structure Replaces (s : Timeouts) (fields : List (Text × Value)) (t : Timeouts) : Prop where
  names : ∀ e ∈ fields, ∃ p : Phase, e.1 = .lit p.name
  named : ∀ p v, Value.named? fields p = some v → IsSeconds (t.get p) v
  kept : ∀ p, Value.named? fields p = none → t.get p = s.get p

/-- The timeouts that a step makes. -/
inductive Makes (now : Option Timeouts) : Step → Timeouts → Prop
  | new {c w r : Value} {t : Timeouts} (hc : IsSeconds t.connect c) (hw : IsSeconds t.write w) (hr : IsSeconds t.read r) :
      Makes now (.new [c, w, r]) t
  | uniform {v : Value} {d : Duration} (h : IsSeconds d v) : Makes now (.uniform [v]) (.uniform d)
  | ten : Makes now (.uniform []) (.uniform .ten)
  | row {v c w r : Value} {t : Timeouts} (hv : v.elements? = some [c, w, r]) (hc : IsSeconds t.connect c)
      (hw : IsSeconds t.write w) (hr : IsSeconds t.read r) : Makes now (.row v) t
  | read {u : Text} {t : Timeouts} (h : Line.IsLimits u t) : Makes now (.read (.text u)) t
  | replace {s t : Timeouts} {fields : List (Text × Value)} (hnow : now = some s) (h : Replaces s fields t) :
      Makes now (.replace fields) t

theorem timeoutsOfList_eq_ok_iff {vs : List Value} : Value.timeoutsOfList vs = .ok t ↔
    ∃ c w r, vs = [c, w, r] ∧ IsSeconds t.connect c ∧ IsSeconds t.write w ∧ IsSeconds t.read r := by
  unfold Value.timeoutsOfList
  split
  · rename_i c w r
    rw [Value.timeoutsOf_eq_ok_iff]
    exact ⟨fun h => ⟨c, w, r, rfl, h⟩, fun ⟨_, _, _, hvs, h⟩ => by cases hvs; exact h⟩
  · rename_i hvs
    exact ⟨nofun, fun ⟨c, w, r, h, _⟩ => absurd h (hvs c w r)⟩

theorem timeoutsOf_get {v : Phase → Value} :
    Value.timeoutsOf (v .connect) (v .write) (v .read) = .ok t ↔ ∀ p, IsSeconds (t.get p) (v p) := by
  rw [Value.timeoutsOf_eq_ok_iff]
  exact ⟨fun ⟨hc, hw, hr⟩ p => by cases p <;> assumption, fun h => ⟨h .connect, h .write, h .read⟩⟩

theorem isSeconds_setting_iff {p : Phase} {d : Duration} : IsSeconds d (s.setting fields p) ↔
    (∀ v, Value.named? fields p = some v → IsSeconds d v) ∧ (Value.named? fields p = none → d = s.get p) := by
  unfold setting
  cases Value.named? fields p with
  | some v => exact ⟨fun h => ⟨fun _ hv => Option.some.inj hv ▸ h, nofun⟩, fun h => h.1 v rfl⟩
  | none =>
    have hnumber : d.number = (s.get p).number ↔ d = s.get p := ⟨Duration.ext, congrArg _⟩
    show IsSeconds d (.real (s.get p).number) ↔ _
    rw [Value.isSeconds_real_iff, hnumber]
    exact ⟨fun h => ⟨nofun, fun _ => h⟩, fun h => h.2 rfl⟩

theorem unnamed_eq_nil_iff : (fields.map (·.1)).filter (fun n => !Phase.all.any fun p => Text.lit p.name == n) = [] ↔
    ∀ e ∈ fields, ∃ p : Phase, e.1 = .lit p.name := by
  have hname (n : Text) : (∃ p ∈ Phase.all, Text.lit p.name = n) ↔ ∃ p : Phase, n = .lit p.name :=
    ⟨fun ⟨p, _, hp⟩ => ⟨p, hp.symm⟩, fun ⟨p, hp⟩ => ⟨p, by cases p <;> decide, hp.symm⟩⟩
  simp [List.filter_eq_nil_iff, hname]

theorem replaced_eq_ok_iff : s.replaced fields = .ok t ↔ Replaces s fields t := by
  have hsettings : Value.timeoutsOf (s.setting fields .connect) (s.setting fields .write) (s.setting fields .read) = .ok t ↔
      ∀ p, IsSeconds (t.get p) (s.setting fields p) := timeoutsOf_get
  constructor
  · intro h
    obtain ⟨u, hu, h⟩ := Except.bind_eq_ok_iff.mp h
    split at h
    · rename_i hnames
      cases h
      have hfields (p : Phase) := isSeconds_setting_iff.mp (hsettings.mp hu p)
      exact ⟨unnamed_eq_nil_iff.mp hnames, fun p => (hfields p).1, fun p => (hfields p).2⟩
    · cases h
  · rintro ⟨hnames, hnamed, hkept⟩
    refine Except.bind_eq_ok_iff.mpr ⟨t, hsettings.mpr fun p => isSeconds_setting_iff.mpr ⟨hnamed p, hkept p⟩, ?_⟩
    rw [unnamed_eq_nil_iff.mpr hnames]

theorem elements_eq_ok_iff {v : Value} {items : List Value} : v.elements = .ok items ↔ v.elements? = some items := by
  unfold Value.elements
  cases v.elements? <;> simp

/-- What a step makes, and from what. -/
theorem perform_eq_ok_iff {step : Step} : perform now step = .ok t ↔ Makes now step t := by
  cases step with
  | new settings =>
    rw [perform, Except.mapError_eq_ok_iff, timeoutsOfList_eq_ok_iff]
    constructor
    · rintro ⟨c, w, r, rfl, hc, hw, hr⟩
      exact .new hc hw hr
    · rintro ⟨hc, hw, hr⟩
      exact ⟨_, _, _, rfl, hc, hw, hr⟩
  | uniform settings =>
    match settings with
    | [] => exact ⟨fun h => by cases h; exact .ten, fun h => by cases h; rfl⟩
    | [v] =>
      rw [perform, Except.mapError_eq_ok_iff, Value.timeoutsOf_eq_ok_iff]
      constructor
      · rintro ⟨hc, hw, hr⟩
        obtain ⟨c, w, r⟩ := t
        obtain rfl : c = w := hc.unique hw
        obtain rfl : c = r := hc.unique hr
        exact .uniform hc
      · intro h
        cases h with
        | uniform h => exact ⟨h, h, h⟩
    | _ :: _ :: _ => exact ⟨nofun, nofun⟩
  | row v =>
    rw [perform, Except.mapError_eq_ok_iff, Except.bind_eq_ok_iff]
    constructor
    · rintro ⟨items, hv, h⟩
      obtain ⟨c, w, r, rfl, hc, hw, hr⟩ := timeoutsOfList_eq_ok_iff.mp h
      exact .row (elements_eq_ok_iff.mp hv) hc hw hr
    · rintro ⟨⟩
      rename_i hv hc hw hr
      exact ⟨_, elements_eq_ok_iff.mpr hv, timeoutsOfList_eq_ok_iff.mpr ⟨_, _, _, rfl, hc, hw, hr⟩⟩
  | read v =>
    rw [perform, Value.readTimeouts_eq_ok_iff]
    exact ⟨fun ⟨u, hu, h⟩ => hu ▸ .read h, fun h => by cases h; exact ⟨_, rfl, ‹_›⟩⟩
  | replace fields =>
    cases now with
    | none => exact ⟨nofun, fun h => by cases h; contradiction⟩
    | some s =>
      rw [perform, Except.mapError_eq_ok_iff, replaced_eq_ok_iff]
      exact ⟨.replace rfl, fun h => by cases h with | replace hnow h => exact Option.some.inj hnow ▸ h⟩

/-! ## Steps in a row -/

theorem after_snoc (now : Option Timeouts) (steps : List Step) (s : Step) :
    after now (steps ++ [s]) = next (after now steps) s := List.foldl_append

/-- A number stands for seconds exactly if it is finite and not below zero. After any steps, a further one makes timeouts
exactly from such numbers, they are then the current ones, and each of theirs is finite and not below zero; if it fails,
the current ones stay. Text that has no three such numbers is refused as it was given. -/
theorem made_from_seconds :
    (∀ v : Value, (∃ d, IsSeconds d v) ↔ v.IsAllowed) ∧
    ∀ (start : Option Timeouts) (steps : List Step) (s : Step),
      let now := after start steps
      (∀ t, perform now s = .ok t ↔ Makes now s t) ∧
      (∀ t, perform now s = .ok t → after start (steps ++ [s]) = some t) ∧
      (∀ f, perform now s = .error f → after start (steps ++ [s]) = now) ∧
      (∀ t, now = some t → ∀ p, (t.get p).number.isFinite = true ∧ 0 ≤ (t.get p).number.value) ∧
      ∀ u : Text, s = .read (.text u) → (∀ t, ¬ Line.IsLimits u t) → perform now s = .error (.wrong .timeouts u) := by
  refine ⟨fun v => Value.exists_isSeconds_iff, fun start steps s => ⟨fun t => perform_eq_ok_iff, fun t ht => ?_, fun f hf => ?_,
    fun t _ p => ?_, ?_⟩⟩
  · rw [after_snoc, next, ht]
  · rw [after_snoc, next, hf]
  · exact ⟨(t.get p).isFinite, (t.get p).seconds_nonneg⟩
  · rintro u rfl hno
    cases hu : parse? u with
    | some t => exact absurd (Line.isLimits_iff.mpr (Value.readTimeouts_text_eq_ok_iff.mpr hu)) (hno t)
    | none => simp only [perform, Value.readTimeouts, hu]

/-- A truth value is refused, a zero with a sign is kept as it is given, and text with a part that is no number is refused. -/
theorem made_from_seconds_signed_zero :
    let zero : Duration := ⟨⟨0x8000000000000000⟩, by decide +kernel, by decide +kernel⟩
    let steps : List Step := [.uniform [.int 10], .new [.bool true, .int 1, .int 1]]
    let replace : Step := .replace [(.lit "read", .real zero.number)]
    let text : Text := .lit "1:nan:1"
    after none steps = some (Timeouts.uniform .ten) ∧ after none (steps ++ [replace]) = some ⟨.ten, .ten, zero⟩ ∧
      zero.number.isFinite = true ∧ 0 ≤ zero.number.value ∧
      perform (after none steps) (.read (.text text)) = .error (.wrong .timeouts text) ∧
      after none (steps ++ [.read (.text text)]) = some (Timeouts.uniform .ten) := by
  intro zero steps replace text
  obtain ⟨-, hrun⟩ := made_from_seconds
  have hten : IsSeconds .ten (.int 10) := .whole (by decide +kernel)
  -- The first step makes timeouts and the second one leaves them.
  obtain ⟨hmakes, hmade, -⟩ := hrun none [] (.uniform [.int 10])
  obtain ⟨-, -, hkept, -⟩ := hrun none [.uniform [.int 10]] (.new [.bool true, .int 1, .int 1])
  have hsteps : after none steps = some (Timeouts.uniform .ten) :=
    (hkept (.fault (.timeoutType .connect (.bool true))) rfl).trans (hmade _ ((hmakes _).mpr (.uniform hten)))
  have hreplaces : Replaces (Timeouts.uniform .ten) [(.lit "read", .real zero.number)] ⟨.ten, .ten, zero⟩ := by
    refine ⟨fun e he => ⟨.read, congrArg Prod.fst (List.mem_singleton.mp he)⟩, fun p v hv => ?_, fun p hp => ?_⟩
    · cases p with
      | read =>
        cases hv
        exact .real
      | connect | write => cases hv
    · cases p with
      | read => cases hp
      | connect | write => rfl
  obtain ⟨hmakes, hmade, -⟩ := hrun none steps replace
  have hreplaced := hmade _ ((hmakes _).mpr (.replace hsteps hreplaces))
  obtain ⟨-, -, -, hvalid, -⟩ := hrun none (steps ++ [replace]) replace
  obtain ⟨hfinite, hnonneg⟩ := hvalid _ hreplaced .read
  obtain ⟨-, -, hkept, -, hread⟩ := hrun none steps (.read (.text text))
  have hrefused := hread text rfl fun t ht => by
    have hparse : parse? text = none := by decide +kernel
    rw [Line.isLimits_iff, Value.readTimeouts_text_eq_ok_iff, hparse] at ht
    cases ht
  exact ⟨hsteps, hreplaced, hfinite, hnonneg, hrefused, (hkept _ hrefused).trans hsteps⟩

end Timeouts

end SocksTunnel
