import Mathlib.Algebra.Order.Field.Power
import Mathlib.Tactic.FieldSimp
import Mathlib.Tactic.Linarith
import Mathlib.Tactic.Positivity
import SocksTunnel.Proofs.Decimal.Numeral

/-
  SocksTunnel.Proofs.Decimal.Significant — numbers that are written with some significant digits
  and read again.

  Proved: ratios between two that round to a word round to it (`Rounds.between`), and those that do
  are within half a step of the word's own (`Rounds.near`). So on a grid that is not too fine for
  the word, the point nearest to its number rounds to it if any point does (`rounds_grid`): either
  the steps of the word are finer than the grid and these are one point, or the word is one of the
  least unit and whatever is near it rounds to it. The six significant digits of a finite number
  are those of a finite number again (`isFinite_shortened`), and of itself exactly if it is nearest
  to any number of six digits at most (`shortened_eq_self_iff`). Their text is read as that number
  (`readReal?_shortText`).
-/

namespace SocksTunnel.Binary64

variable {q r s u : ℚ} {a d j k m p v w : Nat}

/-! ## Ratios that round to a word -/

/-- A ratio is past half way from a word to the next, or half way from an odd one. -/
def Past (q : ℚ) (w : Nat) : Prop :=
  (steps w + steps (w + 1) : ℚ) < 2 * q ∨ (steps w + steps (w + 1) : ℚ) = 2 * q ∧ w % 2 = 1

/-- A ratio rounds to a word if it is past exactly those before it. -/
def Rounds (q : ℚ) (w : Nat) : Prop := ∀ v, v < w ↔ Past q v

theorem lt_nearest_iff_past (hd : 0 < d) : v < nearest a d ↔ Past (a / d) v := by
  have hpos : (0 : ℚ) < d := Nat.cast_pos.mpr hd
  rw [lt_nearest_iff hd, Past, ← mul_div_assoc, lt_div_iff₀ hpos, eq_div_iff hpos.ne']
  norm_cast

theorem nearest_eq_iff (hd : 0 < d) : nearest a d = w ↔ Rounds (a / d) w := by
  constructor
  · rintro rfl v
    exact lt_nearest_iff_past hd
  · intro h
    have hsame (v : Nat) : v < nearest a d ↔ v < w := (lt_nearest_iff_past hd).trans (h v).symm
    have h1 := hsame w
    have h2 := hsame (nearest a d)
    omega

theorem Past.mono (h : Past q v) (hqr : q ≤ r) : Past r v := by
  rcases h with h | ⟨h, hodd⟩
  · exact .inl (by linarith)
  · rcases hqr.lt_or_eq with hlt | rfl
    · exact .inl (by linarith)
    · exact .inr ⟨h, hodd⟩

/-- What lies between two ratios that round to a word rounds to it. -/
theorem Rounds.between (hq : Rounds q w) (hr : Rounds r w) (hqs : q ≤ s) (hsr : s ≤ r) : Rounds s w := fun v =>
  ⟨fun hv => ((hq v).mp hv).mono hqs, fun hv => (hr v).mpr (hv.mono hsr)⟩

theorem rounds_steps (w : Nat) : Rounds (steps w) w := by
  have h := (nearest_eq_iff Nat.one_pos).mp (nearest_steps Nat.one_pos w)
  simpa using h

/-! ## Steps around a word -/

theorem steps_succ (hm : m < 2 ^ 53) (hp : p = 0 ∨ 2 ^ 52 ≤ m) :
    steps (p * 2 ^ 52 + m + 1) = steps (p * 2 ^ 52 + m) + 2 ^ p := by
  rw [Nat.add_assoc, steps_eq (Nat.le_of_lt hm) hp, steps_eq (m := m + 1) hm (hp.imp_right fun h => Nat.le_succ_of_le h)]
  ring

/-- Steps grow by more and more. -/
theorem two_mul_steps_le (w : Nat) : 2 * steps (w + 1) ≤ steps w + steps (w + 2) := by
  obtain ⟨p, m, hm, hp, rfl⟩ := exists_parts w
  have hfirst := steps_succ hm hp
  have hpos := Nat.two_pow_pos p
  rcases Nat.lt_or_ge (m + 1) (2 ^ 53) with hlt | hge
  · have hsecond := steps_succ (m := m + 1) hlt (hp.imp_right fun h => Nat.le_succ_of_le h)
    rw [← Nat.add_assoc] at hsecond
    rw [hsecond, hfirst]
    omega
  · -- the next word begins a larger unit
    have hword : p * 2 ^ 52 + m + 1 = (p + 1) * 2 ^ 52 + 2 ^ 52 := by omega
    have hsecond := steps_succ (p := p + 1) (m := 2 ^ 52) (by decide) (.inr (Nat.le_refl _))
    have htwice : 2 ^ (p + 1) = 2 ^ p * 2 := Nat.pow_succ 2 p
    rw [← hword] at hsecond
    rw [hsecond, hfirst]
    omega

/-- A ratio that rounds to a word is within half the step behind it, as the step before it is not larger. -/
theorem Rounds.near {g : ℚ} (hg : (steps (w + 1) : ℚ) = steps w + g) (hq : 0 ≤ q) (h : Rounds q w) :
    |q - steps w| ≤ g / 2 := by
  have habove : 2 * q ≤ steps w + steps (w + 1) := not_lt.mp fun hlt => Nat.lt_irrefl w ((h w).mpr (.inl hlt))
  have hgrow : (0 : ℚ) < g := by
    have : (steps w : ℚ) < steps (w + 1) := Nat.cast_lt.mpr (steps_strictMono (Nat.lt_succ_self w))
    linarith
  have hbelow : 2 * (steps w : ℚ) - g ≤ 2 * q := by
    cases w with
    | zero =>
      have hzero : (steps 0 : ℚ) = 0 := Nat.cast_zero
      linarith
    | succ v =>
      have hgap : (2 * steps (v + 1) : ℚ) ≤ steps v + steps (v + 2) := by exact_mod_cast two_mul_steps_le v
      have hpast : (steps v + steps (v + 1) : ℚ) ≤ 2 * q := ((h v).mp (Nat.lt_succ_self v)).elim le_of_lt fun h => h.1.le
      rw [Nat.add_assoc] at hg
      linarith
  rw [abs_le]
  constructor <;> linarith

/-- The words of the least unit are their own steps, and what is near to one rounds to it. -/
theorem rounds_of_near (hw : w < 2 ^ 53) (hq : |q - w| < 1 / 2) : Rounds q w := by
  obtain ⟨hlow, hhigh⟩ := abs_lt.mp hq
  have hsteps {v : Nat} (hv : v ≤ 2 ^ 53) : steps v = v := by
    have h := steps_eq (p := 0) hv (.inl rfl)
    simpa using h
  intro v
  constructor
  · intro hv
    have hsum : (steps v + steps (v + 1) : ℚ) ≤ 2 * w - 1 := by
      rw [hsteps (by omega), hsteps (by omega)]
      have : (v : ℚ) + 1 ≤ w := by exact_mod_cast hv
      push_cast
      linarith
    exact .inl (by linarith)
  · intro hpast
    refine Nat.lt_of_not_le fun hv => ?_
    have hsum : (2 * w + 1 : ℚ) ≤ steps v + steps (v + 1) := by
      have hfirst : steps w ≤ steps v := steps_strictMono.monotone hv
      have hsecond : steps (w + 1) ≤ steps (v + 1) := steps_strictMono.monotone (Nat.succ_le_succ hv)
      rw [hsteps (by omega)] at hfirst hsecond
      have : (w : ℚ) + (w + 1) ≤ steps v + steps (v + 1) := by exact_mod_cast Nat.add_le_add hfirst hsecond
      linarith
    rcases hpast with h | ⟨h, -⟩ <;> linarith

theorem eq_of_abs_sub_lt_one (h : |(k - j : ℚ)| < 1) : k = j := by
  have hint : |(k - j : ℤ)| < 1 := by exact_mod_cast h
  have := Int.abs_lt_one_iff.mp hint
  omega

/-- On a grid the point nearest to the number of a word rounds to it, if any point does. -/
theorem rounds_grid (hlarge : (steps w : ℚ) < 2 ^ 52 * u) (hj : Rounds (j * u) w) (hk : |k * u - steps w| ≤ u / 2) :
    Rounds (k * u) w := by
  obtain ⟨p, m, hm, hp, rfl⟩ := exists_parts w
  have hu : 0 < u := by
    have : (0 : ℚ) ≤ steps (p * 2 ^ 52 + m) := Nat.cast_nonneg _
    linarith
  have hnext : (steps (p * 2 ^ 52 + m + 1) : ℚ) = steps (p * 2 ^ 52 + m) + 2 ^ p := by exact_mod_cast steps_succ hm hp
  rcases lt_or_ge (2 ^ p) u with hcoarse | hfine
  · -- the point that rounds to the word is the nearest one too
    have hnear := hj.near hnext (by positivity)
    have hdist : |(k - j : ℚ) * u| < 1 * u := by
      have hsplit : (k - j : ℚ) * u = (k * u - steps (p * 2 ^ 52 + m)) - (j * u - steps (p * 2 ^ 52 + m)) := by ring
      rw [hsplit]
      calc _ ≤ |k * u - steps (p * 2 ^ 52 + m)| + |j * u - steps (p * 2 ^ 52 + m)| := abs_sub _ _
        _ ≤ u / 2 + 2 ^ p / 2 := add_le_add hk hnear
        _ < 1 * u := by linarith
    rw [abs_mul, abs_of_pos hu] at hdist
    rwa [eq_of_abs_sub_lt_one (lt_of_mul_lt_mul_right hdist hu.le)]
  · have hleast : p = 0 := by
      by_contra hne
      have hbig : (2 ^ 52 : ℚ) * 2 ^ p ≤ steps (p * 2 ^ 52 + m) := by
        rw [steps_eq (Nat.le_of_lt hm) hp]
        exact_mod_cast Nat.mul_le_mul_right (2 ^ p) (hp.resolve_left hne)
      have : (2 ^ 52 : ℚ) * u ≤ 2 ^ 52 * 2 ^ p := mul_le_mul_of_nonneg_left hfine (by positivity)
      linarith
    subst hleast
    have hsteps : steps (0 * 2 ^ 52 + m) = m := by
      rw [steps_eq (Nat.le_of_lt hm) hp, Nat.pow_zero, Nat.mul_one]
    rw [hsteps] at hk
    rw [pow_zero] at hfine
    rw [Nat.zero_mul, Nat.zero_add]
    rcases hfine.lt_or_eq with hless | rfl
    · exact rounds_of_near hm (by linarith)
    · -- a grid of these steps has the number itself on it
      rw [mul_one] at hk ⊢
      obtain rfl : k = m := eq_of_abs_sub_lt_one (by linarith)
      exact rounds_of_near hm (by norm_num)

/-! ## Ratios in decimal -/

theorem pow_toNat_div (e : Int) : (10 ^ e.toNat : ℚ) / 10 ^ (-e).toNat = 10 ^ e := by
  rw [← zpow_natCast, ← zpow_natCast, ← zpow_sub₀ (by norm_num)]
  congr 1
  omega

/-- The point stands in front of the first digit. -/
theorem position_bounds (ha : 0 < a) (hd : 0 < d) :
    (10 ^ (position a d - 1) : ℚ) ≤ a / d ∧ (a / d : ℚ) < 10 ^ position a d := by
  have hpos : (0 : ℚ) < d := Nat.cast_pos.mpr hd
  rw [le_div_iff₀ hpos, div_lt_iff₀ hpos]
  unfold position
  split
  · rename_i hle
    obtain ⟨k, hk, hlow, hhigh⟩ := Text.length_ofNat_bounds (Nat.div_pos hle hd)
    rw [Nat.le_div_iff_mul_le hd] at hlow
    rw [Nat.div_lt_iff_lt_mul hd] at hhigh
    rw [show (Nat.toDigits 10 (a / d)).length = k + 1 from hk, Nat.cast_succ, add_sub_cancel_right]
    exact_mod_cast And.intro hlow hhigh
  · rename_i hlt
    obtain ⟨k, hk, hlow, hhigh⟩ := Text.length_ofNat_bounds (n := (d - 1) / a) (Nat.div_pos (by omega) ha)
    rw [Nat.le_div_iff_mul_le ha] at hlow
    rw [Nat.div_lt_iff_lt_mul ha] at hhigh
    rw [show (Nat.toDigits 10 ((d - 1) / a)).length = k + 1 from hk, show (1 - (k + 1 : Nat) : Int) = -k by omega,
      show (-k - 1 : Int) = -(k + 1 : Nat) by omega, zpow_neg, zpow_neg, zpow_natCast, zpow_natCast,
      inv_mul_le_iff₀ (by positivity), lt_inv_mul_iff₀ (by positivity)]
    constructor
    · exact_mod_cast show d ≤ 10 ^ (k + 1) * a by omega
    · exact_mod_cast show 10 ^ k * a < d by omega

theorem scale_div (a d : Nat) (e : Int) : ((scale a d e).1 / (scale a d e).2 : ℚ) = a / d / 10 ^ e := by
  rw [← pow_toNat_div e]
  unfold scale
  split
  · rw [Int.toNat_eq_zero.mpr (show -e ≤ 0 by omega), pow_zero, div_one, div_div]
    push_cast [Nat.pow_eq]
    rfl
  · rw [Int.toNat_eq_zero.mpr (show e ≤ 0 by omega), pow_zero, one_div, div_inv_eq_mul, div_mul_eq_mul_div]
    push_cast [Nat.pow_eq]
    rfl

theorem scale_pos (hd : 0 < d) (a : Nat) (e : Int) : 0 < (scale a d e).2 := by
  unfold scale
  split
  · exact Nat.mul_pos hd (Nat.pow_pos (by decide))
  · exact hd

theorem abs_roundHalfEven_sub_le (hd : 0 < d) : |(roundHalfEven a d - a / d : ℚ)| ≤ 1 / 2 := by
  have hpos : (0 : ℚ) < d := Nat.cast_pos.mpr hd
  obtain ⟨hhigh, hlow⟩ := roundHalfEven_near (a := a) hd
  have hhigh : (2 * (roundHalfEven a d * d) : ℚ) ≤ 2 * a + d := by exact_mod_cast hhigh
  have hlow : (2 * a : ℚ) ≤ 2 * (roundHalfEven a d * d) + d := by exact_mod_cast hlow
  rw [sub_div' hpos.ne', abs_div, abs_of_pos hpos, div_le_iff₀ hpos, abs_le]
  constructor <;> linarith

theorem even_of_half_way (hd : 0 < d) (h : |(roundHalfEven a d - a / d : ℚ)| = 1 / 2) : roundHalfEven a d % 2 = 0 := by
  have hpos : (0 : ℚ) < d := Nat.cast_pos.mpr hd
  have hiff (k : Nat) := lt_roundHalfEven_iff (k := k) (a := a) hd
  generalize roundHalfEven a d = r at *
  rw [sub_div' hpos.ne', abs_div, abs_of_pos hpos, div_eq_iff hpos.ne', abs_eq (by positivity)] at h
  rcases h with h | h
  · -- half above: the number below is odd
    have hhalf : (2 * r * d : ℚ) = 2 * a + d := by linarith
    have hhalf : 2 * r * d = 2 * a + d := by exact_mod_cast hhalf
    obtain ⟨k, rfl⟩ : ∃ k, r = k + 1 := Nat.exists_eq_succ_of_ne_zero (by rintro rfl; omega)
    have hk : (2 * k + 1) * d = 2 * a := by linarith
    have := (hiff k).mp (Nat.lt_succ_self k)
    omega
  · have hhalf : (2 * r * d + d : ℚ) = 2 * a := by linarith
    have hhalf : (2 * r + 1) * d = 2 * a := by
      rw [Nat.add_mul, Nat.one_mul]
      exact_mod_cast hhalf
    have := mt (hiff r).mpr (Nat.lt_irrefl r)
    omega

/-- Rounding to so many significant digits keeps to the word if any number of as many digits rounds to it. -/
theorem Rounds.significant {e k : Int} {n r : Nat} (hs : 0 < s) (hn : 10 ^ (n + 1) ≤ 2 ^ 52)
    (hleast : 10 ^ (e + n) ≤ steps w / s) (hmost : steps w / s < 10 ^ (e + (n + 1 : Nat)))
    (hj : j ≤ 10 ^ (n + 1)) (h : Rounds (j * 10 ^ k * s) w) (hr : |r - steps w / s / 10 ^ e| ≤ 1 / 2) :
    Rounds (r * 10 ^ e * s) w := by
  have hu : 0 < 10 ^ e * s := by positivity
  rw [le_div_iff₀ hs, zpow_add₀ (by norm_num), zpow_natCast] at hleast
  rw [div_lt_iff₀ hs, zpow_add₀ (by norm_num), zpow_natCast] at hmost
  have hlarge : (steps w : ℚ) < 2 ^ 52 * (10 ^ e * s) :=
    calc (steps w : ℚ) < 10 ^ (n + 1) * (10 ^ e * s) := by linarith
      _ ≤ 2 ^ 52 * (10 ^ e * s) := mul_le_mul_of_nonneg_right (by exact_mod_cast hn) hu.le
  have hnear : |r * (10 ^ e * s) - steps w| ≤ 10 ^ e * s / 2 := by
    have hscaled : r * (10 ^ e * s) - steps w = (r - steps w / s / 10 ^ e) * (10 ^ e * s) := by field_simp
    calc _ = |r - steps w / s / 10 ^ e| * (10 ^ e * s) := by rw [hscaled, abs_mul, abs_of_pos hu]
      _ ≤ 1 / 2 * (10 ^ e * s) := mul_le_mul_of_nonneg_right hr hu.le
      _ = 10 ^ e * s / 2 := by ring
  obtain ⟨i, hi⟩ : ∃ i : Nat, Rounds (i * (10 ^ e * s)) w := by
    rcases le_or_gt e k with hle | hlt
    · obtain ⟨i, rfl⟩ := Int.le.dest hle
      refine ⟨j * 10 ^ i, ?_⟩
      rw [zpow_add₀ (by norm_num), zpow_natCast] at h
      convert h using 1
      push_cast
      ring
    · -- a coarser grid has no such number between the least of these digits and the word
      refine ⟨10 ^ n, h.between (rounds_steps w) ?_ (by push_cast; linarith)⟩
      have hpow : (10 ^ k : ℚ) ≤ 10 ^ (e - 1) := zpow_le_zpow_right₀ (by norm_num) (by omega)
      have hjle : (j : ℚ) ≤ 10 ^ (n + 1) := by exact_mod_cast hj
      calc (j * 10 ^ k * s : ℚ) ≤ 10 ^ (n + 1) * 10 ^ (e - 1) * s := by gcongr
        _ = (10 ^ n : Nat) * (10 ^ e * s) := by
          rw [zpow_sub_one₀ (by norm_num)]
          push_cast
          ring
  rw [mul_assoc]
  exact rounds_grid hlarge hi hnear

/-! ## Words of decimal numbers -/

variable {x : Binary64} {n : Nat} {e : Int}

/-- The value of a finite number without its sign. -/
def size (x : Binary64) : ℚ := x.magnitude / unitSteps

theorem size_eq_steps (x : Binary64) : x.size = steps x.low / unitSteps := by
  rw [size, magnitude_eq]

theorem rounds_decimal_iff :
    Rounds (n * 10 ^ e * unitSteps) w ↔ nearest (n * 10 ^ e.toNat * unitSteps) (10 ^ (-e).toNat) = w := by
  rw [nearest_eq_iff (Nat.pow_pos (by decide)), ← pow_toNat_div, mul_div_assoc', div_mul_eq_mul_div]
  push_cast
  rfl

/-- A number that is nearest to one in decimal, and neither zero nor infinite. -/
theorem rounds_of_ofDecimal (hfinite : x.isFinite = true) (hx : x.magnitude ≠ 0) (h : ofDecimal x.sign n e = x) :
    Rounds (n * 10 ^ e * unitSteps) x.low := by
  rw [ofDecimal_eq] at h
  split at h
  · refine absurd (magnitude_eq_zero_iff.mpr ?_) hx
    rw [← h]
    exact low_ofWord _ (by decide)
  split at h
  · have hlow := isFinite_iff.mp hfinite
    rw [← h, infinity, low_ofWord _ (by decide)] at hlow
    exact absurd hlow (by decide)
  · rwa [ofRatio_eq_iff hfinite, ← rounds_decimal_iff] at h

theorem size_bounds (hfinite : x.isFinite = true) (hx : x.magnitude ≠ 0) : 10 ^ (-324 : Int) < x.size ∧ x.size < 2 ^ 1024 := by
  have hpos : (0 : ℚ) < unitSteps := Nat.cast_pos.mpr unitSteps_pos
  have hleast : unitSteps < 10 ^ 324 := by decide +kernel
  have hmost : x.magnitude < 2 ^ 1024 * unitSteps := by
    rw [magnitude_eq]
    exact Nat.lt_of_lt_of_le (steps_strictMono (isFinite_iff.mp hfinite)) (by decide +kernel)
  rw [size, lt_div_iff₀ hpos, div_lt_iff₀ hpos]
  constructor
  · have hscaled : unitSteps < 10 ^ 324 * x.magnitude :=
      Nat.lt_of_lt_of_le hleast (Nat.le_mul_of_pos_right _ (Nat.pos_of_ne_zero hx))
    rw [show (-324 : Int) = -(324 : Nat) from rfl, zpow_neg, zpow_natCast, inv_mul_lt_iff₀ (by positivity)]
    exact_mod_cast hscaled
  · exact_mod_cast hmost

/-! ## Six significant digits -/

/-- The power of ten that the last of six significant digits stands for. -/
def shortExponent (x : Binary64) : Int := position x.magnitude unitSteps - 6

/-- The six significant digits as a whole number. -/
def shortDigits (x : Binary64) : Nat :=
  roundHalfEven (scale x.magnitude unitSteps x.shortExponent).1 (scale x.magnitude unitSteps x.shortExponent).2

theorem significant_six (x : Binary64) : significant 6 x = .ofScaled x.shortDigits x.shortExponent := by
  unfold significant shortDigits shortExponent unitSteps
  generalize Nat.pow 2 1074 = s
  rfl

theorem shortExponent_bounds (hx : x.magnitude ≠ 0) : 10 ^ (x.shortExponent + 5) ≤ x.size ∧ x.size < 10 ^ (x.shortExponent + 6) := by
  have h := position_bounds (Nat.pos_of_ne_zero hx) unitSteps_pos
  rwa [show position x.magnitude unitSteps - 1 = x.shortExponent + 5 by unfold shortExponent; omega,
    show position x.magnitude unitSteps = x.shortExponent + 6 by unfold shortExponent; omega] at h

/-- The digits are the nearest ones. -/
theorem shortDigits_near (x : Binary64) : |x.shortDigits - x.size / 10 ^ x.shortExponent| ≤ 1 / 2 := by
  rw [size, ← scale_div]
  exact abs_roundHalfEven_sub_le (scale_pos unitSteps_pos _ _)

/-- Of two that are nearest they are the even ones. -/
theorem shortDigits_even (x : Binary64) (h : |x.shortDigits - x.size / 10 ^ x.shortExponent| = 1 / 2) : x.shortDigits % 2 = 0 := by
  rw [size, ← scale_div] at h
  exact even_of_half_way (scale_pos unitSteps_pos _ _) h

theorem shortDigits_bounds (hx : x.magnitude ≠ 0) : 10 ^ 5 ≤ x.shortDigits ∧ x.shortDigits ≤ 10 ^ 6 := by
  obtain ⟨hleast, hmost⟩ := shortExponent_bounds hx
  obtain ⟨hlow, hhigh⟩ := abs_le.mp x.shortDigits_near
  have hpos : (0 : ℚ) < 10 ^ x.shortExponent := by positivity
  rw [zpow_add₀ (by norm_num), zpow_ofNat, mul_comm, ← le_div_iff₀ hpos] at hleast
  rw [zpow_add₀ (by norm_num), zpow_ofNat, mul_comm, ← div_lt_iff₀ hpos] at hmost
  have h5 : (2 * 10 ^ 5 : ℚ) ≤ 2 * x.shortDigits + 1 := by linarith
  have h6 : (2 * x.shortDigits : ℚ) < 2 * 10 ^ 6 + 1 := by linarith
  have h5 : 2 * 10 ^ 5 ≤ 2 * x.shortDigits + 1 := by exact_mod_cast h5
  have h6 : 2 * x.shortDigits < 2 * 10 ^ 6 + 1 := by exact_mod_cast h6
  omega

theorem shortExponent_range (hfinite : x.isFinite = true) (hx : x.magnitude ≠ 0) :
    -330 < x.shortExponent ∧ x.shortExponent ≤ 303 := by
  obtain ⟨hleast, hmost⟩ := size_bounds hfinite hx
  obtain ⟨hlow, hhigh⟩ := shortExponent_bounds hx
  have hone : (1 : ℚ) < 10 := by norm_num
  have hpow : (2 ^ 1024 : ℚ) < 10 ^ (309 : Int) := by
    have : 2 ^ 1024 < 10 ^ 309 := by decide +kernel
    exact_mod_cast this
  have h1 := (zpow_lt_zpow_iff_right₀ hone).mp (hleast.trans hhigh)
  have h2 := (zpow_lt_zpow_iff_right₀ hone).mp (hlow.trans_lt (hmost.trans hpow))
  omega

theorem lt_of_near {b c : ℚ} (hc : 0 < c) (h : |k - q / c| ≤ 1 / 2) (hq : q < b) (hb : 2 * b + c ≤ 2 * j * c) : k < j := by
  obtain ⟨-, hhigh⟩ := abs_le.mp h
  have hlt : q / c < b / c := div_lt_div_of_pos_right hq hc
  have hle : b / c ≤ j - 1 / 2 := by
    rw [div_le_iff₀ hc]
    linarith
  have : (k : ℚ) < j := by linarith
  exact_mod_cast this

theorem short_lt_of_le {b : Nat} (hk : x.shortDigits ≤ k) (hj : x.shortExponent ≤ j) (h : k * 10 ^ j < b) :
    (x.shortDigits * 10 ^ x.shortExponent : ℚ) < b := by
  have hpow : (10 ^ x.shortExponent : ℚ) ≤ 10 ^ (j : Int) := zpow_le_zpow_right₀ (by norm_num) hj
  rw [zpow_natCast] at hpow
  calc (x.shortDigits * 10 ^ x.shortExponent : ℚ) ≤ k * 10 ^ j := by gcongr
    _ < b := by exact_mod_cast h

/-- No number rounds to six digits that are too large for a finite one. -/
theorem short_lt (hfinite : x.isFinite = true) (hx : x.magnitude ≠ 0) :
    (x.shortDigits * 10 ^ x.shortExponent : ℚ) < (2 ^ (54 + 970) - 2 ^ 970 : Nat) := by
  obtain ⟨-, hlast⟩ := shortExponent_range hfinite hx
  rcases hlast.lt_or_eq with he | he
  · have hless : 10 ^ 6 * 10 ^ 302 < 2 ^ (54 + 970) - 2 ^ 970 := by decide +kernel
    exact short_lt_of_le (shortDigits_bounds hx).2 (j := 302) (by omega) hless
  · obtain ⟨-, hmost⟩ := size_bounds hfinite hx
    have hnear := x.shortDigits_near
    rw [he, show (303 : Int) = (303 : Nat) from rfl, zpow_natCast] at hnear
    have hover : 2 * 2 ^ 1024 + 10 ^ 303 ≤ 2 * 179770 * 10 ^ 303 := by decide +kernel
    have hdigits : x.shortDigits < 179770 := lt_of_near (by positivity) hnear hmost (by exact_mod_cast hover)
    have hless : 179769 * 10 ^ 303 < 2 ^ (54 + 970) - 2 ^ 970 := by decide +kernel
    exact short_lt_of_le (Nat.le_of_lt_succ hdigits) (j := 303) he.le hless

/-- The number nearest to one in decimal with six digits at most. -/
def IsShort (x : Binary64) : Prop := ∃ n k, n < 10 ^ 6 ∧ ofDecimal x.sign n k = x

/-- The number that is nearest to the six significant digits. -/
def shortened (x : Binary64) : Binary64 := if x.magnitude = 0 then x else .ofDecimal x.sign x.shortDigits x.shortExponent

theorem shortened_eq (hfinite : x.isFinite = true) (hx : x.magnitude ≠ 0) :
    x.shortened = ofRatio x.sign (x.shortDigits * 10 ^ x.shortExponent.toNat) (10 ^ (-x.shortExponent).toNat) := by
  obtain ⟨hleast, hmost⟩ := shortExponent_range hfinite hx
  obtain ⟨hlow, hhigh⟩ := shortDigits_bounds hx
  have hlength : (Text.ofNat x.shortDigits).length ≤ 7 :=
    Text.length_ofNat_le (by decide) (Nat.lt_of_le_of_lt hhigh (by decide))
  rw [shortened, if_neg hx, ofDecimal_eq, if_neg, if_neg]
  · omega
  · omega

theorem sign_shortened (hfinite : x.isFinite = true) : x.shortened.sign = x.sign := by
  by_cases hx : x.magnitude = 0
  · rw [shortened, if_pos hx]
  · rw [shortened_eq hfinite hx, ofRatio_eq, sign_ofWord _ (rounded_lt _ _)]

theorem isFinite_shortened (hfinite : x.isFinite = true) : x.shortened.isFinite = true := by
  by_cases hx : x.magnitude = 0
  · rwa [shortened, if_pos hx]
  · have hpos : (0 : ℚ) < (10 ^ (-x.shortExponent).toNat : Nat) := Nat.cast_pos.mpr (Nat.pow_pos (by decide))
    have h := short_lt hfinite hx
    rw [shortened_eq hfinite hx, isFinite_ofRatio_iff _ _ (Nat.pow_pos (by decide))]
    generalize 2 ^ (54 + 970) - 2 ^ 970 = b at *
    have hratio : ((x.shortDigits * 10 ^ x.shortExponent.toNat : Nat) / (10 ^ (-x.shortExponent).toNat : Nat) : ℚ) < b := by
      rw [← pow_toNat_div, mul_div_assoc'] at h
      exact_mod_cast h
    rw [div_lt_iff₀ hpos] at hratio
    exact_mod_cast hratio

theorem zero_sign (hx : x.magnitude = 0) : zero x.sign = x := by
  rw [zero, ← magnitude_eq_zero_iff.mp hx, ofWord_low]

theorem isShort_shortened (hfinite : x.isFinite = true) : x.shortened.IsShort := by
  by_cases hx : x.magnitude = 0
  · rw [shortened, if_pos hx]
    refine ⟨0, 0, by decide, ?_⟩
    rw [ofDecimal_eq, if_pos (.inl rfl), zero_sign hx]
  · have hsign := sign_shortened hfinite
    rw [shortened, if_neg hx] at hsign ⊢
    rcases (shortDigits_bounds hx).2.lt_or_eq with hless | heq
    · exact ⟨_, _, hless, by rw [hsign]⟩
    · -- rounding up to a million makes one digit of it
      refine ⟨10 ^ 5, x.shortExponent + (1 : Nat), by decide, ?_⟩
      rw [hsign, heq, ← ofDecimal_mul_pow, ← Nat.pow_add]

/-- Six digits suffice exactly for the numbers that are nearest to any with as few. -/
theorem shortened_eq_self_iff (hfinite : x.isFinite = true) : x.shortened = x ↔ x.IsShort := by
  refine ⟨fun h => h ▸ isShort_shortened hfinite, fun ⟨j, k, hj, h⟩ => ?_⟩
  by_cases hx : x.magnitude = 0
  · rw [shortened, if_pos hx]
  have hs : (0 : ℚ) < unitSteps := Nat.cast_pos.mpr unitSteps_pos
  obtain ⟨hleast, hmost⟩ := shortExponent_bounds hx
  have hnear := x.shortDigits_near
  rw [size_eq_steps] at hleast hmost hnear
  rw [shortened_eq hfinite hx, ofRatio_eq_iff hfinite, ← rounds_decimal_iff]
  exact (rounds_of_ofDecimal hfinite hx h).significant (n := 5) hs (by decide) hleast hmost (Nat.le_of_lt hj) hnear

/-! ## Six digits as text -/

theorem isNaN_of_isFinite (hfinite : x.isFinite = true) : x.isNaN = false := by
  rw [isFinite, bne_iff_ne] at hfinite
  simp [isNaN, hfinite]

theorem shortText_eq (hfinite : x.isFinite = true) : ∃ d : Digits, d.IsPlain ∧
    x.shortText = (if x.sign then ['-'] else []) ++ d.render shortLayout ∧
    x.shortened = .ofDecimal x.sign (Text.value d.digits) (d.point - d.digits.length) := by
  have hnan := isNaN_of_isFinite hfinite
  by_cases hx : x.magnitude = 0
  · refine ⟨⟨['0'], 1⟩, ⟨Digits.isAsciiDigit_zeros 1, List.cons_ne_nil _ _⟩, ?_, ?_⟩
    · simp [shortText, textWith, hnan, hfinite, hx]
    · rw [shortened, if_pos hx, ofDecimal_eq, if_pos (.inl rfl), zero_sign hx]
  · have hpos : 0 < x.shortDigits := Nat.lt_of_lt_of_le (by decide) (shortDigits_bounds hx).1
    obtain ⟨hplain, hshows⟩ := Digits.ofScaled_spec hpos x.shortExponent
    refine ⟨_, hplain, ?_, ?_⟩
    · simp [shortText, textWith, hnan, hfinite, hx, significant_six]
    · rw [shortened, if_neg hx, hshows]

/-- The text of a finite number is read as the number that its digits stand for. -/
theorem readReal?_shortText (hfinite : x.isFinite = true) : Text.readReal? x.shortText = some x.shortened := by
  obtain ⟨d, hplain, htext, hshows⟩ := shortText_eq hfinite
  rw [htext, Digits.readReal?_render hplain, hshows]

theorem isNumeral_shortText (hfinite : x.isFinite = true) : ∀ c ∈ x.shortText, Text.isNumeral c = true := by
  obtain ⟨d, hplain, htext, -⟩ := shortText_eq hfinite
  obtain ⟨y, hy, -⟩ := Digits.exists_numeral hplain shortLayout
  rw [htext, hy]
  intro c hc
  refine (List.mem_append.mp hc).elim (fun hsign => ?_) (y.isNumeral_text c)
  split at hsign
  · rw [List.mem_singleton.mp hsign]
    rfl
  · cases hsign

end SocksTunnel.Binary64
