import Mathlib.Algebra.Order.Ring.Nat
import Mathlib.Order.Monotone.Basic
import Mathlib.Tactic.Ring
import SocksTunnel.Decimal.Binary64

/-
  SocksTunnel.Proofs.Decimal.Rounding — the floating-point number nearest to a ratio. Words
  without a sign are in the order of their numbers, and all numbers are whole multiples of the
  least unit: so a word stands for so many steps of it. A ratio that is too large rounds to
  infinity, which is the word after the largest finite one.

  Proved: steps grow with the word (`steps_strictMono`), and the word nearest to a ratio is past
  another exactly if the ratio is past half way to the next, or half way and the other word is
  odd (`lt_nearest_iff`). So the steps of a word round to it (`nearest_steps`), larger ratios to
  later words (`nearest_le_nearest`), and no finite number is nearest from `2 ^ 1024 - 2 ^ 970` on,
  half way between the largest one and `2 ^ 1024` (`isFinite_ofRatio_iff`, `ofInt?_eq_none_iff`). The
  sign of an integer is that of the number nearest to it (`isNegative_ofInt?`).
-/

namespace SocksTunnel.Binary64

variable {a b d e k m p w : Nat}

/-! ## Whole numbers -/

theorem roundHalfEven_bounds (a d : Nat) : a / d ≤ roundHalfEven a d ∧ roundHalfEven a d ≤ a / d + 1 := by
  unfold roundHalfEven
  dsimp only
  split
  · omega
  split
  · omega
  split
  · omega
  · omega

/-- A number is passed from half a step above it on, and at half a step only if it is odd. -/
theorem lt_roundHalfEven_iff (hd : 0 < d) :
    k < roundHalfEven a d ↔ (2 * k + 1) * d < 2 * a ∨ (2 * k + 1) * d = 2 * a ∧ k % 2 = 1 := by
  have hparts := Nat.div_add_mod a d
  have hrest := Nat.mod_lt a hd
  obtain ⟨hlow, hhigh⟩ := roundHalfEven_bounds a d
  rcases Nat.lt_trichotomy k (a / d) with hk | rfl | hk
  · obtain ⟨j, hj⟩ := Nat.exists_eq_add_of_lt hk
    have hprod : (2 * k + 1) * d + d + 2 * (j * d) = 2 * (d * (a / d)) := by
      rw [hj]
      ring
    omega
  · have hprod : (2 * (a / d) + 1) * d = 2 * (d * (a / d)) + d := by ring
    rw [hprod]
    unfold roundHalfEven
    dsimp only
    split
    · omega
    split
    · omega
    split
    · omega
    · omega
  · obtain ⟨j, hj⟩ := Nat.exists_eq_add_of_lt hk
    have hprod : (2 * k + 1) * d = 2 * (d * (a / d)) + 3 * d + 2 * (j * d) := by
      rw [hj]
      ring
    omega

/-! ## Words and steps -/

/-- How many least units the number of a word without a sign is. -/
def steps (w : Nat) : Nat := (if w / 2 ^ 52 = 0 then w else 2 ^ 52 + w % 2 ^ 52) * 2 ^ (w / 2 ^ 52 - 1)

/-- A significand and its unit make a word, also the significand that carries into the exponent. -/
theorem steps_eq (hm : m ≤ 2 ^ 53) (hp : p = 0 ∨ 2 ^ 52 ≤ m) : steps (p * 2 ^ 52 + m) = m * 2 ^ p := by
  unfold steps
  rcases Nat.lt_or_ge m (2 ^ 52) with hsmall | hlarge
  · obtain rfl : p = 0 := hp.resolve_right (Nat.not_le.mpr hsmall)
    rw [if_pos (by omega), show (0 * 2 ^ 52 + m) / 2 ^ 52 - 1 = 0 by omega, Nat.zero_mul, Nat.zero_add]
  rw [if_neg (by omega)]
  rcases Nat.lt_or_eq_of_le hm with hm | rfl
  · rw [show (p * 2 ^ 52 + m) / 2 ^ 52 - 1 = p by omega, show 2 ^ 52 + (p * 2 ^ 52 + m) % 2 ^ 52 = m by omega]
  · rw [show (p * 2 ^ 52 + 2 ^ 53) / 2 ^ 52 - 1 = p + 1 by omega,
      show 2 ^ 52 + (p * 2 ^ 52 + 2 ^ 53) % 2 ^ 52 = 2 ^ 52 by omega]
    ring

theorem exists_parts (w : Nat) : ∃ p m, m < 2 ^ 53 ∧ (p = 0 ∨ 2 ^ 52 ≤ m) ∧ w = p * 2 ^ 52 + m :=
  ⟨w / 2 ^ 52 - 1, w - (w / 2 ^ 52 - 1) * 2 ^ 52, by omega, by omega, by omega⟩

theorem steps_strictMono : StrictMono steps := by
  refine strictMono_nat_of_lt_succ fun w => ?_
  obtain ⟨p, m, hm, hp, rfl⟩ := exists_parts w
  rw [Nat.add_assoc, steps_eq (Nat.le_of_lt hm) hp, steps_eq hm (hp.imp_right fun h => Nat.le_succ_of_le h)]
  exact Nat.mul_lt_mul_of_pos_right (Nat.lt_succ_self m) (Nat.two_pow_pos p)

/-! ## The nearest word -/

theorem unitOf_bounds (hd : 0 < d) (a : Nat) :
    (unitOf a d = 0 ∨ d * 2 ^ (unitOf a d + 52) ≤ a) ∧ a < d * 2 ^ (unitOf a d + 53) := by
  have hlow := Nat.log2_self_le (Nat.pos_iff_ne_zero.mp hd)
  have hhigh := Nat.lt_log2_self (n := d)
  have ha := Nat.lt_log2_self (n := a)
  -- the powers of two around `d` give those around `d * 2 ^ i`
  have hscale (i : Nat) : 2 ^ (d.log2 + i) ≤ d * 2 ^ i ∧ d * 2 ^ i ≤ 2 ^ (d.log2 + 1 + i) := by
    rw [Nat.pow_add, Nat.pow_add]
    exact ⟨Nat.mul_le_mul_right _ hlow, Nat.mul_le_mul_right _ (Nat.le_of_lt hhigh)⟩
  have hpow {i j : Nat} (h : i ≤ j) : 2 ^ i ≤ 2 ^ j := Nat.pow_le_pow_right (by decide) h
  unfold unitOf
  dsimp only
  rw [Nat.pow_eq]
  generalize hp : a.log2 - (d.log2 + 52) = p
  split
  · rename_i hsmall
    rcases Nat.eq_zero_or_pos p with rfl | hpos
    · exact ⟨.inl rfl, Nat.lt_of_lt_of_le hsmall (Nat.mul_le_mul_left d (hpow (by omega)))⟩
    · have hne : a ≠ 0 := by
        rintro rfl
        rw [Nat.log2_zero] at hp
        omega
      refine ⟨.inr ?_, ?_⟩
      · calc d * 2 ^ (p - 1 + 52) ≤ 2 ^ (d.log2 + 1 + (p - 1 + 52)) := (hscale _).2
          _ = 2 ^ a.log2 := congrArg (2 ^ ·) (by omega)
          _ ≤ a := Nat.log2_self_le hne
      · rwa [show p - 1 + 53 = p + 52 by omega]
  · rename_i hlarge
    refine ⟨.inr (Nat.not_lt.mp hlarge), ?_⟩
    calc a < 2 ^ (a.log2 + 1) := ha
      _ ≤ 2 ^ (d.log2 + (p + 53)) := hpow (by omega)
      _ ≤ d * 2 ^ (p + 53) := (hscale _).1

/-- The word of the number nearest to `a / d` least units. -/
def nearest (a d : Nat) : Nat := unitOf a d * 2 ^ 52 + roundHalfEven a (d * 2 ^ unitOf a d)

/-- The nearest word is past another from half way between that one and the next on, and half way only if it is odd. -/
theorem lt_nearest_iff (hd : 0 < d) : w < nearest a d ↔
    (steps w + steps (w + 1)) * d < 2 * a ∨ (steps w + steps (w + 1)) * d = 2 * a ∧ w % 2 = 1 := by
  obtain ⟨hfloor, hceil⟩ := unitOf_bounds hd a
  have hgrow : steps w < steps (w + 1) := steps_strictMono (Nat.lt_succ_self w)
  unfold nearest
  generalize unitOf a d = p at *
  have hunit : 0 < d * 2 ^ p := Nat.mul_pos hd (Nat.two_pow_pos p)
  obtain ⟨hlow, hhigh⟩ := roundHalfEven_bounds a (d * 2 ^ p)
  have hmost : a / (d * 2 ^ p) < 2 ^ 53 := by
    rw [Nat.div_lt_iff_lt_mul hunit]
    calc a < d * 2 ^ (p + 53) := hceil
      _ = 2 ^ 53 * (d * 2 ^ p) := by ring
  have hleast : p = 0 ∨ 2 ^ 52 ≤ a / (d * 2 ^ p) := by
    refine hfloor.imp_right fun h => (Nat.le_div_iff_mul_le hunit).mpr (Nat.le_trans (Nat.le_of_eq ?_) h)
    ring
  by_cases hbelow : w < p * 2 ^ 52 + (if p = 0 then 0 else 2 ^ 52)
  · -- a word of a smaller unit, and the next one at most the first of this unit
    have hp : p ≠ 0 := by
      rintro rfl
      simp at hbelow
    rw [if_neg hp] at hbelow
    have hnext : steps (w + 1) ≤ 2 ^ 52 * 2 ^ p := by
      rw [← steps_eq (by decide) (.inr (Nat.le_refl _))]
      exact steps_strictMono.monotone hbelow
    have hpast : (steps w + steps (w + 1)) * d < 2 * a := by
      calc (steps w + steps (w + 1)) * d < (2 * (2 ^ 52 * 2 ^ p)) * d := Nat.mul_lt_mul_of_pos_right (by omega) hd
        _ = 2 * (d * 2 ^ (p + 52)) := by ring
        _ ≤ 2 * a := Nat.mul_le_mul_left 2 (hfloor.resolve_left hp)
    exact iff_of_true (by omega) (.inl hpast)
  by_cases habove : p * 2 ^ 52 + 2 ^ 53 ≤ w
  · -- a word that not even a carry comes to
    have hleastStep : 2 ^ 53 * 2 ^ p ≤ steps w := by
      rw [← steps_eq (Nat.le_refl _) (.inr (by decide))]
      exact steps_strictMono.monotone habove
    have hshort : 2 * a < (steps w + steps (w + 1)) * d := by
      calc 2 * a < 2 * (d * 2 ^ (p + 53)) := by omega
        _ = (2 * (2 ^ 53 * 2 ^ p)) * d := by ring
        _ ≤ (steps w + steps (w + 1)) * d := Nat.mul_le_mul_right d (by omega)
    exact iff_of_false (by omega) (by omega)
  · -- a word of this unit, where rounding decides
    obtain ⟨m, rfl⟩ : ∃ m, w = p * 2 ^ 52 + m := ⟨w - p * 2 ^ 52, by omega⟩
    have hm : m < 2 ^ 53 := by omega
    have hp : p = 0 ∨ 2 ^ 52 ≤ m := by
      by_cases hp : p = 0
      · exact .inl hp
      · rw [if_neg hp] at hbelow
        exact .inr (by omega)
    have hsum : (steps (p * 2 ^ 52 + m) + steps (p * 2 ^ 52 + m + 1)) * d = (2 * m + 1) * (d * 2 ^ p) := by
      rw [Nat.add_assoc, steps_eq (Nat.le_of_lt hm) hp, steps_eq (m := m + 1) hm (hp.imp_right fun h => Nat.le_succ_of_le h)]
      ring
    rw [hsum, show (p * 2 ^ 52 + m) % 2 = m % 2 by omega, ← lt_roundHalfEven_iff hunit]
    omega

theorem nearest_steps (hd : 0 < d) (w : Nat) : nearest (steps w * d) d = w := by
  have hgrow : steps w < steps (w + 1) := steps_strictMono (Nat.lt_succ_self w)
  refine Nat.le_antisymm (Nat.not_lt.mp fun h => ?_) ?_
  · have := Nat.mul_lt_mul_of_pos_right hgrow hd
    rw [lt_nearest_iff hd, Nat.add_mul] at h
    omega
  · cases w with
    | zero => exact Nat.zero_le _
    | succ v =>
      have hlast : steps v < steps (v + 1) := steps_strictMono (Nat.lt_succ_self v)
      have := Nat.mul_lt_mul_of_pos_right hlast hd
      refine (lt_nearest_iff hd).mpr (.inl ?_)
      rw [Nat.add_mul]
      omega

/-- A ratio that is not larger does not round to a later word. -/
theorem nearest_le_nearest (hd : 0 < d) (he : 0 < e) (h : a * e ≤ b * d) : nearest a d ≤ nearest b e := by
  have hpass {w : Nat} (hw : w < nearest a d) : w < nearest b e := by
    rw [lt_nearest_iff hd] at hw
    rw [lt_nearest_iff he]
    generalize steps w + steps (w + 1) = s at *
    have hscaled : s * e * d = s * d * e := by ring
    have hb : 2 * a * e ≤ 2 * b * d := by
      rw [Nat.mul_assoc, Nat.mul_assoc]
      exact Nat.mul_le_mul_left 2 h
    rcases hw with hlt | ⟨heq, hodd⟩
    · refine .inl (Nat.lt_of_mul_lt_mul_right (a := d) ?_)
      exact hscaled ▸ Nat.lt_of_lt_of_le (Nat.mul_lt_mul_of_pos_right hlt he) hb
    · rcases Nat.lt_or_eq_of_le (show s * e * d ≤ 2 * b * d from hscaled ▸ heq ▸ hb) with hless | hequal
      · exact .inl (Nat.lt_of_mul_lt_mul_right hless)
      · exact .inr ⟨Nat.eq_of_mul_eq_mul_right hd hequal, hodd⟩
  exact Nat.le_of_not_lt fun hlt => Nat.lt_irrefl _ (hpass hlt)

theorem nearest_congr (hd : 0 < d) (he : 0 < e) (h : a * e = b * d) : nearest a d = nearest b e :=
  Nat.le_antisymm (nearest_le_nearest hd he (Nat.le_of_eq h)) (nearest_le_nearest he hd (Nat.le_of_eq h.symm))

/-! ## Words of numbers -/

/-- The word of a number without its sign. -/
def low (x : Binary64) : Nat := x.word % 2 ^ 63

theorem word_ofWord (negative : Bool) (h : w < 2 ^ 63) :
    (ofWord negative w).word = if negative then 2 ^ 63 + w else w := by
  unfold word ofWord
  simp only [UInt64.toNat_ofNat', Nat.pow_eq]
  cases negative
  · simp only [Bool.false_eq_true, if_false]
    omega
  · simp only [if_true]
    omega

theorem low_ofWord (negative : Bool) (h : w < 2 ^ 63) : (ofWord negative w).low = w := by
  rw [low, word_ofWord negative h]
  cases negative
  · exact Nat.mod_eq_of_lt h
  · rw [if_pos rfl]
    omega

theorem sign_ofWord (negative : Bool) (h : w < 2 ^ 63) : (ofWord negative w).sign = negative := by
  rw [sign, word_ofWord negative h, Nat.pow_eq]
  cases negative
  · exact decide_eq_false (by simp only [Bool.false_eq_true, if_false]; omega)
  · exact decide_eq_true (by simp only [if_true]; omega)

theorem low_lt (x : Binary64) : x.low < 2 ^ 63 := Nat.mod_lt _ (by decide)

theorem ofWord_low (x : Binary64) : ofWord x.sign x.low = x := by
  have hword : x.word = if x.sign then 2 ^ 63 + x.low else x.low := by
    have hlt : x.word < 2 ^ 64 := x.bits.toNat_lt
    simp only [sign, low, Nat.pow_eq, decide_eq_true_eq]
    split <;> omega
  have hbits : UInt64.ofNat x.word = x.bits := UInt64.ofNat_toNat
  rw [ofWord, Nat.pow_eq, ← hword, hbits]

theorem exponentField_eq (x : Binary64) : x.exponentField = x.low / 2 ^ 52 := by
  rw [exponentField, low, Nat.pow_eq]
  omega

theorem magnitude_eq (x : Binary64) : x.magnitude = steps x.low := by
  have hfraction : x.fraction = x.low % 2 ^ 52 := by
    rw [fraction, low, Nat.pow_eq]
    omega
  rw [magnitude, significand, unit, exponentField_eq, hfraction, steps, Nat.pow_eq, Nat.pow_eq]
  split
  · rw [Nat.mod_eq_of_lt (by omega)]
  · rfl

theorem magnitude_eq_zero_iff {x : Binary64} : x.magnitude = 0 ↔ x.low = 0 := by
  rw [magnitude_eq]
  exact steps_strictMono.injective.eq_iff (b := 0)

theorem isFinite_iff {x : Binary64} : x.isFinite = true ↔ x.low < 2047 * 2 ^ 52 := by
  have := x.low_lt
  rw [isFinite, exponentField_eq, bne_iff_ne]
  omega

/-! ## Rounding and overflow -/

/-- How many least units one is. -/
def unitSteps : Nat := Nat.pow 2 1074

/-- The exponent goes under a name wherever its power would be computed. -/
theorem unitSteps_eq : ∃ k, k = 1074 ∧ unitSteps = Nat.pow 2 k := by
  unfold unitSteps
  generalize 1074 = k
  exact ⟨k, rfl, rfl⟩

theorem unitSteps_pos : 0 < unitSteps := by
  obtain ⟨k, -, hk⟩ := unitSteps_eq
  exact hk ▸ Nat.two_pow_pos k

/-- The word that a ratio rounds to: the nearest one, or infinity. -/
def rounded (a d : Nat) : Nat := min (nearest (a * unitSteps) d) (2047 * 2 ^ 52)

theorem rounded_lt (a d : Nat) : rounded a d < 2 ^ 63 := Nat.lt_of_le_of_lt (Nat.min_le_right _ _) (by decide)

theorem ofRatio_eq (negative : Bool) (a d : Nat) : ofRatio negative a d = ofWord negative (rounded a d) := by
  obtain ⟨k, hk, hsteps⟩ := unitSteps_eq
  unfold ofRatio rounded nearest
  dsimp only
  rw [hsteps, ← hk]
  rfl

/-- Numbers equal in value round to the same number. -/
theorem ofRatio_congr (negative : Bool) (hd : 0 < d) (he : 0 < e) (h : a * e = b * d) :
    ofRatio negative a d = ofRatio negative b e := by
  have hsteps : a * unitSteps * e = b * unitSteps * d := by
    rw [Nat.mul_right_comm, h, Nat.mul_right_comm]
  rw [ofRatio_eq, ofRatio_eq, rounded, rounded, nearest_congr hd he hsteps]

/-- A number is the one that a ratio rounds to exactly if its word is the nearest. -/
theorem ofRatio_eq_iff {x : Binary64} (hx : x.isFinite = true) :
    ofRatio x.sign a d = x ↔ nearest (a * unitSteps) d = x.low := by
  have hlow := isFinite_iff.mp hx
  have hmin : rounded a d = x.low ↔ nearest (a * unitSteps) d = x.low := by
    unfold rounded
    omega
  rw [← hmin, ofRatio_eq]
  constructor
  · intro h
    rw [← low_ofWord x.sign (rounded_lt a d), h]
  · intro h
    rw [h, ofWord_low]

/-- A word is past those of an exponent exactly from half way between the last of them and the next on. -/
theorem nearest_lt_iff (hd : 0 < d) (m : Nat) : nearest a d < (m + 2) * 2 ^ 52 ↔ 2 * a < (2 ^ 54 - 1) * 2 ^ m * d := by
  have hlast : steps (m * 2 ^ 52 + (2 ^ 53 - 1)) = (2 ^ 53 - 1) * 2 ^ m := steps_eq (by decide) (.inr (by decide))
  have hnext : steps (m * 2 ^ 52 + (2 ^ 53 - 1) + 1) = 2 ^ 53 * 2 ^ m := by
    rw [Nat.add_assoc]
    exact steps_eq (by decide) (.inr (by decide))
  have hsum : (steps (m * 2 ^ 52 + (2 ^ 53 - 1)) + steps (m * 2 ^ 52 + (2 ^ 53 - 1) + 1)) * d = (2 ^ 54 - 1) * 2 ^ m * d := by
    rw [hlast, hnext, ← Nat.add_mul]
    rfl
  have hpast := lt_nearest_iff (a := a) (w := m * 2 ^ 52 + (2 ^ 53 - 1)) hd
  rw [hsum] at hpast
  generalize (2 ^ 54 - 1) * 2 ^ m * d = s at *
  omega

theorem half_way_iff (a d m k : Nat) :
    2 * (a * Nat.pow 2 k) < (2 ^ 54 - 1) * 2 ^ (m + (k + 1)) * d ↔ a < (2 ^ (54 + m) - 2 ^ m) * d := by
  have hleft : 2 * (a * Nat.pow 2 k) = a * 2 ^ (k + 1) := by
    rw [Nat.pow_eq, Nat.pow_succ]
    ring
  have hright : (2 ^ 54 - 1) * 2 ^ (m + (k + 1)) * d = (2 ^ (54 + m) - 2 ^ m) * d * 2 ^ (k + 1) := by
    rw [Nat.pow_add 2 m, ← Nat.mul_assoc, Nat.sub_mul, Nat.one_mul, ← Nat.pow_add, Nat.mul_right_comm]
  rw [hleft, hright, Nat.mul_lt_mul_right (Nat.two_pow_pos _)]

theorem isFinite_ofRatio_iff (negative : Bool) (a : Nat) (hd : 0 < d) :
    (ofRatio negative a d).isFinite = true ↔ a < (2 ^ (54 + 970) - 2 ^ 970) * d := by
  have hword : rounded a d < 2047 * 2 ^ 52 ↔ nearest (a * unitSteps) d < 2047 * 2 ^ 52 := by
    unfold rounded
    omega
  rw [isFinite_iff, ofRatio_eq, low_ofWord negative (rounded_lt a d), hword]
  obtain ⟨k, hk, hsteps⟩ := unitSteps_eq
  rw [hsteps, ← half_way_iff a d 970 k, show 970 + (k + 1) = 2045 by omega]
  exact nearest_lt_iff hd 2045

/-- No finite number is nearest to an integer exactly from half way between the largest one and the next power on. -/
theorem ofInt?_eq_none_iff {n : Int} : ofInt? n = none ↔ 2 ^ 1024 - 2 ^ 970 ≤ n.natAbs := by
  have hfinite := isFinite_ofRatio_iff (n < 0) n.natAbs Nat.one_pos
  rw [Nat.mul_one] at hfinite
  rw [← Nat.not_lt, ← hfinite]
  clear hfinite
  unfold ofInt?
  dsimp only
  split <;> simp_all

theorem nearest_pos (ha : 0 < a) : 0 < nearest (a * unitSteps) 1 := by
  refine (lt_nearest_iff Nat.one_pos).mpr (.inl ?_)
  have hpos := Nat.mul_pos ha unitSteps_pos
  rw [show steps 0 + steps (0 + 1) = 1 from rfl]
  omega

/-- The number nearest to an integer is below zero exactly if that is. -/
theorem isNegative_ofInt? {n : Int} {x : Binary64} (h : ofInt? n = some x) :
    x.isFinite = true ∧ (x.isNegative = false ↔ 0 ≤ n) := by
  unfold ofInt? at h
  dsimp only at h
  split at h
  · rename_i hfinite
    cases h
    refine ⟨hfinite, ?_⟩
    rw [isNegative_eq_false_iff hfinite, ofRatio_eq, sign_ofWord _ (rounded_lt _ _), decide_eq_false_iff_not, Int.not_lt]
    refine ⟨fun hzero => hzero.elim id fun hm => ?_, .inl⟩
    rw [magnitude_eq_zero_iff, low_ofWord _ (rounded_lt _ _)] at hm
    refine Int.not_lt.mp fun hneg => ?_
    have := nearest_pos (a := n.natAbs) (by omega)
    unfold rounded at hm
    omega
  · cases h

end SocksTunnel.Binary64
