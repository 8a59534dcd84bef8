import SocksTunnel.Proofs.Decimal.Significant
import SocksTunnel.Proofs.Timeouts.Steps

/-
  SocksTunnel.Proofs.Timeouts.RoundTrip — timeouts that are written as text and read again. The text
  of a duration has six significant digits, and most numbers have more.

  Proved: text of timeouts is always read, as the durations that its digits stand for. So timeouts
  come back as they were exactly if each of them is nearest to a number of at most six digits, and
  what was read once comes back from then on (`read_text`).
-/

namespace SocksTunnel

namespace Duration

variable {d e : Duration}

/-! ## Six digits of a duration -/

/-- A duration that six significant digits of another stand for: zero for zero, and else the number nearest to the digits
that are nearest to the other one, of two the even ones. -/
def Shortens (d e : Duration) : Prop :=
  e.seconds = 0 ∧ d = e ∨ ∃ (n : Nat) (k : Int), d.number = .ofDecimal false n k ∧
    10 ^ (k + 5) ≤ e.seconds ∧ e.seconds < 10 ^ (k + 6) ∧
    |n * 10 ^ k - e.seconds| ≤ 10 ^ k / 2 ∧ (|n * 10 ^ k - e.seconds| = 10 ^ k / 2 → n % 2 = 0)

theorem sign_cases (d : Duration) : d.number.sign = false ∨ d.number.magnitude = 0 :=
  (Binary64.isNegative_eq_false_iff d.isFinite).mp d.notNegative

theorem seconds_eq_size (d : Duration) : d.seconds = d.number.size := by
  unfold seconds Binary64.value Binary64.size Binary64.unitSteps
  generalize Nat.pow 2 1074 = s
  rw [Rat.mkRat_eq_div]
  rcases d.sign_cases with h | h
  · simp [h]
  · simp [h]

theorem seconds_eq_zero (h : d.number.magnitude = 0) : d.seconds = 0 := by
  rw [seconds_eq_size, Binary64.size, h, Nat.cast_zero, zero_div]

/-- The duration that the text of another one stands for. -/
def shortened (d : Duration) : Duration where
  number := d.number.shortened
  isFinite := Binary64.isFinite_shortened d.isFinite
  notNegative := by
    rw [Binary64.isNegative_eq_false_iff (Binary64.isFinite_shortened d.isFinite), Binary64.sign_shortened d.isFinite]
    refine d.sign_cases.imp_right fun h => ?_
    rwa [Binary64.shortened, if_pos h]

theorem shortened_eq_self_iff : d.shortened = d ↔ d.number.IsShort :=
  ⟨fun h => (Binary64.shortened_eq_self_iff d.isFinite).mp (congrArg number h),
    fun h => Duration.ext ((Binary64.shortened_eq_self_iff d.isFinite).mpr h)⟩

theorem shortened_shortened (d : Duration) : d.shortened.shortened = d.shortened :=
  shortened_eq_self_iff.mpr (Binary64.isShort_shortened d.isFinite)

theorem shortens_shortened (d : Duration) : d.shortened.Shortens d := by
  by_cases hx : d.number.magnitude = 0
  · exact .inl ⟨seconds_eq_zero hx, Duration.ext (if_pos hx)⟩
  · obtain ⟨hleast, hmost⟩ := Binary64.shortExponent_bounds hx
    have hnear := d.number.shortDigits_near
    have heven := d.number.shortDigits_even
    have hpos : (0 : ℚ) < 10 ^ d.number.shortExponent := by positivity
    have hnumber : d.shortened.number = .ofDecimal false d.number.shortDigits d.number.shortExponent := by
      rw [← d.sign_cases.resolve_right hx]
      exact if_neg hx
    rw [← seconds_eq_size] at hleast hmost hnear heven
    refine .inr ⟨_, _, hnumber, hleast, hmost, ?_⟩
    generalize (10 ^ d.number.shortExponent : ℚ) = c at *
    have hscaled : |d.number.shortDigits * c - d.seconds| = |d.number.shortDigits - d.seconds / c| * c := by
      rw [← abs_of_pos hpos, ← abs_mul, abs_of_pos hpos, sub_mul, div_mul_cancel₀ _ hpos.ne']
    rw [hscaled, ← le_div_iff₀ hpos, ← eq_div_iff hpos.ne', div_div_cancel_left' hpos.ne', ← one_div]
    exact ⟨hnear, heven⟩

/-- A duration equals the one that its text stands for only if that is itself: zero is not another one. -/
theorem same_shortened_iff : d.shortened.same d = true ↔ d.shortened = d := by
  have hself : d.same d = true := by
    simp [same, Binary64.same, Binary64.isNaN_of_isFinite d.isFinite]
  refine ⟨fun h => ?_, fun h => by rwa [h]⟩
  simp only [same, Binary64.same, Bool.and_eq_true, Bool.or_eq_true, beq_iff_eq] at h
  rcases h.2 with hbits | ⟨-, hzero⟩
  · exact Duration.ext (congrArg Binary64.mk hbits)
  · exact Duration.ext (if_pos hzero)

/-! ## Its text -/

theorem readReal?_text (d : Duration) : d.text.readReal? = some d.shortened.number := Binary64.readReal?_shortText d.isFinite

theorem colon_not_mem_text (d : Duration) : ':' ∉ d.text := fun h =>
  absurd (Binary64.isNumeral_shortText d.isFinite _ h) (by decide)

end Duration

namespace Timeouts

variable {s t : Timeouts}

theorem ext_iff_get : s = t ↔ ∀ p, s.get p = t.get p := by
  refine ⟨fun h p => by rw [h], fun h => ?_⟩
  cases s
  cases t
  cases h .connect
  cases h .write
  cases h .read
  rfl

/-- The timeouts that the text of others stands for. -/
def shortened (t : Timeouts) : Timeouts := ⟨t.connect.shortened, t.write.shortened, t.read.shortened⟩

theorem get_shortened (t : Timeouts) (p : Phase) : t.shortened.get p = (t.get p).shortened := by cases p <;> rfl

theorem shortened_eq_self_iff : t.shortened = t ↔ ∀ p, (t.get p).number.IsShort := by
  simp only [ext_iff_get, get_shortened, Duration.shortened_eq_self_iff]

theorem shortened_shortened (t : Timeouts) : t.shortened.shortened = t.shortened := by
  rw [ext_iff_get]
  intro p
  rw [get_shortened, get_shortened]
  exact (t.get p).shortened_shortened

theorem same_shortened_iff : t.shortened.same t = true ↔ t.shortened = t := by
  obtain ⟨c, w, r⟩ := t
  simp only [same, shortened, Bool.and_eq_true, Duration.same_shortened_iff, Timeouts.mk.injEq, and_assoc]

theorem text_eq (t : Timeouts) : t.text = t.connect.text ++ ':' :: t.write.text ++ ':' :: t.read.text := by
  simp [text, toList, List.intercalate]

/-- There are no blanks around the durations, and no colons in them. -/
theorem isLimits_text (t : Timeouts) : Line.IsLimits t.text t.shortened := by
  have hblank : ∀ c ∈ t.text, Text.isBlank c = false := by
    intro c hc
    simp only [text_eq, List.mem_append, List.mem_cons] at hc
    rcases hc with (hc | rfl | hc) | rfl | hc
    · exact Text.isBlank_numeral (Binary64.isNumeral_shortText t.connect.isFinite c hc)
    · decide
    · exact Text.isBlank_numeral (Binary64.isNumeral_shortText t.write.isFinite c hc)
    · decide
    · exact Text.isBlank_numeral (Binary64.isNumeral_shortText t.read.isFinite c hc)
  refine ⟨t.connect.text, t.write.text, t.read.text, ?_, t.connect.readReal?_text, t.write.readReal?_text,
    t.read.readReal?_text⟩
  rw [Text.trim, Text.strip_eq_self hblank, text_eq]
  exact Text.splitOn_triple t.connect.colon_not_mem_text t.write.colon_not_mem_text t.read.colon_not_mem_text

/-- The text of any timeouts is read, as those that six significant digits of each duration stand for. These equal the ones
that were written exactly if each of them is nearest to a number of at most six digits, and come back from their own text. -/
theorem read_text (t : Timeouts) : ∃ s, Value.readTimeouts (.text t.text) = .ok s ∧
    (∀ p, (s.get p).Shortens (t.get p)) ∧
    (s = t ↔ ∀ p, (t.get p).number.IsShort) ∧
    (s.same t = true ↔ s = t) ∧
    Value.readTimeouts (.text s.text) = .ok s := by
  refine ⟨t.shortened, Line.isLimits_iff.mp t.isLimits_text, fun p => ?_, shortened_eq_self_iff, same_shortened_iff, ?_⟩
  · rw [get_shortened]
    exact (t.get p).shortens_shortened
  · have h := t.shortened.isLimits_text
    rw [t.shortened_shortened] at h
    exact Line.isLimits_iff.mp h

/-- A duration of seven digits comes back as another one. -/
theorem read_text_seven_digits :
    let seven : Duration := ⟨⟨0x3fbf9adbb8f8da72⟩, by decide +kernel, by decide +kernel⟩
    let six : Duration := ⟨⟨0x3fbf9ae0c1765775⟩, by decide +kernel, by decide +kernel⟩
    let t : Timeouts := ⟨seven, .ten, .ten⟩
    let s : Timeouts := ⟨six, .ten, .ten⟩
    seven.number = .ofDecimal false 1234567 (-7) ∧ six.number = .ofDecimal false 123457 (-6) ∧
      Value.readTimeouts (.text t.text) = .ok s ∧ s.same t = false := by
  intro seven six t s
  have htext : t.text = .lit "0.123457:10:10" := by decide +kernel
  refine ⟨by decide +kernel, by decide +kernel, ?_, by decide +kernel⟩
  rw [Value.readTimeouts_text_eq_ok_iff, htext]
  decide +kernel

end Timeouts

end SocksTunnel
