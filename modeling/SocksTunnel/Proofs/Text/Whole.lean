import Mathlib.Algebra.Group.Nat.Defs
import Mathlib.Data.List.Induction
import SocksTunnel.Decimal.Reading
import SocksTunnel.Proofs.Text.Cut

/-
  SocksTunnel.Proofs.Text.Whole — whole numbers that are written in decimal digits and read
  again.

  Proved: the digits of a number have its value (`value_ofNat`) and no zero in front unless the
  number is zero (`head?_ofNat`), and no other digits have both (`ofNat_value`). A number is read
  back from its digits if there are not too many of them (`readInt?_ofNat`).
-/

namespace SocksTunnel.Text

variable {t : Text} {n : Nat}

theorem isAsciiDigit_of_isDigit {c : Char} (h : c.isDigit = true) : isAsciiDigit c = true := by
  simpa [Char.isDigit, isAsciiDigit, Char.le_def] using h

/-! ## Digits of a number -/

theorem isAsciiDigit_ofNat (n : Nat) : ∀ c ∈ ofNat n, isAsciiDigit c = true := fun _ hc =>
  isAsciiDigit_of_isDigit (Nat.isDigit_of_mem_toDigits (by decide) (by decide) hc)

theorem not_mem_ofNat {c : Char} (h : isAsciiDigit c = false) : c ∉ ofNat n := by
  intro hc
  rw [isAsciiDigit_ofNat n c hc] at h
  cases h

theorem ofNat_ne_nil (n : Nat) : ofNat n ≠ [] := Nat.toDigits_ne_nil

theorem value_ofNat (n : Nat) : value (ofNat n) = n := Nat.ofDigitChars_ten_toDigits

theorem length_ofNat_le {k : Nat} (hk : 0 < k) (h : n < 10 ^ k) : (ofNat n).length ≤ k :=
  (Nat.length_toDigits_le_iff (by decide) hk).mpr h

theorem length_ofNat_bounds (h : 0 < n) : ∃ k, (ofNat n).length = k + 1 ∧ 10 ^ k ≤ n ∧ n < 10 ^ (k + 1) := by
  obtain ⟨k, hk⟩ := Nat.exists_eq_succ_of_ne_zero (List.length_pos_iff.mpr (ofNat_ne_nil n)).ne'
  have hmost : n < 10 ^ (k + 1) := (Nat.length_toDigits_le_iff (by decide) (Nat.succ_pos k)).mp (Nat.le_of_eq hk)
  refine ⟨k, hk, Nat.le_of_not_lt fun hlt => ?_, hmost⟩
  cases k with
  | zero => exact absurd hlt (Nat.not_lt.mpr h)
  | succ k =>
    have := length_ofNat_le (Nat.succ_pos k) hlt
    omega

theorem head?_ofNat (h : 0 < n) : (ofNat n).head? ≠ some '0' := by
  induction n using Nat.strongRecOn with
  | ind n ih =>
    by_cases hn : n < 10
    · have hdigit : ∀ k < 10, 0 < k → [k.digitChar].head? ≠ some '0' := by decide
      rw [ofNat, Nat.toDigits_of_lt_base hn]
      exact hdigit n hn h
    · have hq : 0 < n / 10 := Nat.div_pos (Nat.le_of_not_lt hn) (by decide)
      have hsome : (Nat.toDigits 10 (n / 10)).head?.isSome = true := List.isSome_head?.mpr Nat.toDigits_ne_nil
      rw [ofNat, Nat.toDigits_of_base_le (by decide) (Nat.le_of_not_lt hn), List.head?_append, Option.or_of_isSome hsome]
      exact ih (n / 10) (Nat.div_lt_self (by omega) (by decide)) hq

theorem value_concat (t : Text) (c : Char) : value (t ++ [c]) = 10 * value t + (c.toNat - 48) := by
  simp only [value, List.foldl_append, List.foldl_cons, List.foldl_nil]

/-- An ASCII digit is no blank, no sign and no underscore. -/
theorem digit_range {c : Char} (h : isAsciiDigit c = true) : 48 ≤ c.toNat ∧ c.toNat ≤ 57 := by
  simp only [isAsciiDigit, Bool.and_eq_true, decide_eq_true_eq] at h
  exact h

theorem ofNat_digit {c : Char} (h : isAsciiDigit c = true) : ofNat (c.toNat - 48) = [c] := by
  obtain ⟨h0, h9⟩ := digit_range h
  have hdigit : ∀ k < 10, (Nat.digitChar k).toNat = 48 + k := by decide
  rw [ofNat, Nat.toDigits_of_lt_base (by omega), List.cons.injEq, and_iff_left rfl, ← Char.toNat_inj, hdigit _ (by omega),
    Nat.add_sub_cancel' h0]

/-- A number has one form without a zero in front. -/
theorem ofNat_value (h : ∀ c ∈ t, isAsciiDigit c = true) (hne : t ≠ []) (hzero : t ≠ ['0'] → t.head? ≠ some '0') :
    ofNat (value t) = t := by
  induction t using List.reverseRecOn with
  | nil => exact absurd rfl hne
  | append_singleton u c ih =>
    have hc : isAsciiDigit c = true := h c (by simp)
    obtain ⟨h0, h9⟩ := digit_range hc
    rw [value_concat]
    by_cases hu : u = []
    · subst hu
      rw [show value [] = 0 from rfl, Nat.mul_zero, Nat.zero_add]
      exact ofNat_digit hc
    · -- more digits follow, so the first is no zero and neither is the number before the last digit
      have hhead : u.head? ≠ some '0' := by
        intro hh
        refine hzero (fun hs => hu ?_) (by rw [List.head?_append, hh]; rfl)
        exact (List.append_eq_singleton_iff.mp hs).elim And.left fun hr => nomatch hr.2
      have hback : ofNat (value u) = u :=
        ih (fun d hd => h d (List.mem_append_left _ hd)) hu fun _ => hhead
      have hpos : 0 < value u := by
        refine Nat.pos_of_ne_zero fun hv => hhead ?_
        rw [← hback, hv]
        rfl
      have hlast := ofNat_digit hc
      rw [ofNat] at hback hlast ⊢
      rw [← Nat.toDigits_append_toDigits (by decide) hpos (by omega), hback, hlast]

/-! ## Reading digits -/

/-- A character that numbers are written with: an ASCII digit, the point, the letter of the exponent or a sign. -/
def isNumeral (c : Char) : Bool := isAsciiDigit c || c == '.' || c == 'e' || c == '+' || c == '-'

theorem isNumeral_digit {c : Char} (h : isAsciiDigit c = true) : isNumeral c = true := by
  simp only [isNumeral, h, Bool.true_or]

theorem isNumeral_cases {c : Char} (h : isNumeral c = true) :
    isAsciiDigit c = true ∨ c = '.' ∨ c = 'e' ∨ c = '+' ∨ c = '-' := by
  simpa [isNumeral, or_assoc] using h

/-- A character of a number is no blank. -/
theorem isBlank_numeral {c : Char} (h : isNumeral c = true) : isBlank c = false := by
  rcases isNumeral_cases h with hd | rfl | rfl | rfl | rfl
  · obtain ⟨h0, h9⟩ := digit_range hd
    simp [isBlank]
    omega
  all_goals decide

theorem plainDigits_numeral (h : ∀ c ∈ t, isNumeral c = true) : plainDigits t = t := by
  refine (List.map_congr_left fun c hc => ?_).trans (List.map_id t)
  rcases isNumeral_cases (h c hc) with hd | rfl | rfl | rfl | rfl
  · obtain ⟨h0, h9⟩ := digit_range hd
    rw [digit?_ascii ⟨h0, h9⟩]
    show Char.ofNat (48 + (c.toNat - 48)) = c
    rw [Nat.add_sub_cancel' h0, Char.ofNat_toNat]
  all_goals rfl

theorem joinDigits?_numeral (h : ∀ c ∈ t, isNumeral c = true) (after : Bool) : joinDigits? after t = some t := by
  induction t generalizing after with
  | nil => rfl
  | cons c r ih =>
    have hc : c ≠ '_' := by
      rintro rfl
      exact absurd (h '_' List.mem_cons_self) (by decide)
    have hr := ih (fun d hd => h d (List.mem_cons_of_mem c hd)) (isAsciiDigit c)
    unfold joinDigits?
    split <;> simp_all

/-- A number without blanks, underscores and digits of other scripts is read as it stands. -/
theorem normalNumber?_numeral (h : ∀ c ∈ t, isNumeral c = true) : normalNumber? t = some t := by
  have hblank : ∀ c ∈ t, isNumberBlank c = false := fun c hc => by rw [isNumberBlank, isBlank_numeral (h c hc), Bool.false_and]
  rw [normalNumber?, strip_eq_self hblank, plainDigits_numeral h, joinDigits?_numeral h]

theorem takeSign_digits (h : ∀ c ∈ t, isAsciiDigit c = true) : takeSign t = (false, t) := by
  unfold takeSign
  split
  · exact absurd (h '-' List.mem_cons_self) (by decide)
  · exact absurd (h '+' List.mem_cons_self) (by decide)
  · rfl

theorem readInt?_digits (h : ∀ c ∈ t, isAsciiDigit c = true) (hne : t ≠ []) (hl : t.length ≤ digitLimit) :
    readInt? t = some (value t : Int) := by
  have hall : t.all isAsciiDigit = true := List.all_eq_true.mpr h
  have hempty : t.isEmpty = false := List.isEmpty_eq_false_iff.mpr hne
  rw [readInt?, normalNumber?_numeral fun c hc => isNumeral_digit (h c hc)]
  simp only [Option.bind_eq_bind, Option.bind_some, takeSign_digits h, hall, hempty, Nat.not_lt.mpr hl]
  rfl

theorem readInt?_ofNat (h : (ofNat n).length ≤ digitLimit) : readInt? (ofNat n) = some (n : Int) := by
  rw [readInt?_digits (isAsciiDigit_ofNat n) (ofNat_ne_nil n) h, value_ofNat]

end SocksTunnel.Text
