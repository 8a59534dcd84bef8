import SocksTunnel.Decimal.Shortest
import SocksTunnel.Proofs.Decimal.Rounding
import SocksTunnel.Proofs.Text.Whole

/-
  SocksTunnel.Proofs.Decimal.Numeral — numbers that are written in decimal and read again. Digits
  are laid out with a point among them, with zeros beside them, or with an exponent, as their size
  wants it.

  Proved: whatever the layout, the text is read as the number nearest to its digits at the position
  of their point (`readReal?_render`), since zeros at either end change nothing
  (`ofDecimal_mul_pow`).
-/

namespace SocksTunnel

/-! ## Numbers in decimal -/

namespace Binary64

variable {n : Nat} {e : Int}

/-- The number nearest to `n * 10 ^ e`, by one ratio for both signs of the exponent. -/
theorem ofDecimal_eq (negative : Bool) (n : Nat) (e : Int) : ofDecimal negative n e =
    if n = 0 ∨ (Text.ofNat n).length + e < -400 then zero negative
    else if 400 < (Text.ofNat n).length + e then infinity negative
    else ofRatio negative (n * 10 ^ e.toNat) (10 ^ (-e).toNat) := by
  have hratio : (if 0 ≤ e then ofRatio negative (n * Nat.pow 10 e.toNat) 1 else ofRatio negative n (Nat.pow 10 (-e).toNat)) =
      ofRatio negative (n * 10 ^ e.toNat) (10 ^ (-e).toNat) := by
    split
    · rw [Int.toNat_eq_zero.mpr (show -e ≤ 0 by omega), Nat.pow_zero, Nat.pow_eq]
    · rw [Int.toNat_eq_zero.mpr (show e ≤ 0 by omega), Nat.pow_zero, Nat.mul_one, Nat.pow_eq]
  unfold ofDecimal
  dsimp only
  rw [hratio]
  rfl

end Binary64

namespace Text

variable {t : Text} {n : Nat}

theorem length_ofNat_mul_pow (hn : 0 < n) (j : Nat) : (ofNat (n * 10 ^ j)).length = (ofNat n).length + j := by
  induction j with
  | zero => rw [Nat.pow_zero, Nat.mul_one, Nat.add_zero]
  | succ j ih =>
    have hpos : 0 < n * 10 ^ j := Nat.mul_pos hn (Nat.pow_pos (by decide))
    have hstep : ofNat (n * 10 ^ (j + 1)) = ofNat (n * 10 ^ j) ++ [Nat.digitChar 0] := by
      rw [Nat.pow_succ, ← Nat.mul_assoc, ofNat, Nat.toDigits_of_base_le (by decide) (by omega),
        Nat.mul_div_cancel _ (by decide), Nat.mul_mod_left]
      rfl
    rw [hstep, List.length_append, ih]
    rfl

theorem value_append (t u : Text) : value (t ++ u) = value t * 10 ^ u.length + value u := by
  induction u using List.reverseRecOn with
  | nil => rw [List.append_nil, List.length_nil, Nat.pow_zero, Nat.mul_one]; rfl
  | append_singleton u c ih =>
    rw [← List.append_assoc, value_concat, value_concat, ih, List.length_append, List.length_singleton, Nat.pow_succ]
    ring

theorem value_zeros (j : Nat) : value (List.replicate j '0') = 0 := by
  induction j with
  | zero => rfl
  | succ j ih => rw [List.replicate_succ', value_concat, ih]; rfl

theorem value_zeros_append (j : Nat) (t : Text) : value (List.replicate j '0' ++ t) = value t := by
  rw [value_append, value_zeros, Nat.zero_mul, Nat.zero_add]

theorem value_append_zeros (t : Text) (j : Nat) : value (t ++ List.replicate j '0') = value t * 10 ^ j := by
  rw [value_append, value_zeros, Nat.add_zero, List.length_replicate]

end Text

namespace Binary64

theorem ofDecimal_mul_pow (negative : Bool) (n j : Nat) (e : Int) :
    ofDecimal negative (n * 10 ^ j) e = ofDecimal negative n (e + j) := by
  rcases Nat.eq_zero_or_pos n with rfl | hn
  · rw [Nat.zero_mul, ofDecimal_eq, ofDecimal_eq, if_pos (.inl rfl), if_pos (.inl rfl)]
  have hne : n * 10 ^ j ≠ 0 := Nat.mul_ne_zero hn.ne' (Nat.pow_pos (by decide)).ne'
  have hsize : ((Text.ofNat (n * 10 ^ j)).length : Int) + e = (Text.ofNat n).length + (e + j) := by
    rw [Text.length_ofNat_mul_pow hn]
    omega
  have hratio : n * 10 ^ j * 10 ^ e.toNat * 10 ^ (-(e + j)).toNat = n * 10 ^ (e + j).toNat * 10 ^ (-e).toNat := by
    rw [Nat.mul_assoc, Nat.mul_assoc, Nat.mul_assoc, ← Nat.pow_add, ← Nat.pow_add, ← Nat.pow_add]
    congr 2
    omega
  rw [ofDecimal_eq, ofDecimal_eq, hsize, ofRatio_congr negative (Nat.pow_pos (by decide)) (Nat.pow_pos (by decide)) hratio]
  simp only [hne, hn.ne', false_or]

end Binary64

namespace Text

variable {whole fraction tail : Text} {negative : Bool}

/-! ## Reading -/

theorem takeWhile_digits (hw : ∀ c ∈ whole, isAsciiDigit c = true) (ht : ∀ c ∈ tail.head?, isAsciiDigit c = false) :
    (whole ++ tail).takeWhile isAsciiDigit = whole ∧ (whole ++ tail).dropWhile isAsciiDigit = tail := by
  rw [List.takeWhile_append_of_pos hw, List.dropWhile_append_of_pos hw, dropWhile_eq_self ht]
  refine ⟨?_, rfl⟩
  cases tail with
  | nil => exact List.append_nil whole
  | cons c r => rw [List.takeWhile_cons_of_neg (by simp [ht c rfl]), List.append_nil]

theorem decimal?_whole (hne : whole ≠ []) (hw : ∀ c ∈ whole, isAsciiDigit c = true)
    (ht : ∀ c ∈ tail.head?, isAsciiDigit c = false ∧ c ≠ '.') :
    decimal? negative (whole ++ tail) = (exponent? tail).map fun e => .ofDecimal negative (value whole) e := by
  obtain ⟨htake, hdrop⟩ := takeWhile_digits hw fun c hc => (ht c hc).1
  unfold decimal?
  rw [htake, hdrop]
  cases tail with
  | nil => simp [hne]
  | cons c r =>
    obtain ⟨-, hc⟩ := ht c rfl
    simp [hne, hc]

theorem decimal?_point (hne : whole ≠ []) (hw : ∀ c ∈ whole, isAsciiDigit c = true)
    (hf : ∀ c ∈ fraction, isAsciiDigit c = true) (ht : ∀ c ∈ tail.head?, isAsciiDigit c = false) :
    decimal? negative (whole ++ '.' :: (fraction ++ tail)) =
      (exponent? tail).map fun e => .ofDecimal negative (value (whole ++ fraction)) (e - fraction.length) := by
  have hpoint : ∀ c ∈ ('.' :: (fraction ++ tail)).head?, isAsciiDigit c = false := by
    rintro _ ⟨⟩
    rfl
  obtain ⟨htake, hdrop⟩ := takeWhile_digits hw hpoint
  obtain ⟨htake', hdrop'⟩ := takeWhile_digits hf ht
  unfold decimal?
  simp only [htake, hdrop, htake', hdrop']
  rw [if_neg]
  simp [hne]

theorem toLower_digit {c : Char} (h : isAsciiDigit c = true) : c.toLower = c := by
  obtain ⟨-, h9⟩ := digit_range h
  unfold Char.toLower
  split
  · rename_i hupper
    have : 65 ≤ c.toNat := hupper.1
    omega
  · rfl

/-- A text that begins with a digit is no word. -/
theorem lower_ne_word {c : Char} (h : isAsciiDigit c = true) (r : Text) {w : String}
    (hw : ∀ d ∈ w.toList.head?, isAsciiDigit d = false) : str ((c :: r).map Char.toLower) ≠ w := by
  rintro rfl
  rw [str, String.toList_ofList, List.map_cons, toLower_digit h] at hw
  exact absurd (hw c rfl) (by rw [h]; decide)

/-- A text that begins with a digit, behind a minus sign or none, is read as a number in decimal. -/
theorem readReal?_numeral {body : Text} (h : ∀ c ∈ body, isNumeral c = true)
    (hfirst : ∀ c ∈ body.head?, isAsciiDigit c = true) (hne : body ≠ []) (negative : Bool) :
    readReal? ((if negative then ['-'] else []) ++ body) = decimal? negative body := by
  obtain ⟨c, r, rfl⟩ := List.exists_cons_of_ne_nil hne
  have hdigit : isAsciiDigit c = true := hfirst c rfl
  have hnormal :
      normalNumber? ((if negative then ['-'] else []) ++ c :: r) = some ((if negative then ['-'] else []) ++ c :: r) := by
    refine normalNumber?_numeral fun d hd => (List.mem_append.mp hd).elim (fun hd => ?_) (h d)
    split at hd
    · rw [List.mem_singleton.mp hd]
      rfl
    · cases hd
  have hsign : takeSign ((if negative then ['-'] else []) ++ c :: r) = (negative, c :: r) := by
    cases negative with
    | true => rfl
    | false =>
      rw [if_neg Bool.false_ne_true, List.nil_append]
      unfold takeSign
      split
      · rename_i hcons
        cases hcons
        exact absurd hdigit (by decide)
      · rename_i hcons
        cases hcons
        exact absurd hdigit (by decide)
      · rfl
  rw [readReal?, hnormal]
  simp only [Option.bind_eq_bind, Option.bind_some, hsign]
  rw [if_neg, if_neg]
  · exact lower_ne_word hdigit r (by simp [isAsciiDigit])
  · exact not_or.mpr ⟨lower_ne_word hdigit r (by simp [isAsciiDigit]), lower_ne_word hdigit r (by simp [isAsciiDigit])⟩

/-- The exponent behind a number, with zeros in front of its digits. -/
def exponentText (e : Int) (zeros : Nat) : Text :=
  ['e', if e < 0 then '-' else '+'] ++ List.replicate zeros '0' ++ ofNat e.natAbs

theorem exponent?_exponentText (e : Int) (zeros : Nat) : exponent? (exponentText e zeros) = some e := by
  have hdigits : ∀ c ∈ List.replicate zeros '0' ++ ofNat e.natAbs, isAsciiDigit c = true := fun c hc =>
    (List.mem_append.mp hc).elim (fun hz => by rw [List.eq_of_mem_replicate hz]; rfl) (isAsciiDigit_ofNat _ c)
  have hne : List.replicate zeros '0' ++ ofNat e.natAbs ≠ [] := fun h => ofNat_ne_nil _ (List.append_eq_nil_iff.mp h).2
  have hvalue : value (List.replicate zeros '0' ++ ofNat e.natAbs) = e.natAbs := by rw [value_zeros_append, value_ofNat]
  rw [exponentText, List.append_assoc]
  generalize List.replicate zeros '0' ++ ofNat e.natAbs = digits at *
  have hall : digits.all isAsciiDigit = true := List.all_eq_true.mpr hdigits
  have hsign : takeSign ((if e < 0 then '-' else '+') :: digits) = (decide (e < 0), digits) := by
    by_cases he : e < 0 <;> simp [takeSign, he]
  simp only [List.cons_append, List.nil_append, exponent?, hsign, hvalue]
  rw [if_pos ⟨.inl trivial, hne, hall⟩]
  by_cases he : e < 0
  · rw [decide_eq_true he, if_pos rfl]
    exact congrArg some (by omega)
  · rw [decide_eq_false he, if_neg Bool.false_ne_true]
    exact congrArg some (by omega)

theorem isNumeral_exponentText (e : Int) (zeros : Nat) : ∀ c ∈ exponentText e zeros, isNumeral c = true := by
  intro c hc
  simp only [exponentText, List.mem_append, List.mem_cons, List.not_mem_nil, or_false] at hc
  rcases hc with ((rfl | rfl) | hc) | hc
  · rfl
  · split <;> rfl
  · rw [List.eq_of_mem_replicate hc]
    rfl
  · exact isNumeral_digit (isAsciiDigit_ofNat _ c hc)

end Text

/-! ## Numerals -/

open Text

/-- A number as it is written in decimal: a whole part, perhaps a fraction behind a point, and perhaps an exponent with so
many zeros in front. -/
structure Numeral where
  whole : Text
  fraction : Option Text
  exponent : Option (Int × Nat)
  whole_ne_nil : whole ≠ []
  whole_digits : ∀ c ∈ whole, isAsciiDigit c = true
  fraction_digits : ∀ f ∈ fraction, ∀ c ∈ f, isAsciiDigit c = true

namespace Numeral

def tail (x : Numeral) : Text := x.exponent.elim [] fun e => exponentText e.1 e.2

def text (x : Numeral) : Text := x.whole ++ ((x.fraction.elim [] ('.' :: ·)) ++ x.tail)

/-- All digits but those of the exponent. -/
def digits (x : Numeral) : Text := x.whole ++ x.fraction.getD []

/-- How many powers of ten the last of these digits stands for. -/
def scale (x : Numeral) : Int := x.exponent.elim 0 Prod.fst - (x.fraction.getD []).length

theorem exponent?_tail (x : Numeral) : exponent? x.tail = some (x.exponent.elim 0 Prod.fst) := by
  rw [tail]
  cases x.exponent with
  | none => rfl
  | some e => exact exponent?_exponentText e.1 e.2

theorem head?_tail (x : Numeral) : ∀ c ∈ x.tail.head?, isAsciiDigit c = false ∧ c ≠ '.' := by
  rw [tail]
  cases x.exponent with
  | none => nofun
  | some e =>
    rintro _ ⟨⟩
    exact ⟨rfl, by decide⟩

theorem decimal?_text (x : Numeral) (negative : Bool) :
    decimal? negative x.text = some (.ofDecimal negative (value x.digits) x.scale) := by
  rw [text, digits, scale]
  cases hf : x.fraction with
  | none =>
    show decimal? negative (x.whole ++ x.tail) = _
    rw [decimal?_whole x.whole_ne_nil x.whole_digits x.head?_tail, exponent?_tail]
    simp
  | some f =>
    show decimal? negative (x.whole ++ '.' :: (f ++ x.tail)) = _
    rw [decimal?_point x.whole_ne_nil x.whole_digits (x.fraction_digits f hf) fun c hc => (x.head?_tail c hc).1, exponent?_tail]
    rfl

theorem isNumeral_text (x : Numeral) : ∀ c ∈ x.text, isNumeral c = true := by
  intro c hc
  simp only [text, List.mem_append] at hc
  rcases hc with hc | hc | hc
  · exact isNumeral_digit (x.whole_digits c hc)
  · cases hf : x.fraction with
    | none =>
      rw [hf] at hc
      cases hc
    | some f =>
      rw [hf] at hc
      rcases List.mem_cons.mp hc with rfl | hc
      · rfl
      · exact isNumeral_digit (x.fraction_digits f hf c hc)
  · rw [tail] at hc
    cases he : x.exponent with
    | none =>
      rw [he] at hc
      cases hc
    | some e =>
      rw [he] at hc
      exact isNumeral_exponentText e.1 e.2 c hc

/-- A numeral, perhaps behind a minus sign, is read as the number nearest to it. -/
theorem readReal?_text (x : Numeral) (negative : Bool) : readReal? ((if negative then ['-'] else []) ++ x.text) =
    some (.ofDecimal negative (value x.digits) x.scale) := by
  have hhead : x.text.head? = x.whole.head? := List.head?_append_of_ne_nil _ x.whole_ne_nil
  have hne : x.text ≠ [] := fun h => x.whole_ne_nil (List.append_eq_nil_iff.mp h).1
  rw [readReal?_numeral x.isNumeral_text (fun c hc => x.whole_digits c (List.mem_of_mem_head? (hhead ▸ hc))) hne,
    decimal?_text]

end Numeral

/-! ## Layouts -/

namespace Digits

/-- Digits and nothing else, at least one of them. -/
structure IsPlain (d : Digits) : Prop where
  digits : ∀ c ∈ d.digits, isAsciiDigit c = true
  ne_nil : d.digits ≠ []

variable {d : Digits}

theorem isAsciiDigit_zeros (j : Nat) : ∀ c ∈ List.replicate j '0', isAsciiDigit c = true := fun c hc => by
  rw [List.eq_of_mem_replicate hc]
  rfl

/-- A numeral that stands for the digits at the position of their point. -/
def Shows (d : Digits) (x : Numeral) : Prop :=
  ∀ negative, Binary64.ofDecimal negative (value x.digits) x.scale =
    .ofDecimal negative (value d.digits) (d.point - d.digits.length)

theorem Shows.of_eq {x : Numeral} (hvalue : value x.digits = value d.digits) (hscale : x.scale = d.point - d.digits.length) :
    d.Shows x := by
  intro negative
  rw [hvalue, hscale]

/-- Zeros behind the digits go with the exponent. -/
theorem Shows.of_zeros {x : Numeral} {j : Nat} (hvalue : value x.digits = value d.digits * 10 ^ j)
    (hscale : x.scale + j = d.point - d.digits.length) : d.Shows x := by
  intro negative
  rw [hvalue, Binary64.ofDecimal_mul_pow, hscale]

/-- A point among the digits, and an exponent or none. -/
theorem exists_pointed (h : d.IsPlain) {k : Nat} (hk : 0 < k) (hkl : k ≤ d.digits.length) (e : Option (Int × Nat))
    (he : e.elim 0 Prod.fst = d.point - k) : ∃ x : Numeral,
      d.digits.take k ++ '.' :: d.digits.drop k ++ e.elim [] (fun e => exponentText e.1 e.2) = x.text ∧ d.Shows x := by
  have hne : d.digits.take k ≠ [] := by
    rw [← List.length_pos_iff, List.length_take]
    omega
  refine ⟨⟨d.digits.take k, some (d.digits.drop k), e, hne, fun c hc => h.digits c (List.mem_of_mem_take hc), ?_⟩, ?_,
    .of_eq ?_ ?_⟩
  · rintro _ ⟨⟩ c hc
    exact h.digits c (List.mem_of_mem_drop hc)
  · exact List.append_assoc _ _ _
  · exact congrArg value (List.take_append_drop k d.digits)
  · show e.elim 0 Prod.fst - ((d.digits.drop k).length : Int) = _
    rw [he, List.length_drop]
    omega

/-- Every layout gives a numeral that stands for the digits. -/
theorem exists_numeral (h : d.IsPlain) (l : Layout) : ∃ x : Numeral, d.render l = x.text ∧ d.Shows x := by
  have hlength := List.length_pos_iff.mpr h.ne_nil
  unfold render
  dsimp only
  split
  · split
    · rename_i hpoint
      refine ⟨⟨['0'], some (List.replicate (-d.point).toNat '0' ++ d.digits), none, List.cons_ne_nil _ _,
        isAsciiDigit_zeros 1, ?_⟩, ?_, .of_eq ?_ ?_⟩
      · rintro _ ⟨⟩ c hc
        exact (List.mem_append.mp hc).elim (isAsciiDigit_zeros _ c) (h.digits c)
      · simp [Numeral.text, Numeral.tail, Text.lit]
      · show value (List.replicate 1 '0' ++ (List.replicate (-d.point).toNat '0' ++ d.digits)) = _
        rw [value_zeros_append, value_zeros_append]
      · show (0 : Int) - ((List.replicate (-d.point).toNat '0' ++ d.digits).length : Int) = _
        rw [List.length_append, List.length_replicate]
        omega
    split
    · rename_i hpoint
      have hwhole : ∀ c ∈ d.digits ++ List.replicate (d.point - d.digits.length).toNat '0', isAsciiDigit c = true := fun c hc =>
        (List.mem_append.mp hc).elim (h.digits c) (isAsciiDigit_zeros _ c)
      have hne : d.digits ++ List.replicate (d.point - d.digits.length).toNat '0' ≠ [] := fun hnil =>
        h.ne_nil (List.append_eq_nil_iff.mp hnil).1
      cases l.keepsPoint with
      | false =>
        refine ⟨⟨_, none, none, hne, hwhole, nofun⟩, rfl, .of_zeros (j := (d.point - d.digits.length).toNat) ?_ ?_⟩
        · rw [← value_append_zeros]
          exact congrArg value (List.append_nil _)
        · show (0 : Int) - 0 + _ = _
          omega
      | true =>
        refine ⟨⟨_, some ['0'], none, hne, hwhole, ?_⟩, rfl, .of_zeros (j := (d.point - d.digits.length).toNat + 1) ?_ ?_⟩
        · rintro _ ⟨⟩
          exact isAsciiDigit_zeros 1
        · rw [Nat.pow_succ, ← Nat.mul_assoc, ← value_append_zeros]
          exact value_append_zeros _ 1
        · show (0 : Int) - 1 + _ = _
          omega
    · have hexponent : (0 : Int) = d.point - d.point.toNat := by omega
      obtain ⟨x, hx, hshows⟩ := exists_pointed h (k := d.point.toNat) (by omega) (by omega) none hexponent
      exact ⟨x, by rw [← hx]; exact (List.append_nil _).symm, hshows⟩
  · generalize 2 - (Nat.toDigits 10 (d.point - 1).natAbs).length = zeros
    by_cases hone : (d.digits.length : Int) = 1
    · have htake : d.digits.take 1 = d.digits := List.take_of_length_le (by omega)
      refine ⟨⟨d.digits, none, some (d.point - 1, zeros), h.ne_nil, h.digits, nofun⟩, ?_, .of_eq ?_ ?_⟩
      · rw [if_pos hone, htake]
        simp [Numeral.text, Numeral.tail, exponentText, ofNat]
      · exact congrArg value (List.append_nil _)
      · show d.point - 1 - 0 = _
        omega
    · obtain ⟨x, hx, hshows⟩ := exists_pointed h Nat.one_pos hlength (some (d.point - 1, zeros)) rfl
      refine ⟨x, ?_, hshows⟩
      rw [if_neg hone, ← hx]
      simp [exponentText, ofNat]

/-- Digits in any layout are read as the number nearest to them. -/
theorem readReal?_render (h : d.IsPlain) (l : Layout) (negative : Bool) :
    readReal? ((if negative then ['-'] else []) ++ d.render l) =
      some (.ofDecimal negative (value d.digits) (d.point - d.digits.length)) := by
  obtain ⟨x, hx, hshows⟩ := exists_numeral h l
  rw [hx, x.readReal?_text, hshows]

/-! ## Digits of a number -/

/-- A number is its digits without the zeros at their end, and these zeros. -/
theorem exists_zeros (n : Nat) (e : Int) : ∃ z, ofNat n = (ofScaled n e).digits ++ List.replicate z '0' := by
  have hsplit : (ofNat n).rdropWhile (· == '0') ++ (ofNat n).rtakeWhile (· == '0') = ofNat n :=
    List.rdropWhile_append_rtakeWhile
  have hzeros : ∀ c ∈ (ofNat n).rtakeWhile (· == '0'), c = '0' := fun c hc => by simpa using List.mem_rtakeWhile_imp hc
  refine ⟨((ofNat n).rtakeWhile (· == '0')).length, ?_⟩
  rw [← List.eq_replicate_of_mem hzeros]
  exact hsplit.symm

/-- The digits of a number are those of a number, and stand for it. -/
theorem ofScaled_spec {n : Nat} (hn : 0 < n) (e : Int) : (ofScaled n e).IsPlain ∧ ∀ negative,
    Binary64.ofDecimal negative (value (ofScaled n e).digits) ((ofScaled n e).point - (ofScaled n e).digits.length) =
      .ofDecimal negative n e := by
  obtain ⟨z, hz⟩ := exists_zeros n e
  have hpoint : (ofScaled n e).point = (ofNat n).length + e := rfl
  generalize ofScaled n e = d at *
  have hvalue : value d.digits * 10 ^ z = n := by rw [← value_append_zeros, ← hz, value_ofNat]
  refine ⟨⟨fun c hc => isAsciiDigit_ofNat n c (hz ▸ List.mem_append_left _ hc), fun hnil => ?_⟩, fun negative => ?_⟩
  · rw [hnil, show value [] = 0 from rfl, Nat.zero_mul] at hvalue
    omega
  · have hscale : d.point - d.digits.length = e + z := by
      rw [hpoint, hz, List.length_append, List.length_replicate]
      omega
    rw [hscale, ← Binary64.ofDecimal_mul_pow, hvalue]

end Digits

end SocksTunnel
