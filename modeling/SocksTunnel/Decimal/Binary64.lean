import SocksTunnel.Text.Digit

/-
  SocksTunnel.Decimal.Binary64 — floating-point numbers of 64 bits, held as their bits and
  computed with exactly. A finite number is its significand times two to its unit, over
  `2 ^ 1074`.

  Proved: a finite number without a sign or with the value zero is not below zero
  (`isNegative_eq_false_iff`), and the two zeros have one value (`value_zero`).
-/

namespace SocksTunnel

structure Binary64 where
  bits : UInt64
  deriving DecidableEq, Repr

namespace Binary64

def word (x : Binary64) : Nat := x.bits.toNat

def sign (x : Binary64) : Bool := Nat.pow 2 63 ≤ x.word

def exponentField (x : Binary64) : Nat := x.word / Nat.pow 2 52 % 2048

def fraction (x : Binary64) : Nat := x.word % Nat.pow 2 52

def isFinite (x : Binary64) : Bool := x.exponentField != 2047

def isNaN (x : Binary64) : Bool := x.exponentField == 2047 && x.fraction != 0

def significand (x : Binary64) : Nat :=
  if x.exponentField = 0 then x.fraction else Nat.pow 2 52 + x.fraction

def unit (x : Binary64) : Nat := x.exponentField - 1

/-- The absolute value of a finite number, times `2 ^ 1074`. -/
def magnitude (x : Binary64) : Nat := x.significand * Nat.pow 2 x.unit

/-- The value of a finite number. -/
def value (x : Binary64) : Rat :=
  mkRat (if x.sign then -(x.magnitude : Int) else x.magnitude) (Nat.pow 2 1074)

/-- Below zero; neither a zero nor a number that is none. -/
def isNegative (x : Binary64) : Bool := x.sign && x.magnitude != 0 && !x.isNaN

/-- The number with this sign whose other bits are `w`. -/
def ofWord (negative : Bool) (w : Nat) : Binary64 :=
  ⟨UInt64.ofNat (if negative then Nat.pow 2 63 + w else w)⟩

def infinity (negative : Bool) : Binary64 := ofWord negative (2047 * Nat.pow 2 52)

def nan (negative : Bool) : Binary64 := ofWord negative (2047 * Nat.pow 2 52 + Nat.pow 2 51)

def zero (negative : Bool) : Binary64 := ofWord negative 0

/-! ## Rounding -/

/-- The whole number nearest to `a / d`, of two the even one. -/
def roundHalfEven (a d : Nat) : Nat :=
  let q := a / d
  let r := a % d
  if 2 * r < d then q
  else if d < 2 * r then q + 1
  else if q % 2 = 0 then q else q + 1

/-- The unit at which `a / d` has a significand of 53 bits, or the least unit. -/
def unitOf (a d : Nat) : Nat :=
  let p := a.log2 - (d.log2 + 52)
  if a < d * Nat.pow 2 (p + 52) then p - 1 else p

/-- The number nearest to `a / d`, of two the one with an even significand. A significand that
rounds up to 54 bits carries into the exponent. -/
def ofRatio (negative : Bool) (a d : Nat) : Binary64 :=
  let a := a * Nat.pow 2 1074
  let p := unitOf a d
  ofWord negative (min (p * Nat.pow 2 52 + roundHalfEven a (d * Nat.pow 2 p)) (2047 * Nat.pow 2 52))

/-- The number nearest to `n * 10 ^ e`. -/
def ofDecimal (negative : Bool) (n : Nat) (e : Int) : Binary64 :=
  let magnitude := (Nat.toDigits 10 n).length + e
  if n = 0 ∨ magnitude < -400 then zero negative
  else if 400 < magnitude then infinity negative
  else if 0 ≤ e then ofRatio negative (n * Nat.pow 10 e.toNat) 1
  else ofRatio negative n (Nat.pow 10 (-e).toNat)

/-- The number nearest to an integer, unless that is infinite. -/
def ofInt? (n : Int) : Option Binary64 :=
  let x := ofRatio (n < 0) n.natAbs 1
  if x.isFinite then some x else none

/-- The whole part of a finite number. -/
def truncate (x : Binary64) : Int :=
  let n : Int := (x.magnitude / Nat.pow 2 1074 : Nat)
  if x.sign then -n else n

/-! ## Comparison -/

/-- Whether two numbers compare equal: the zeros do, and what is no number equals nothing. -/
def same (x y : Binary64) : Bool :=
  !x.isNaN && !y.isNaN && (x.bits == y.bits || (x.magnitude == 0 && y.magnitude == 0))

/-- Whether a number equals an integer. -/
def sameInt (x : Binary64) (n : Int) : Bool :=
  x.isFinite && x.truncate == n && x.magnitude % Nat.pow 2 1074 == 0

theorem isNegative_eq_false_iff {x : Binary64} (h : x.isFinite = true) :
    x.isNegative = false ↔ x.sign = false ∨ x.magnitude = 0 := by
  have hn : x.isNaN = false := by
    simp only [isFinite, bne_iff_ne, ne_eq] at h
    simp [isNaN, h]
  cases hs : x.sign <;> simp [isNegative, hs, hn]

theorem value_zero (negative : Bool) : (zero negative).value = 0 := by
  cases negative <;> decide +kernel

end Binary64

end SocksTunnel
