import SocksTunnel.Decimal.Binary64

/-
  SocksTunnel.Decimal.Shortest — floating-point numbers in decimal: the fewest digits that
  read back as the number, or a fixed count of significant digits.

  A positive number lies below `10 ^ p` and not below `10 ^ (p - 1)` for one position `p`;
  its text on a grid of `n` digits is a whole number of units `10 ^ (p - n)`.

  Proved: rounding to a grid is within half a unit (`roundHalfEven_near`).
-/

namespace SocksTunnel

/-- Digits without zeros at their ends, and the position of the point before the first of them counted from the left. -/
structure Digits where
  digits : Text
  point : Int
  deriving DecidableEq, Repr

/-- How a number is laid out: from which to which position of the point it is written out,
and whether a whole number keeps `.0`. -/
structure Layout where
  least : Int
  most : Int
  keepsPoint : Bool
  deriving DecidableEq, Repr

namespace Digits

/-- `n` units of `10 ^ exponent`, for a positive `n`. -/
def ofScaled (n : Nat) (exponent : Int) : Digits :=
  let all := Nat.toDigits 10 n
  let kept := (all.reverse.dropWhile (· == '0')).reverse
  ⟨kept, all.length + exponent⟩

def render (l : Layout) (d : Digits) : Text :=
  let n : Int := d.digits.length
  if l.least ≤ d.point ∧ d.point ≤ l.most then
    if d.point ≤ 0 then Text.lit "0." ++ List.replicate (-d.point).toNat '0' ++ d.digits
    else if n ≤ d.point then
      d.digits ++ List.replicate (d.point - n).toNat '0' ++ (if l.keepsPoint then Text.lit ".0" else [])
    else d.digits.take d.point.toNat ++ '.' :: d.digits.drop d.point.toNat
  else
    let e := d.point - 1
    let exponent := Nat.toDigits 10 e.natAbs
    d.digits.take 1 ++ (if n = 1 then [] else '.' :: d.digits.drop 1) ++
      ['e', if e < 0 then '-' else '+'] ++ List.replicate (2 - exponent.length) '0' ++ exponent

end Digits

namespace Binary64

/-- The position of the point in `a / d`, both positive. -/
def position (a d : Nat) : Int :=
  if d ≤ a then (Nat.toDigits 10 (a / d)).length else 1 - (Nat.toDigits 10 ((d - 1) / a)).length

/-- The ratio `a / d` over `10 ^ e`. -/
def scale (a d : Nat) (e : Int) : Nat × Nat :=
  if 0 ≤ e then (a, d * Nat.pow 10 e.toNat) else (a * Nat.pow 10 (-e).toNat, d)

/-- The ends of the numbers that read as `x`, and `x` itself, times four times `2 ^ 1074`. -/
def interval (x : Binary64) : Nat × Nat × Nat :=
  let m := 4 * x.magnitude
  let u := Nat.pow 2 x.unit
  let below := if x.significand = Nat.pow 2 52 ∧ 0 < x.unit then u else 2 * u
  (m - below, m, m + 2 * u)

/-- Whether `k` units of `10 ^ e` read as `x`. -/
def readsBack (x : Binary64) (k : Nat) (e : Int) : Bool :=
  let (lo, _, hi) := x.interval
  let (a, d) := if 0 ≤ e then (k * Nat.pow 10 e.toNat, 1) else (k, Nat.pow 10 (-e).toNat)
  let a := a * (4 * Nat.pow 2 1074)
  if x.significand % 2 = 0 then lo * d ≤ a && a ≤ hi * d else lo * d < a && a < hi * d

/-- The number on the grid of units `10 ^ e` that reads as `x` and is nearest to it, if one does. -/
def onGrid? (x : Binary64) (e : Int) : Option Nat :=
  let (a, d) := scale x.magnitude (Nat.pow 2 1074) e
  let near := roundHalfEven a d
  [near, a / d, a / d + 1].find? fun k => x.readsBack k e

/-- The fewest digits that read back as a positive finite number, of those the nearest. -/
def shortest (x : Binary64) : Digits :=
  let p := position x.magnitude (Nat.pow 2 1074)
  let grids := (List.range 17).map fun n => p - ((n + 1 : Nat) : Int)
  ((grids.findSome? fun e => (x.onGrid? e).map fun k => Digits.ofScaled k e)).getD ⟨['0'], 1⟩

/-- A positive finite number with `n` significant digits at most. -/
def significant (n : Nat) (x : Binary64) : Digits :=
  let e := position x.magnitude (Nat.pow 2 1074) - n
  let (a, d) := scale x.magnitude (Nat.pow 2 1074) e
  Digits.ofScaled (roundHalfEven a d) e

/-- The text of any number whose positive finite ones are written by `write`. -/
def textWith (l : Layout) (write : Binary64 → Digits) (x : Binary64) : Text :=
  let body :=
    if x.magnitude = 0 then ⟨['0'], 1⟩ else write x
  if x.isNaN then Text.lit "nan"
  else
    (if x.sign then ['-'] else []) ++
      (if x.isFinite then body.render l else Text.lit "inf")

/-- Numbers of messages are written out from `0.0001` to below `10 ^ 16`, and keep `.0`. -/
def fullLayout : Layout := ⟨-3, 16, true⟩

/-- Durations have six significant digits, and are written out from `0.0001` to below `10 ^ 6`. -/
def shortLayout : Layout := ⟨-3, 6, false⟩

/-- The shortest text that reads back. -/
def text (x : Binary64) : Text := x.textWith fullLayout shortest

/-- The text of a duration. -/
def shortText (x : Binary64) : Text := x.textWith shortLayout (significant 6)

theorem roundHalfEven_near {a d : Nat} (hd : 0 < d) :
    2 * (roundHalfEven a d * d) ≤ 2 * a + d ∧ 2 * a ≤ 2 * (roundHalfEven a d * d) + d := by
  have h := Nat.div_add_mod a d
  have hr := Nat.mod_lt a hd
  rw [Nat.mul_comm] at h
  unfold roundHalfEven
  simp only
  split
  · omega
  · split
    · rw [Nat.add_mul]; omega
    · split
      · omega
      · rw [Nat.add_mul]; omega

end Binary64

end SocksTunnel
