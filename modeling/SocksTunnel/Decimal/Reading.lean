import SocksTunnel.Text.Blank
import SocksTunnel.Decimal.Binary64

/-
  SocksTunnel.Decimal.Reading — integers and floating-point numbers from text. Blanks may
  stand around a number, a sign before it, the digits may be of any script, and one
  underscore may stand between two digits.

  Proved: a text without digits is no integer (`readInt?_eq_none`).
-/

namespace SocksTunnel.Text

/-- A number longer than this is not read. -/
def digitLimit : Nat := 4300

/-- Digits of any script as those of ASCII. -/
def plainDigits (t : Text) : Text :=
  t.map fun c => match digit? c with
    | some n => Char.ofNat (48 + n)
    | none => c

/-- Removes each underscore that stands between two digits; none for any other underscore. The flag
tells whether a digit precedes. -/
def joinDigits? : Bool → Text → Option Text
  | _, [] => some []
  | after, '_' :: c :: r => if after && isAsciiDigit c then (joinDigits? true r).map (c :: ·) else none
  | _, c :: r => if c = '_' then none else (joinDigits? (isAsciiDigit c) r).map (c :: ·)

/-- The sign of a number, true for a minus, and what follows it. -/
def takeSign : Text → Bool × Text
  | '-' :: r => (true, r)
  | '+' :: r => (false, r)
  | t => (false, t)

/-- The text of a number without blanks and underscores, its digits those of ASCII. -/
def normalNumber? (t : Text) : Option Text := joinDigits? false (plainDigits (strip isNumberBlank t))

/-- An integer in decimal digits. -/
def readInt? (t : Text) : Option Int := do
  let t ← normalNumber? t
  let (negative, digits) := takeSign t
  if digits.isEmpty || !digits.all isAsciiDigit || digitLimit < digits.length then none
  else if negative then some (-(value digits : Int)) else some (value digits)

/-- The exponent part of a number, zero where nothing is left. -/
def exponent? : Text → Option Int
  | [] => some 0
  | c :: r =>
    let (negative, digits) := takeSign r
    if (c = 'e' ∨ c = 'E') ∧ digits ≠ [] ∧ digits.all isAsciiDigit then
      some (if negative then -(value digits : Int) else value digits)
    else none

/-- Digits with at most one point among or beside them, and an exponent. -/
def decimal? (negative : Bool) (t : Text) : Option Binary64 :=
  let whole := t.takeWhile isAsciiDigit
  let rest := t.dropWhile isAsciiDigit
  let fraction := match rest with
    | '.' :: r => r.takeWhile isAsciiDigit
    | _ => []
  let tail := match rest with
    | '.' :: r => r.dropWhile isAsciiDigit
    | r => r
  if whole.isEmpty && fraction.isEmpty then none
  else (exponent? tail).map fun e => .ofDecimal negative (value (whole ++ fraction)) (e - fraction.length)

/-- A floating-point number, infinity and no number among them. -/
def readReal? (t : Text) : Option Binary64 := do
  let t ← normalNumber? t
  let (negative, body) := takeSign t
  let lower := str (body.map Char.toLower)
  if lower = "inf" ∨ lower = "infinity" then some (.infinity negative)
  else if lower = "nan" then some (.nan negative)
  else decimal? negative body

theorem readInt?_eq_none {t : Text} (h : normalNumber? t = none) : readInt? t = none := by
  simp [readInt?, h]

end SocksTunnel.Text
