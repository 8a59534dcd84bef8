import SocksTunnel.Coding.Policy

/-
  SocksTunnel.Coding.Punycode — text as octets of ASCII: first the characters that are in
  ASCII, then a dash if there are any, and then where the other characters go. These are
  taken in the order of their codes. How far it is to the place of each, over all codes
  and all places, is a number of digits to base 36, the low ones first, whose weights
  adapt to the numbers before.

  Proved: a digit is read back (`digit?_digit`), and a weight is at least one and at most
  26 (`one_le_threshold`, `threshold_le`).
-/

namespace SocksTunnel.Punycode

/-! ## Numbers -/

def digit (n : Nat) : UInt8 := UInt8.ofNat (if n < 26 then 97 + n else 22 + n)

/-- The value of a digit in upper case. -/
def digit? (c : Char) : Option Nat :=
  if 'A' ≤ c ∧ c ≤ 'Z' then some (c.toNat - 65)
  else if '0' ≤ c ∧ c ≤ '9' then some (c.toNat - 22)
  else none

/-- A digit below this is the last of its number, the `j`-th one. -/
def threshold (j bias : Nat) : Nat := if 36 * (j + 1) ≤ bias then 1 else min 26 (36 * (j + 1) - bias)

theorem one_le_threshold (j bias : Nat) : 1 ≤ threshold j bias := by
  unfold threshold
  split <;> omega

theorem threshold_le (j bias : Nat) : threshold j bias ≤ 26 := by
  unfold threshold
  split <;> omega

def writeNumber (bias j n : Nat) : Bytes :=
  let t := threshold j bias
  if n < t then [digit n] else digit (t + (n - t) % (36 - t)) :: writeNumber bias (j + 1) ((n - t) / (36 - t))
termination_by n
decreasing_by
  have h := one_le_threshold j bias
  have hd := Nat.div_le_self (n - threshold j bias) (36 - threshold j bias)
  omega

/-- Takes a factor out of a distance until it is small, and counts. -/
def settle (delta count : Nat) : Nat × Nat :=
  if 455 < delta then settle (delta / 35) (count + 36) else (delta, count)
termination_by delta
decreasing_by omega

/-- The bias after a distance, the first or a later one, with `size` characters by then. -/
def adapt (delta : Nat) (isFirst : Bool) (size : Nat) : Nat :=
  let delta := if isFirst then delta / 700 else delta / 2
  let (rest, count) := settle (delta + delta / size) 0
  count + 36 * rest / (rest + 38)

/-! ## Writing -/

structure Writer where
  out : Bytes
  delta : Nat
  bias : Nat
  size : Nat
  isFirst : Bool

/-- Passes a character, or writes its distance if it is the one whose turn it is. -/
def Writer.pass (turn : Code) (w : Writer) (n : Code) : Writer :=
  if n < turn then { w with delta := w.delta + 1 }
  else if n = turn then
    ⟨w.out ++ writeNumber w.bias 0 w.delta, 0, adapt w.delta w.isFirst (w.size + 1), w.size + 1, false⟩
  else w

/-- All characters in the order of their codes; `least` is the least code whose turn is still to come. -/
def Writer.passAll (all : List Code) : List Code → Code → Writer → Writer
  | [], _, w => w
  | turn :: rest, least, w =>
    let w := { w with delta := w.delta + (turn - least) * (w.size + 1) }
    let w := all.foldl (pass turn) w
    passAll all rest (turn + 1) { w with delta := w.delta + 1 }

def write (t : List Code) : Bytes :=
  let base := t.filter (· < 0x80)
  let others := ((t.filter (0x80 ≤ ·)).mergeSort (· ≤ ·)).eraseReps
  let w := Writer.passAll t others 0x80 ⟨[], 0, 72, base.length, true⟩
  base.map UInt8.ofNat ++ (if base.isEmpty then [] else [45]) ++ w.out

/-! ## Reading -/

/-- A number of digits with the weight `w` of the next one. Without strictness a broken number is none. -/
def readNumber (strict : Bool) (bias : Nat) : Nat → Nat → Nat → Text → Except CodingError (Option (Nat × Text))
  | _, _, _, [] => if strict then .error (.refused (.lit "incomplete punicode string")) else .ok none
  | j, w, n, c :: r =>
    match digit? c with
    | none =>
      if strict then .error (.refused (.lit "Invalid extended code point '" ++ [c, '\''])) else .ok none
    | some d =>
      let t := threshold j bias
      if d < t then .ok (some (n + d * w, r)) else readNumber strict bias (j + 1) (w * (36 - t)) (n + d * w) r

/-- The code that a distance leads to; a question mark for one that is too large, unless that is refused. -/
def codeAt (strict : Bool) (n : Nat) : Except CodingError Code :=
  if n < 0x110000 then .ok n
  else if strict then .error (.refused (.lit "Invalid character U+" ++ Text.hex 1 n))
  else .ok 63

/-- Puts characters in their places, from the place `next` and the code `n` on. There are no more of them
than digits, so the number of these is fuel enough. -/
def insertAll (strict : Bool) :
    Nat → Bool → Nat → Nat → Code → List Code → Text → Except CodingError (List Code)
  | 0, _, _, _, _, base, _ => .ok base
  | _, _, _, _, _, base, [] => .ok base
  | fuel + 1, isFirst, bias, next, n, base, r => do
    match ← readNumber strict bias 0 1 0 r with
    | none => .ok base
    | some (delta, r) =>
      let places := base.length + 1
      let place := next + delta
      let n ← codeAt strict (n + place / places)
      let place := place % places
      insertAll strict fuel false (adapt delta isFirst places) (place + 1) n
        (base.take place ++ n :: base.drop place) r

/-- An octet past ASCII is a defect of these octets. -/
def asciiPiece (b : UInt8) (_ : Bytes) : Piece :=
  if b < 0x80 then .codes [b.toNat] 0 else .defect [] (.ordinal 128) 0

def readAscii (policy : Text) (b : Bytes) : Except CodingError (List Code) :=
  Policy.readFrom "ascii" policy asciiPiece 0 0 b

/-- What precedes the last dash, and what follows it. -/
def cutDash (b : Bytes) : Bytes × Bytes :=
  let extended := (b.reverse.takeWhile (· != 45)).reverse
  (b.take (b.length - extended.length - 1), extended)

def strictName : Text := .lit "strict"

/-- Policies other than these three do not apply to distances. -/
def policies : List Text := [strictName, .lit "replace", .lit "ignore"]

def read (policy : Text) (b : Bytes) : Except CodingError (List Code) := do
  if !policies.contains policy then .error (.refused (.lit "Unsupported error handling " ++ policy))
  else
    let (base, extended) := cutDash b
    let base ← readAscii policy base
    let extended ← readAscii strictName extended
    let digits := extended.map fun n => (Char.ofNat n).toUpper
    insertAll (policy == strictName) digits.length true 72 0 0x80 base digits

theorem digit?_digit : ∀ n < 36, digit? (Char.ofNat (digit n).toNat).toUpper = some n := by decide +kernel

end SocksTunnel.Punycode
