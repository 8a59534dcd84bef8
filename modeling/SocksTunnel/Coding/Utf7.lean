import SocksTunnel.Coding.Policy

/-
  SocksTunnel.Coding.Utf7 — text in ASCII alone. What is not written directly stands in
  shifted sections: a plus sign, the bits of units of 16 bits in characters of six bits
  each, and a minus sign where the next character could be taken for one of these. A plus
  sign itself is written as `+-`.

  A section that breaks off is a defect from its plus sign on, but the characters before
  the break count.

  Proved: a digit of six bits is read back (`sextet?_sextet`).
-/

namespace SocksTunnel.Utf7

/-! ## Characters of six bits -/

def digits : Text := .lit "ABCDEFGHIJKLMNOPQRSTUVWXYZabcdefghijklmnopqrstuvwxyz0123456789+/"

def sextet (n : Nat) : UInt8 := UInt8.ofNat ((digits[n % 64]?.getD '/').toNat)

/-- The six bits of a character of a section. -/
def sextet? (o : UInt8) : Option Nat := digits.findIdx? fun c => c.toNat == o.toNat

/-! ## Reading -/

/-- The bits of a section so far: the last few of them, and a high surrogate that waits for a low one. -/
structure Section where
  bits : Nat
  count : Nat
  high : Option Code
  deriving DecidableEq, Repr

namespace Section

def empty : Section := ⟨0, 0, none⟩

/-- The codes that a unit completes. -/
def unit (s : Section) (u : Code) : List Code × Section :=
  match s.high with
  | some h =>
    if Code.isLowSurrogate u then ([Code.ofSurrogates h u], { s with high := none })
    else if Code.isHighSurrogate u then ([h], { s with high := some u })
    else ([h, u], { s with high := none })
  | none => if Code.isHighSurrogate u then ([], { s with high := some u }) else ([u], s)

/-- The codes that six more bits complete. -/
def push (s : Section) (d : Nat) : List Code × Section :=
  let bits := s.bits * 64 + d
  let count := s.count + 6
  if count < 16 then ([], { s with bits := bits, count := count })
  else
    let size := Nat.pow 2 (count - 16)
    unit { s with bits := bits % size, count := count - 16 } (bits / size)

/-- What is wrong with the bits that are left where a section ends. -/
def leftover (s : Section) : Option Defect :=
  if 6 ≤ s.count then some .partialCharacter
  else if 0 < s.count ∧ s.bits ≠ 0 then some .paddingBits
  else none

/-- Whether a section must not be the end of all. -/
def isOpen (s : Section) : Bool := s.high.isSome || s.leftover.isSome

end Section

/-- Characters that stand for themselves outside of sections. -/
def isDirect (o : UInt8) : Bool := o < 0x80 && o != 43

/-- Goes through a section: `seen` octets after its plus sign have given the codes `out`. A high surrogate
that still waits counts as a code of its own where the section is ended by a direct character. -/
def readSection (s : Section) (seen : Nat) (out : List Code) : Bytes → Piece
  | [] => if s.isOpen then .defect out .unterminatedShift seen else .codes out seen
  | o :: r =>
    match sextet? o with
    | some d =>
      let (cs, s) := s.push d
      readSection s (seen + 1) (out ++ cs) r
    | none =>
      match s.leftover with
      | some d => .defect out d (seen + 1)
      | none =>
        let out := if isDirect o then out ++ s.high.toList else out
        .codes out (if o = 45 then seen + 1 else seen)

def piece (b : UInt8) (r : Bytes) : Piece :=
  if b = 43 then
    match r with
    | [] => .codes [] 0
    | o :: _ =>
      if o = 45 then .codes [43] 1
      else if (sextet? o).isNone then .defect [] .illFormed 1
      else readSection .empty 0 [] r
  else if isDirect b then .codes [b.toNat] 0
  else .defect [] .unexpectedCharacter 0

/-! ## Writing -/

/-- Codes of characters that are written as themselves. -/
def isWrittenDirectly (n : Code) : Bool :=
  let c := Char.ofNat n
  n != 0 && n < 0x80 &&
    (c.isAlphanum || (Text.lit "'(),-./:? \t\n\r!\"#$%&*;<=>@[]^_`\x7b|\x7d").contains c)

/-- Whole characters of six bits from the bits of a section, and the bits that are left. -/
def flush : Nat → Nat → Nat → Bytes × Nat × Nat
  | 0, bits, count => ([], bits, count)
  | n + 1, bits, count =>
    if count < 6 then ([], bits, count)
    else
      let size := Nat.pow 2 (count - 6)
      let (b, rest) := flush n (bits % size) (count - 6)
      (sextet (bits / size) :: b, rest)

/-- The units of a code. -/
def units (n : Code) : List Nat :=
  if n < 0x10000 then [n] else [0xd800 + (n - 0x10000) / 1024, 0xdc00 + (n - 0x10000) % 1024]

/-- Adds a code to a section with some bits left. -/
def shift (bits count : Nat) (n : Code) : Bytes × Nat × Nat :=
  let us := units n
  flush 7 (us.foldl (fun b u => b * 0x10000 + u) bits) (count + 16 * us.length)

/-- The bits that are left in a section, filled up. -/
def padding (bits count : Nat) : Bytes := if count = 0 then [] else [sextet (bits * Nat.pow 2 (6 - count))]

/-- Writes codes; inside a section with the bits that are left in it. -/
def writeFrom : Option (Nat × Nat) → List Code → Bytes
  | none, [] => []
  | some (bits, count), [] => padding bits count ++ [45]
  | none, n :: r =>
    if n = 43 then 43 :: 45 :: writeFrom none r
    else if isWrittenDirectly n then UInt8.ofNat n :: writeFrom none r
    else
      let (b, left) := shift 0 0 n
      43 :: (b ++ writeFrom (some left) r)
  | some (bits, count), n :: r =>
    if isWrittenDirectly n then
      let minus := if (sextet? (UInt8.ofNat n)).isSome || n == 45 then [45] else []
      padding bits count ++ minus ++ UInt8.ofNat n :: writeFrom none r
    else
      let (b, left) := shift bits count n
      b ++ writeFrom (some left) r

/-- Every code has units, surrogates among them. -/
def write (ns : List Code) : Bytes := writeFrom none ns

theorem sextet?_sextet : ∀ n < 64, sextet? (sextet n) = some n := by decide +kernel

end SocksTunnel.Utf7
