import SocksTunnel.Address.Ipv6
import SocksTunnel.Coding.Policy

/-
  SocksTunnel.Coding.Escape — text as the octets of ISO 8859-1 with escapes behind a
  backslash. The full form has escapes for quotes, controls, and characters by number or
  name, and writes every character past ASCII as one. The plain form has the two for
  numbers of four and of eight digits alone, and a backslash in it is otherwise itself.

  Proved: a character of ASCII that can be seen and is no backslash is written as itself
  (`octets_plain`).
-/

namespace SocksTunnel.Escape

def backslash : UInt8 := 92

/-! ## Reading -/

def hexDigit? (o : UInt8) : Option Nat := Ipv6.hexDigit? (Char.ofNat o.toNat)

def isOctal (o : UInt8) : Bool := 48 ≤ o && o < 56

/-- A number of `count` hexadecimal digits, of which `seen` octets precede. -/
def readHex (broken range : Defect) : Nat → Nat → Nat → Bytes → Piece
  | 0, seen, n, _ => if 0x110000 ≤ n then .defect [] range seen else .codes [n] seen
  | _ + 1, seen, _, [] => .defect [] broken seen
  | count + 1, seen, n, o :: r =>
    match hexDigit? o with
    | some d => readHex broken range count (seen + 1) (16 * n + d) r
    | none => .defect [] broken seen

/-- The first digit of an octal number and at most two more. -/
def readOctal (o : UInt8) (r : Bytes) : Piece :=
  let digits := o :: (r.take 2).takeWhile isOctal
  .codes [digits.foldl (fun n d => 8 * n + (d.toNat - 48)) 0] digits.length

/-- A name between braces. -/
def readName : Bytes → Piece
  | 123 :: r =>
    let name := r.takeWhile (· != 125)
    if name.length = r.length then .defect [] .malformedName (2 + r.length)
    else if name.isEmpty then .defect [] .malformedName 2
    else
      match CharacterName.toChar? (name.map fun o => Char.ofNat o.toNat) with
      | some c => .codes [c.toNat] (3 + name.length)
      | none => .defect [] .unknownName (3 + name.length)
  | _ => .defect [] .malformedName 1

/-- Escapes of one letter. -/
def letters : List (UInt8 × Nat) := [
  (92, 92), (39, 39), (34, 34), (97, 7), (98, 8), (116, 9), (110, 10), (118, 11), (102, 12), (114, 13)]

/-- What stands behind a backslash. A line end there is left out. -/
def readEscape : Bytes → Piece
  | [] => .defect [] .trailingBackslash 0
  | o :: r =>
    match letters.lookup o with
    | some n => .codes [n] 1
    | none =>
      if o = 10 then .codes [] 1
      else if isOctal o then readOctal o r
      else if o = 120 then readHex (.truncatedEscape "xXX") .illegalCharacter 2 1 0 r
      else if o = 117 then readHex (.truncatedEscape "uXXXX") .illegalCharacter 4 1 0 r
      else if o = 85 then readHex (.truncatedEscape "UXXXXXXXX") .illegalCharacter 8 1 0 r
      else if o = 78 then readName r
      else .codes [92, o.toNat] 1

def piece (b : UInt8) (r : Bytes) : Piece := if b = backslash then readEscape r else .codes [b.toNat] 0

/-- What stands behind a backslash of the plain form; a pair that is no escape stands for itself. -/
def readPlainEscape : Bytes → Piece
  | [] => .codes [92] 0
  | o :: r =>
    if o = 117 then readHex (.truncatedEscape "uXXXX") .escapeRange 4 1 0 r
    else if o = 85 then readHex (.truncatedEscape "UXXXXXXXX") .escapeRange 8 1 0 r
    else .codes [92, o.toNat] 1

def plainPiece (b : UInt8) (r : Bytes) : Piece := if b = backslash then readPlainEscape r else .codes [b.toNat] 0

/-! ## Writing -/

def octetsOf (t : Text) : Bytes := t.map fun c => UInt8.ofNat c.toNat

def octets (n : Code) : Bytes :=
  if n = 92 then [backslash, backslash]
  else if n = 9 then octetsOf ['\\', 't']
  else if n = 10 then octetsOf ['\\', 'n']
  else if n = 13 then octetsOf ['\\', 'r']
  else if 32 ≤ n ∧ n < 127 then [UInt8.ofNat n]
  else octetsOf (Text.escapeCode n)

/-- Every code has an escape, surrogates among them. -/
def write (ns : List Code) : Bytes := ns.flatMap octets

def plainOctets (n : Code) : Bytes := if n < 256 then [UInt8.ofNat n] else octetsOf (Text.escapeCode n)

def writePlain (ns : List Code) : Bytes := ns.flatMap plainOctets

theorem octets_plain {n : Code} (h : 32 ≤ n ∧ n < 127) (hb : n ≠ 92) : octets n = [UInt8.ofNat n] := by
  have hlow : ∀ m < 32, n ≠ m := fun m hm he => absurd (he ▸ h.1) (Nat.not_le_of_lt hm)
  rw [octets, if_neg hb, if_neg (hlow 9 (by decide)), if_neg (hlow 10 (by decide)), if_neg (hlow 13 (by decide)), if_pos h]

end SocksTunnel.Escape
