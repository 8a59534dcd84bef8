import SocksTunnel.Coding.Page.Iso8859
import SocksTunnel.Coding.Scheme.Chinese
import SocksTunnel.Coding.Scheme.Japanese
import SocksTunnel.Coding.Scheme.Korean

/-
  SocksTunnel.Coding.Scheme.Designated — the codings of ISO 2022, in octets of ASCII alone.
  A sequence that starts with an escape calls for a set of characters, in the first, the
  second or the third place. Octets stand for characters of the first one, or of the second
  one where shifted to it; a single character can be taken from the third one.

  Other sequences are copied up to their last letter. At the end text is back in ASCII.

  Proved: text in ASCII stays in ASCII (`written_ascii`).
-/

namespace SocksTunnel.Scheme.Designated

open Chart
open Chart.JapaneseExtension (Edition)
open Japanese (Extended Place)

/-- A set by the letter that calls for it, which tells for sets of one and of two octets apart. -/
structure Mark where
  letter : Char
  isDouble : Bool
  deriving DecidableEq, Repr

def Mark.ascii : Mark := ⟨'B', false⟩

/-- A set as a coding has it: where it is called to, and its characters. -/
structure Designation where
  mark : Mark
  isShifted : Bool
  codes? : UInt8 → UInt8 → Option (List Code)
  octets? : Char → Option Char → Option (Bytes × Bool)

/-- A coding: its sets, the earlier ones preferred, and which means it has. -/
structure Family where
  name : String
  sets : List Designation
  hasShifts : Bool
  hasThird : Bool
  hasRevisions : Bool

/-! ## Sets -/

namespace Designation

def ofChart (letter : Char) (k : Chart) : Designation :=
  ⟨⟨letter, true⟩, false, codeIn .plane k, byFirst [octetsIn .plane k]⟩

/-- A set of which nothing is written and nothing read but by the third place. -/
def thirdOnly (letter : Char) : Designation := ⟨⟨letter, false⟩, false, fun _ _ => none, fun _ _ => none⟩

def roman : Designation :=
  ⟨⟨'J', false⟩, false, fun a _ => some [Japanese.romanCode a], byFirst [Japanese.single Japanese.romanOctet]⟩

/-- Narrow Katakana, with octets of ASCII. -/
def katakana : Designation :=
  ⟨⟨'I', false⟩, false, fun a _ => (Japanese.katakana (a + 0x80)).map fun n => [n],
    byFirst [fun c => (Japanese.ofKatakana c).map fun o => [o - 0x80]]⟩

def jis0208 : Designation := ofChart 'B' (Japanese.chart '＼')

def oldJis0208 : Designation := ofChart '@' (Japanese.chart '＼')

def jis0212 : Designation := ofChart 'D' JapaneseSupplement.chart

def extended (e : Edition) : Extended := ⟨e, '＼', '~'⟩

/-- The letter of the first plane in an edition. -/
def planeLetter : Edition → Char
  | .earlier => 'O'
  | .later => 'Q'

/-- The codes of a cell; the second plane is read as it is in the later edition. -/
def planeCodes (e : Edition) (isSecond : Bool) (a b : UInt8) : Option (List Code) :=
  (Grid.plane.cell? a b).bind fun n => (extended (if isSecond then .later else e)).codes? ⟨isSecond, n⟩

def placed (isSecond : Bool) (p : Place × Bool) : Option (Bytes × Bool) :=
  if p.1.isSecond = isSecond then some (Grid.plane.octets p.1.cell, p.2) else none

/-- The first plane for characters in twos alone. -/
def pairs (e : Edition) : Designation :=
  ⟨⟨planeLetter e, true⟩, false, planeCodes e false,
    fun c next => (((extended e).placeWith? c next).filter (·.2)).bind (placed false)⟩

def firstPlane (e : Edition) : Designation :=
  ⟨⟨planeLetter e, true⟩, false, planeCodes e false, fun c next => ((extended e).placeWith? c next).bind (placed false)⟩

def secondPlane (e : Edition) : Designation :=
  ⟨⟨'P', true⟩, false, planeCodes e true, fun c next => ((extended e).placeWith? c next).bind (placed true)⟩

def ksx1001 : Designation := ofChart 'C' Korean.chart

def gb2312 : Designation := ofChart 'A' Chinese.simplified

end Designation

/-! ## Codings -/

open Designation

def japanese (name : String) (sets : List Designation) : Family := ⟨name, sets, false, false, true⟩

def jp : Family := japanese "iso2022_jp" [jis0208, roman, oldJis0208]

def jp1 : Family := japanese "iso2022_jp_1" [jis0208, jis0212, roman, oldJis0208]

def jp2 : Family :=
  { japanese "iso2022_jp_2" [jis0208, jis0212, ksx1001, gb2312, roman, oldJis0208, thirdOnly 'A', thirdOnly 'F'] with
    hasThird := true }

def jpExtended (name : String) (e : Edition) : Family := japanese name [pairs e, jis0208, firstPlane e, secondPlane e]

def jpExt : Family := japanese "iso2022_jp_ext" [jis0208, jis0212, roman, katakana, oldJis0208]

def kr : Family := ⟨"iso2022_kr", [{ ksx1001 with isShifted := true }], true, false, false⟩

/-! ## Reading -/

/-- The sets that are called for, whether octets are shifted to the second one, and whether a sequence of
another kind goes on. -/
structure State where
  first : Mark
  second : Mark
  third : Mark
  isShifted : Bool
  isCopying : Bool
  deriving DecidableEq, Repr

def State.initial : State := ⟨.ascii, .ascii, .ascii, false, false⟩

def escape : UInt8 := 0x1b

def shiftIn : UInt8 := 0x0f

def shiftOut : UInt8 := 0x0e

/-- The letters that end sequences. -/
def isLast (o : UInt8) : Bool := 0x40 ≤ o && o ≤ 0x5a

/-- What follows the escape of a sequence that calls for a set: `(`, `)`, `$`, `.` or `&`. -/
def isCall (o : UInt8) : Bool := o == 0x28 || o == 0x29 || o == 0x24 || o == 0x2e || o == 0x26

/-- The length of a sequence whose first `i` octets are known not to end it. There is none where the octets
break off; the sequence is too long where it is zero. With revisions the sign of one is jumped. -/
def sequenceLength (hasRevisions : Bool) (i : Nat) (t : Bytes) : Option Nat :=
  if 16 ≤ i then some 0
  else
    match t with
    | [] => none
    | c :: r =>
      if isLast c then some (i + 1)
      else if hasRevisions && c == 0x26 && r.head? == some 0x40 then sequenceLength hasRevisions (i + 3) (r.drop 2)
      else sequenceLength hasRevisions (i + 1) r
termination_by t.length

/-- The state after a sequence, given without its escape. -/
def called (f : Family) (s : State) (t : Bytes) : Option State :=
  let known (m : Mark) (s : State) : Option State :=
    if m = .ascii ∨ f.sets.any (fun d => d.mark = m) then some s else none
  let one (c : UInt8) : Mark := ⟨Char.ofNat c.toNat, false⟩
  let two (c : UInt8) : Mark := ⟨Char.ofNat c.toNat, true⟩
  match t with
  | [0x24, c] => known (two c) { s with first := two c }
  | [0x28, c] => known (one c) { s with first := one c }
  | [0x29, c] => known (one c) { s with second := one c }
  | [0x2e, c] => if f.hasThird then known (one c) { s with third := one c } else none
  | [0x24, 0x28, c] => known (two c) { s with first := two c }
  | [0x24, 0x29, c] => known (two c) { s with second := two c }
  | [_, _, 0x1b, 0x24, 0x42] => if f.hasRevisions then known (two 0x42) { s with first := two 0x42 } else none
  | _ => none

def callPiece (f : Family) (s : State) (r : Bytes) : Piece × State :=
  match sequenceLength f.hasRevisions 1 r with
  | none => (incomplete r, s)
  | some n =>
    match called f s (r.take (n - 1)) with
    | some s => (.codes [] (n - 1), s)
    | none => (illegalRow n, s)

/-- Signs that the set of Greek letters did not have at first. -/
def lateGreek : Text := .lit "€₯ͺ"

/-- The code of an octet by the set in the third place. -/
def thirdCode (m : Mark) (o : UInt8) : Option Code :=
  let page (p : Page) : Option Char := (p.char? (o ^^^ 0x80)).filter fun c => !lateGreek.contains c
  if m = ⟨'A', false⟩ then if o < 0x80 then some (o.toNat + 0x80) else none
  else if m = ⟨'F', false⟩ then (page Page.Iso8859.part7).map Char.toNat
  else if o < 0x80 then some o.toNat
  else none

/-- One character from the third place. -/
def thirdPiece (s : State) (r : Bytes) : Piece :=
  match r with
  | _ :: o :: _ => foundRow 3 ((thirdCode s.third o).map fun n => [n])
  | _ => incomplete r

/-- A character of a set. -/
def setPiece (d : Designation) (a : UInt8) (r : Bytes) : Piece :=
  if d.mark.isDouble then
    match r with
    | [] => incomplete []
    | b :: _ => foundRow 2 (d.codes? a b)
  else foundRow 1 (d.codes? a 0)

def piece (f : Family) (s : State) (a : UInt8) (r : Bytes) : Piece × State :=
  let copy : Piece := .codes [a.toNat] 0
  if s.isCopying then (copy, { s with isCopying := !isLast a })
  else if a = escape then
    match r with
    | [] => (incomplete [], s)
    | b :: _ =>
      if isCall b then callPiece f s r
      else if f.hasThird && b == 0x4e then (thirdPiece s r, s)
      else (copy, { s with isCopying := true })
  else if f.hasShifts && a == shiftIn then (.codes [] 0, { s with isShifted := false })
  else if f.hasShifts && a == shiftOut then (.codes [] 0, { s with isShifted := true })
  else if a = 0x0a then (copy, { s with isShifted := false })
  else if a < 0x20 then (copy, s)
  else if 0x80 ≤ a then (illegal, s)
  else
    let mark := if s.isShifted then s.second else s.first
    match f.sets.find? fun d => d.mark = mark with
    | some d => if mark = .ascii then (copy, s) else (setPiece d a r, s)
    | none => (copy, s)

/-! ## Writing -/

def letter (m : Mark) : UInt8 := UInt8.ofNat m.letter.toNat

/-- The sequence that calls a set to the first or the second place; that of one set is shorter than others. -/
def callOctets (m : Mark) (isShifted : Bool) : Bytes :=
  let side : UInt8 := if isShifted then 0x29 else 0x28
  if m = ⟨'B', true⟩ then [escape, 0x24, letter m]
  else if m.isDouble then [escape, 0x24, side, letter m]
  else [escape, side, letter m]

/-- Back to ASCII. -/
def reset (s : State) : Bytes :=
  (if s.first = .ascii then [] else callOctets .ascii false) ++ if s.isShifted then [shiftIn] else []

def written (f : Family) (s : State) (c : Char) (next : Option Char) : Option (Written State) :=
  if c.toNat < 0x80 then
    some ⟨reset s ++ [UInt8.ofNat c.toNat], false, { s with first := .ascii, isShifted := false }⟩
  else do
    let (d, b, takesNext) ← f.sets.findSome? fun d => (d.octets? c next).map fun w => (d, w)
    if d.isShifted then
      let call := if s.second = d.mark then [] else callOctets d.mark true
      let shift := if s.isShifted then [] else [shiftOut]
      some ⟨call ++ shift ++ b, takesNext, { s with second := d.mark, isShifted := true }⟩
    else
      let shift := if s.isShifted then [shiftIn] else []
      let call := if s.first = d.mark then [] else callOctets d.mark false
      some ⟨shift ++ call ++ b, takesNext, { s with first := d.mark, isShifted := false }⟩

def scheme (f : Family) : Scheme State where
  name := f.name
  start := .initial
  piece := piece f
  written := written f
  finish := reset

theorem written_ascii (f : Family) (c : Char) (next : Option Char) (h : c.toNat < 0x80) :
    (scheme f).written .initial c next = some ⟨[UInt8.ofNat c.toNat], false, .initial⟩ := by
  simp [scheme, written, h, reset, State.initial]

end SocksTunnel.Scheme.Designated
