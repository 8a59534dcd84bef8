import SocksTunnel.Coding.Chart.JapaneseExtension
import SocksTunnel.Coding.Chart.JapaneseSupplement
import SocksTunnel.Coding.Scheme

/-
  SocksTunnel.Coding.Scheme.Japanese — the codings of Japan in which octets need no marks.
  In EUC the octets of a plane are past ASCII, and one octet in front tells of another set.
  In Shift JIS two rows of a plane make up one, so that narrow Katakana have octets of
  their own.

  Proved: a narrow Katakana letter is read back (`katakana_ofKatakana`).
-/

namespace SocksTunnel.Scheme.Japanese

open Chart
open Chart.JapaneseExtension (Edition)

/-! ## Narrow letters -/

/-- The narrow Katakana of an octet. -/
def katakana (o : UInt8) : Option Code := if 0xa1 ≤ o ∧ o ≤ 0xdf then some (0xfec0 + o.toNat) else none

def ofKatakana (c : Char) : Option UInt8 :=
  if 0xff61 ≤ c.toNat ∧ c.toNat ≤ 0xff9f then some (UInt8.ofNat (c.toNat - 0xfec0)) else none

/-- A yen sign and an overline, written as the backslash and the tilde of ASCII. -/
def romanOctet (c : Char) : Option UInt8 := if c = '¥' then some 0x5c else if c = '‾' then some 0x7e else none

/-- A single octet where ASCII has those two instead. -/
def romanCode (o : UInt8) : Code := if o = 0x5c then 0xa5 else if o = 0x7e then 0x203e else o.toNat

def single (octet : Char → Option UInt8) (c : Char) : Option Bytes := (octet c).map fun o => [o]

theorem katakana_ofKatakana {c : Char} {o : UInt8} (h : ofKatakana c = some o) : katakana o = some c.toNat := by
  unfold ofKatakana at h
  split at h
  · next hc =>
    have ho : o.toNat = c.toNat - 0xfec0 := by
      rw [← Option.some.inj h, UInt8.toNat_ofNat']
      omega
    have hr : 0xa1 ≤ o ∧ o ≤ 0xdf := by
      constructor <;> rw [UInt8.le_iff_toNat_le, ho]
      · exact Nat.le_sub_of_add_le hc.1
      · exact Nat.sub_le_of_le_add hc.2
    rw [katakana, if_pos hr, ho, Nat.add_sub_of_le (Nat.le_trans (by decide) hc.1)]
  · cases h

/-! ## JIS X 0213 -/

/-- A cell of one of the two planes. -/
structure Place where
  isSecond : Bool
  cell : Nat
  deriving DecidableEq, Repr

/-- JIS X 0213 in an edition, with a wide or plain backslash and tilde. -/
structure Extended where
  edition : Edition
  backslash : Char
  tilde : Char
  deriving DecidableEq, Repr

namespace Extended

def first (x : Extended) : Chart := JapaneseExtension.firstPlane x.edition x.backslash x.tilde

def second (x : Extended) : Chart := JapaneseExtension.secondPlane x.edition

def codes? (x : Extended) (p : Place) : Option (List Code) :=
  if p.isSecond then (x.second.char? p.cell).map fun c => [c.toNat]
  else
    match x.first.char? p.cell with
    | some c => some [c.toNat]
    | none => (JapaneseExtension.pairs.lookup p.cell).map fun (c, d) => [c.toNat, d.toNat]

/-- The place of two characters together. -/
def pairPlace? (c : Char) (next : Option Char) : Option Place :=
  (pairOf JapaneseExtension.pairs c next).map fun n => ⟨false, n⟩

def place? (x : Extended) (c : Char) : Option Place :=
  match x.first.cell? c with
  | some n => some ⟨false, n⟩
  | none => (x.second.cell? c).map fun n => ⟨true, n⟩

/-- Whether a character may be the first of two together. -/
def isPaired (c : Char) : Bool := JapaneseExtension.pairs.any fun p => p.2.1 == c

/-- The place of a character, and whether it takes the next one: one that completes it, or one that could be
taken for nothing at all. -/
def placeWith? (x : Extended) (c : Char) (next : Option Char) : Option (Place × Bool) :=
  match pairPlace? c next with
  | some p => some (p, true)
  | none => (x.place? c).map fun p => (p, isPaired c && next.any fun d => shortCode d == 0)

end Extended

/-- Whether two octets are a cell that only the later edition has filled. -/
def isVacant (e : Edition) (g : Grid) (a : UInt8) (r : Bytes) : Bool :=
  match e with
  | .earlier => ((r.head?.bind (g.cell? a)).bind JapaneseExtension.added.char?).isSome
  | .later => false

/-- Counts both octets of a cell that an edition leaves vacant as one defect. -/
def withVacant (e : Edition) (g : Grid) (piece : UInt8 → Bytes → Piece) (a : UInt8) (r : Bytes) : Piece :=
  if isVacant e g a r then illegalRow 2 else piece a r

/-! ## EUC -/

/-- The octet in front of narrow Katakana. -/
def katakanaMark : UInt8 := 0x8e

/-- The octet in front of a second plane. -/
def planeMark : UInt8 := 0x8f

/-- Reads EUC with some codes in two octets, and some in three. -/
def eucPiece (codes? secondCodes? : UInt8 → UInt8 → Option (List Code)) (a : UInt8) (r : Bytes) : Piece :=
  if a = katakanaMark then pair (fun b => (katakana b).map fun n => [n]) r
  else if a = planeMark then
    match r with
    | b :: c :: _ => found 3 (secondCodes? b c)
    | _ => incomplete r
  else asciiOr codes? a r

def markedKatakana (c : Char) : Option Bytes := (ofKatakana c).map fun o => [katakanaMark, o]

def supplementOctets (c : Char) : Option Bytes := (octetsIn .upperPlane JapaneseSupplement.chart c).map (planeMark :: ·)

def eucChart : Chart := Japanese.chart '＼'

def euc : Scheme Unit :=
  .plain "euc_jp" (eucPiece (codeIn .upperPlane eucChart) (codeIn .upperPlane JapaneseSupplement.chart))
    (byFirst [asciiOctet, octetsIn .upperPlane eucChart, markedKatakana, single romanOctet, supplementOctets])

def eucPlaceOctets (p : Place) : Bytes :=
  let b := Grid.upperPlane.octets p.cell
  if p.isSecond then planeMark :: b else b

def placeCodes (x : Extended) (isSecond : Bool) (a b : UInt8) : Option (List Code) :=
  (Grid.upperPlane.cell? a b).bind fun n => x.codes? ⟨isSecond, n⟩

/-- The octets of JIS X 0213; what it leaves out of JIS X 0212 can be written too, except the ideographs that
an edition does not have. -/
def eucExtendedOctets (x : Extended) (c : Char) (next : Option Char) : Option (Bytes × Bool) :=
  match asciiOctet c with
  | some b => some (b, false)
  | none =>
    match x.placeWith? c next with
    | some (p, takesNext) => some (eucPlaceOctets p, takesNext)
    | none =>
      if (JapaneseExtension.missing x.edition).contains c then none
      else byFirst [markedKatakana, supplementOctets] c next

def eucExtended (name : String) (e : Edition) : Scheme Unit :=
  let x : Extended := ⟨e, '＼', '～'⟩
  .plain name
    (withVacant e .upperPlane <| eucPiece (placeCodes x false) fun a b =>
      (placeCodes x true a b).or (codeIn .upperPlane JapaneseSupplement.chart a b))
    (eucExtendedOctets x)

/-! ## Shift JIS -/

/-- The cells of planes one after the other, two rows in one. -/
def shiftGrid : Grid := ⟨[(0x81, 0x9f), (0xe0, 0xfc)], [(0x40, 0x7e), (0x80, 0xfc)]⟩

/-- As many of its rows as JIS X 0208 fills. -/
def shortShiftGrid : Grid := { shiftGrid with rows := [(0x81, 0x9f), (0xe0, 0xea)] }

/-- Reads an octet with a code of its own, or two octets if the first one is of a row. -/
def shiftPiece (rows : Ranges) (code? : UInt8 → Option Code) (codes? : UInt8 → UInt8 → Option (List Code)) (a : UInt8)
    (r : Bytes) : Piece :=
  match code? a with
  | some n => .codes [n] 0
  | none => if (rows.index? a).isSome then pair (codes? a) r else illegal

def shift : Scheme Unit :=
  .plain "shift_jis"
    (shiftPiece shortShiftGrid.rows (fun a => if a < 0x80 then some a.toNat else katakana a)
      (codeIn shortShiftGrid eucChart))
    (byFirst [asciiOctet, single romanOctet, single ofKatakana, octetsIn shortShiftGrid eucChart])

/-! ## Code page 932 -/

/-- Single octets past ASCII: private characters where nothing else is. -/
def windowsCode (o : UInt8) : Option Code :=
  if o ≤ 0x80 then some o.toNat
  else if o = 0xa0 then some 0xf8f0
  else if 0xfd ≤ o then some (0xf8f1 + (o.toNat - 0xfd))
  else katakana o

def windowsOctet (c : Char) : Option UInt8 :=
  if c.toNat ≤ 0x80 then some (UInt8.ofNat c.toNat)
  else if c.toNat = 0xf8f0 then some 0xa0
  else if 0xf8f1 ≤ c.toNat ∧ c.toNat ≤ 0xf8f3 then some (UInt8.ofNat (0xfd + (c.toNat - 0xf8f1)))
  else ofKatakana c

def windows : Scheme Unit :=
  .plain "cp932" (shiftPiece shiftGrid.rows windowsCode (codeIn shiftGrid Chart.Japanese.windows))
    (byFirst [single windowsOctet, octetsIn shiftGrid Chart.Japanese.windows])

/-! ## Shift JIS with JIS X 0213 -/

/-- The rows of the second plane, as they follow the first one. -/
def secondRows : List Nat := [1, 8, 3, 4, 5, 12, 13, 14, 15] ++ (List.range 17).map (78 + ·)

/-- The place of a cell of the grid. -/
def shiftPlace? (n : Nat) : Option Place :=
  let plane := cell 95 1
  if n < plane then some ⟨false, n⟩
  else (secondRows[(n - plane) / 94]?).map fun row => ⟨true, cell row (n % 94 + 1)⟩

/-- The cell of the grid that a place has. -/
def shiftCell? (p : Place) : Option Nat :=
  if p.isSecond then
    (secondRows.findIdx? (· == p.cell / 94 + 1)).map fun i => cell (95 + i) (p.cell % 94 + 1)
  else some p.cell

def shiftExtendedOctets (x : Extended) (c : Char) (next : Option Char) : Option (Bytes × Bool) :=
  match byFirst [single romanOctet, single ofKatakana] c next with
  | some w => some w
  | none =>
    match x.placeWith? c next with
    | some (p, takesNext) => (shiftCell? p).map fun n => (shiftGrid.octets n, takesNext)
    | none => (asciiOctet c).map fun b => (b, false)

def shiftExtended (name : String) (e : Edition) : Scheme Unit :=
  let x : Extended := ⟨e, '\\', '~'⟩
  .plain name
    (withVacant e shiftGrid <|
      shiftPiece shiftGrid.rows (fun a => if a < 0x80 then some (romanCode a) else katakana a)
        fun a b => ((shiftGrid.cell? a b).bind shiftPlace?).bind x.codes?)
    (shiftExtendedOctets x)

end SocksTunnel.Scheme.Japanese
