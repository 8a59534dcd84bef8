import SocksTunnel.Coding.Chart.HongKong
import SocksTunnel.Coding.Chart.Simplified
import SocksTunnel.Coding.Scheme

/-
  SocksTunnel.Coding.Scheme.Chinese — the codings of China, Taiwan and Hong Kong. Most have
  two octets for whatever is not ASCII. GB 18030 has four for all that is left of Unicode;
  HZ has ASCII alone, and marks around sections of two octets a character.

  Proved: in HZ text of ASCII without a tilde is written as it is (`hz_written_ascii`).
-/

namespace SocksTunnel.Scheme.Chinese

open Chart

/-! ## GB -/

def simplified : Chart := Simplified.chart '・' '―'

def gb2312 : Scheme Unit :=
  .plain "gb2312" (asciiOr (codeIn .upperPlane simplified)) (byFirst [asciiOctet, octetsIn .upperPlane simplified])

/-- GB 2312 as GBK has it, with another middle dot and another dash. -/
def common : Chart := Simplified.chart '·' '—'

def gbkCodes (further : Chart) (a b : UInt8) : Option (List Code) :=
  (codeIn .upperPlane common a b).or (codeIn Simplified.grid further a b)

def gbkOctets (further : Chart) : List (Char → Option Bytes) :=
  [asciiOctet, octetsIn .upperPlane common, octetsIn Simplified.grid further]

def gbk : Scheme Unit :=
  .plain "gbk" (asciiOr (gbkCodes Simplified.extension)) (byFirst (gbkOctets Simplified.extension))

/-! ## Four octets -/

/-- What GB 18030 has in two octets beside GB 2312. -/
def extension : Chart := Simplified.extension ++ Simplified.additions

/-- The characters up to U+FFFF that have neither one nor two octets, in their order. -/
def remaining : Text := absent (common.text ++ extension.text) 0x80 0xff80

/-- Two of the four octets. -/
def half : Grid := ⟨[(0x81, 0xfe)], [(0x30, 0x39)]⟩

/-- The number of the four octets of U+10000. -/
def supplement : Nat := 189000

def fourOctets (c : Char) : Option Bytes := do
  let n ← if c.toNat < 0x10000 then remaining.findIdx? (· == c) else some (supplement + (c.toNat - 0x10000))
  some (half.octets (n / 1260) ++ half.octets (n % 1260))

def fourOctetCode (a b c d : UInt8) : Option Code := do
  let m ← half.cell? a b
  let n ← half.cell? c d
  let n := 1260 * m + n
  if n < supplement then (remaining[n]?).map Char.toNat
  else if n - supplement < 0x100000 then some (0x10000 + (n - supplement))
  else none

/-- A digit as the second octet tells that there are four. -/
def gb18030Piece (a : UInt8) (r : Bytes) : Piece :=
  match r with
  | b :: s =>
    if a < 0x80 || b < 0x30 || 0x39 < b then asciiOr (gbkCodes extension) a r
    else
      match s with
      | c :: d :: _ => found 4 ((fourOctetCode a b c d).map fun n => [n])
      | _ => incomplete r
  | [] => asciiOr (gbkCodes extension) a r

def gb18030 : Scheme Unit := .plain "gb18030" gb18030Piece (byFirst (gbkOctets extension ++ [fourOctets]))

/-! ## HZ -/

/-- What stands after a tilde: a tilde, the start of a section, a line that goes on, or the end of a section. -/
def hzMark (isInside : Bool) (o : UInt8) : Option (List Code × Bool) :=
  match isInside, o with
  | false, 0x7e => some ([0x7e], false)
  | false, 0x7b => some ([], true)
  | false, 0x0a => some ([], false)
  | true, 0x7d => some ([], false)
  | _, _ => none

def hzPiece (isInside : Bool) (a : UInt8) (r : Bytes) : Piece × Bool :=
  if a = 0x7e then
    match r with
    | [] => (incomplete [], isInside)
    | b :: _ =>
      match hzMark isInside b with
      | some (cs, s) => (.codes cs 1, s)
      | none => (illegal, isInside)
  else if 0x80 ≤ a then (illegal, isInside)
  else if isInside then (pair (codeIn .plane simplified a) r, isInside)
  else (.codes [a.toNat] 0, isInside)

def hzWritten (isInside : Bool) (c : Char) (_ : Option Char) : Option (Written Bool) :=
  if c.toNat < 0x80 then
    let close : Bytes := if isInside then [0x7e, 0x7d] else []
    some ⟨close ++ if c = '~' then [0x7e, 0x7e] else [UInt8.ofNat c.toNat], false, false⟩
  else
    let start : Bytes := if isInside then [] else [0x7e, 0x7b]
    (octetsIn .plane simplified c).map fun b => ⟨start ++ b, false, true⟩

def hz : Scheme Bool where
  name := "hz"
  start := false
  piece := hzPiece
  written := hzWritten
  finish isInside := if isInside then [0x7e, 0x7d] else []

theorem hz_written_ascii (c : Char) (next : Option Char) (h : c.toNat < 0x80) (ht : c ≠ '~') :
    hz.written false c next = some ⟨[UInt8.ofNat c.toNat], false, false⟩ := by
  simp [hz, hzWritten, h, ht]

/-! ## Big5 -/

def big5 : Scheme Unit :=
  .plain "big5" (asciiOr (codeIn Traditional.grid Traditional.chart))
    (byFirst [asciiOctet, octetsIn Traditional.grid Traditional.chart])

def windows : Scheme Unit :=
  .plain "cp950" (asciiOr (codeIn Traditional.grid Traditional.windowsChart))
    (byFirst [asciiOctet, octetsIn Traditional.grid Traditional.windowsChart])

/-- The two codes of a cell of two characters. -/
def pairCodes (a b : UInt8) : Option (List Code) :=
  (HongKong.pairs.find? fun p => p.1 == [a, b]).map fun (_, c, d) => [c.toNat, d.toNat]

def hongKongOctets (c : Char) (next : Option Char) : Option (Bytes × Bool) :=
  match pairOf HongKong.pairs c next with
  | some b => some (b, true)
  | none => byFirst [asciiOctet, octetsIn Traditional.grid HongKong.chart] c next

def hongKong : Scheme Unit :=
  .plain "big5hkscs" (asciiOr fun a b => (codeIn Traditional.grid HongKong.chart a b).or (pairCodes a b)) hongKongOctets

end SocksTunnel.Scheme.Chinese
