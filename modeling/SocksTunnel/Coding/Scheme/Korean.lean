import SocksTunnel.Coding.Chart.Korean
import SocksTunnel.Coding.Scheme

/-
  SocksTunnel.Coding.Scheme.Korean — the codings of Korea. KS X 1001 has some syllables of
  Hangul only. The others take eight octets in EUC, which spell them letter by letter; in
  code page 949 they are in further cells; in Johab the two octets of any syllable tell
  its three letters.

  Proved: the letters of a syllable make it up again (`Syllable.index_ofIndex`).
-/

namespace SocksTunnel.Scheme.Korean

open Chart

/-! ## Syllables -/

/-- A syllable by the numbers of its letters; there may be no last one, which is zero. -/
structure Syllable where
  initial : Nat
  medial : Nat
  final : Nat
  deriving DecidableEq, Repr

namespace Syllable

def ofIndex (n : Nat) : Syllable := ⟨n / 588, n / 28 % 21, n % 28⟩

def index (s : Syllable) : Nat := 588 * s.initial + 28 * s.medial + s.final

def code (s : Syllable) : Code := 0xac00 + s.index

/-- The letters of a character, if it is a syllable. -/
def ofChar? (c : Char) : Option Syllable :=
  if 0xac00 ≤ c.toNat ∧ c.toNat < 0xac00 + 11172 then some (ofIndex (c.toNat - 0xac00)) else none

theorem index_ofIndex (n : Nat) : (ofIndex n).index = n := by
  simp only [ofIndex, index]
  omega

end Syllable

/-- The letters that start syllables. -/
def initials : Text := .lit "ㄱㄲㄴㄷㄸㄹㅁㅂㅃㅅㅆㅇㅈㅉㅊㅋㅌㅍㅎ"

def firstMedial : Char := 'ㅏ'

/-- The letters that end syllables. -/
def finals : Text := .lit "ㄱㄲㄳㄴㄵㄶㄷㄹㄺㄻㄼㄽㄾㄿㅀㅁㅂㅄㅅㅆㅇㅈㅊㅋㅌㅍㅎ"

/-! ## EUC -/

/-- The second octet of a letter, behind `0xa4`. -/
def letterOctet (c : Char) : UInt8 := UInt8.ofNat (0xa1 + (c.toNat - 0x3131))

def letterRow : UInt8 := 0xa4

/-- What stands for no letter. -/
def filler : UInt8 := 0xd4

/-- A syllable spelt out, behind a filler. -/
def spelt (s : Syllable) : Bytes :=
  let last := if s.final = 0 then filler else (finals[s.final - 1]?).elim filler letterOctet
  [letterRow, filler, letterRow, (initials[s.initial]?).elim filler letterOctet,
    letterRow, letterOctet firstMedial + UInt8.ofNat s.medial, letterRow, last]

/-- The syllable that the octets of its letters spell. -/
def ofSpelling (initial medial final : UInt8) : Option Code := do
  let i ← initials.findIdx? fun c => letterOctet c == initial
  let m ← Ranges.index? [(letterOctet firstMedial, letterOctet firstMedial + 20)] medial
  let f ← if final = filler then some 0 else (finals.findIdx? fun c => letterOctet c == final).map (· + 1)
  some (Syllable.code ⟨i, m, f⟩)

def eucPiece (a : UInt8) (r : Bytes) : Piece :=
  if a = letterRow ∧ r.head? = some filler then
    match r with
    | _ :: x :: i :: y :: m :: z :: f :: _ =>
      if x = letterRow ∧ y = letterRow ∧ z = letterRow then found 8 ((ofSpelling i m f).map fun n => [n]) else illegal
    | _ => incomplete r
  else asciiOr (codeIn .upperPlane Chart.Korean.chart) a r

def euc : Scheme Unit :=
  .plain "euc_kr" eucPiece
    (byFirst [asciiOctet, octetsIn .upperPlane Chart.Korean.chart, fun c => (Syllable.ofChar? c).map spelt])

/-! ## Code page 949 -/

def unifiedGrid : Grid := ⟨[(0x81, 0xfe)], [(0x41, 0x5a), (0x61, 0x7a), (0x81, 0xfe)]⟩

/-- The syllables that KS X 1001 leaves out: in 32 whole rows, then in the first cells of others. -/
def unifiedChart : Chart :=
  ⟨0, Chart.Korean.otherSyllables.take 5696⟩ ::
    (List.range 38).map fun i => ⟨178 * (32 + i), (Chart.Korean.otherSyllables.drop (5696 + 84 * i)).take 84⟩

def unified : Scheme Unit :=
  .plain "cp949" (asciiOr fun a b => (codeIn .upperPlane Chart.Korean.chart a b).or (codeIn unifiedGrid unifiedChart a b))
    (byFirst [asciiOctet, octetsIn .upperPlane Chart.Korean.chart, octetsIn unifiedGrid unifiedChart])

/-! ## Johab -/

/-- The five bits of each letter, with those of no letter first. -/
def initialBits : Ranges := [(1, 20)]

def medialBits : Ranges := [(2, 7), (10, 15), (18, 23), (26, 29)]

def finalBits : Ranges := [(1, 17), (19, 29)]

/-- The octets of three letters by their numbers, where zero is no letter. -/
def johabLetters (initial medial final : Nat) : Bytes :=
  let n := 0x8000 + 1024 * (initialBits.octet initial).toNat + 32 * (medialBits.octet medial).toNat +
    (finalBits.octet final).toNat
  [UInt8.ofNat (n / 256), UInt8.ofNat n]

def johabLetter (c : Char) : Option Bytes :=
  match initials.findIdx? (· == c), finals.findIdx? (· == c) with
  | some i, _ => some (johabLetters (i + 1) 0 0)
  | none, some f => some (johabLetters 0 0 (f + 1))
  | none, none =>
    if firstMedial.toNat ≤ c.toNat ∧ c.toNat < firstMedial.toNat + 21 then
      some (johabLetters 0 (c.toNat - firstMedial.toNat + 1) 0)
    else none

/-- What three letters by their numbers stand for: a syllable, a letter alone, or a blank. -/
def johabCode : Nat → Nat → Nat → Option Code
  | 0, 0, 0 => some 0x3000
  | 0, 0, f + 1 => (finals[f]?).map Char.toNat
  | 0, m + 1, 0 => some (firstMedial.toNat + m)
  | i + 1, 0, 0 => (initials[i]?).map Char.toNat
  | i + 1, m + 1, f => some (Syllable.code ⟨i, m, f⟩)
  | _, _, _ => none

def johabHangul (a b : UInt8) : Option Code := do
  let n := 256 * a.toNat + b.toNat
  let bits (k : Nat) : UInt8 := UInt8.ofNat (n / Nat.pow 2 k % 32)
  johabCode (← initialBits.index? (bits 10)) (← medialBits.index? (bits 5)) (← finalBits.index? (bits 0))

def johabGrid : Grid := ⟨[(0xd9, 0xde), (0xe0, 0xf9)], [(0x31, 0x7e), (0x91, 0xfe)]⟩

/-- The signs and ideographs of KS X 1001, without the rows of syllables and of nothing between them. -/
def johabChart : Chart := Chart.Korean.signs ++ Chart.Korean.ideographs.map fun r => { r with first := r.first - cell 30 1 }

/-- Letters of the chart have no octets there. -/
def isLetterCode (n : Code) : Bool := 0x3131 ≤ n && n ≤ 0x3163

def johabCodes (a b : UInt8) : Option (List Code) :=
  if a < 0xd8 then (johabHangul a b).map fun n => [n]
  else (codeIn johabGrid johabChart a b).filter fun cs => !cs.any isLetterCode

def johab : Scheme Unit :=
  .plain "johab" (asciiOr johabCodes)
    (byFirst [asciiOctet, fun c => (Syllable.ofChar? c).map fun s => johabLetters (s.initial + 1) (s.medial + 1) s.final,
      johabLetter, octetsIn johabGrid johabChart])

end SocksTunnel.Scheme.Korean
