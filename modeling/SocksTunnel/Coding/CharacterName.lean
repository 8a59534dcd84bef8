import SocksTunnel.Coding.CharacterName.Ancient
import SocksTunnel.Coding.CharacterName.Brahmic
import SocksTunnel.Coding.CharacterName.Brushed
import SocksTunnel.Coding.CharacterName.Eastern
import SocksTunnel.Coding.CharacterName.Extended
import SocksTunnel.Coding.CharacterName.Forms
import SocksTunnel.Coding.CharacterName.Indic
import SocksTunnel.Coding.CharacterName.Inscribed
import SocksTunnel.Coding.CharacterName.Late
import SocksTunnel.Coding.CharacterName.Latin
import SocksTunnel.Coding.CharacterName.Modern
import SocksTunnel.Coding.CharacterName.Notation
import SocksTunnel.Coding.CharacterName.Pictographs
import SocksTunnel.Coding.CharacterName.Semitic
import SocksTunnel.Coding.CharacterName.Sequences
import SocksTunnel.Coding.CharacterName.Signs
import SocksTunnel.Coding.CharacterName.Syllabic
import SocksTunnel.Coding.CharacterName.Symbols
import SocksTunnel.Coding.CharacterName.Tags
import SocksTunnel.Text.Digit

/-
  SocksTunnel.Coding.CharacterName — the names of characters, and characters by name.
  Ideographs are named by their numbers, and the syllables of Hangul by their sounds; the
  names of other characters are written down.

  Controls have no name of their own, but can be found by others; so can a few characters
  that have one. In a name that is written down the case does not matter. Private characters
  of plane 15 lend themselves to the names that belong to no single character.

  Proved: an ideograph is named by its number (`ofChar?_ideograph`).
-/

namespace SocksTunnel.CharacterName

/-! ## Names that are written down -/

/-- The words of an entry, after the words of the name before it. -/
def expand (before : List Text) (entry : Text) : List Text :=
  match entry with
  | first :: last :: own =>
    before.take (first.toNat - '0'.toNat) ++ own.splitOn ' ' ++
      before.drop (before.length - (last.toNat - '0'.toNat))
  | _ => before

/-- The names of entries in a row. -/
def namesFrom : List Text → List Text → List (Option Text)
  | _, [] => []
  | before, [] :: r => none :: namesFrom before r
  | before, entry :: r =>
    let words := expand before entry
    some ([' '].intercalate words) :: namesFrom words r

def names (run : String) : List (Option Text) := namesFrom [] ((Text.lit run).splitOn ',')

/-- The runs of names with their first and last characters. -/
def runs : List (Nat × Nat × String) :=
  Latin.runs ++ Semitic.runs ++ Indic.runs ++ Syllabic.runs ++ Extended.runs ++ Signs.runs ++ Symbols.runs ++
    Eastern.runs ++ Modern.runs ++ Forms.runs ++ Ancient.runs ++ Brahmic.runs ++ Inscribed.runs ++ Brushed.runs ++
    Notation.runs ++ Late.runs ++ Pictographs.runs ++ Tags.runs

def written? (n : Nat) : Option Text := do
  let (first, _, run) ← runs.find? fun r => r.1 ≤ n && n ≤ r.2.1
  ((names run)[n - first]?).join

def findWritten? (name : Text) : Option Nat :=
  runs.findSome? fun (first, _, run) => ((names run).findIdx? (· == some name)).map (first + ·)

/-! ## Ideographs -/

/-- The ranges of ideographs, ends included. -/
def ideographs : List (Nat × Nat) := [
  (0x3400, 0x4dbf), (0x4e00, 0x9fff), (0x20000, 0x2a6df), (0x2a700, 0x2b738), (0x2b740, 0x2b81d), (0x2b820, 0x2cea1),
  (0x2ceb0, 0x2ebe0), (0x30000, 0x3134a)]

def isIdeograph (n : Nat) : Bool := ideographs.any fun r => r.1 ≤ n && n ≤ r.2

def ideographPrefix : Text := Text.lit "CJK UNIFIED IDEOGRAPH-"

/-- Ideographs that are there twice, once for the sake of other codings. -/
def compatible : List (Nat × Nat) := [(0xf900, 0xfa6d), (0xfa70, 0xfad9), (0x2f800, 0x2fa1d)]

def isCompatible (n : Nat) : Bool := compatible.any fun r => r.1 ≤ n && n ≤ r.2

def compatiblePrefix : Text := Text.lit "CJK COMPATIBILITY IDEOGRAPH-"

/-- A number as it stands in a name. -/
def numberText (n : Nat) : Text := (Text.hex 4 n).map Char.toUpper

def digitOf? (c : Char) : Option Nat :=
  if '0' ≤ c ∧ c ≤ '9' then some (c.toNat - '0'.toNat)
  else if 'A' ≤ c ∧ c ≤ 'F' then some (c.toNat - 'A'.toNat + 10)
  else none

/-- The number after the words of a name: four or five digits. -/
def numberOf? (t : Text) : Option Nat :=
  if t.length = 4 ∨ t.length = 5 then (t.mapM digitOf?).map fun ds => ds.foldl (fun n d => 16 * n + d) 0 else none

/-! ## Syllables -/

def leads : List Text := (Text.lit "G,GG,N,D,DD,R,M,B,BB,S,SS,,J,JJ,C,K,T,P,H").splitOn ','

def vowels : List Text :=
  (Text.lit "A,AE,YA,YAE,EO,E,YEO,YE,O,WA,WAE,OE,YO,U,WEO,WE,WI,YU,EU,YI,I").splitOn ','

def tails : List Text :=
  (Text.lit ",G,GG,GS,N,NJ,NH,D,L,LG,LM,LB,LS,LT,LP,LH,M,B,BS,S,SS,NG,J,C,K,T,P,H").splitOn ','

def firstSyllable : Nat := 0xac00

def lastSyllable : Nat := 0xd7a3

def syllablePrefix : Text := Text.lit "HANGUL SYLLABLE "

def syllableText (n : Nat) : Text :=
  let i := n - firstSyllable
  (leads[i / (21 * 28)]?).getD [] ++ (vowels[i / 28 % 21]?).getD [] ++ (tails[i % 28]?).getD []

/-- The longest of the sounds that a text starts with, by its place, and what follows it. -/
def cutSound (sounds : List Text) (t : Text) : Option (Nat × Text) :=
  let found := sounds.zipIdx.filter fun s => s.1.isPrefixOf t
  let length := (found.map fun s => s.1.length).foldl max 0
  (found.find? fun s => s.1.length == length).map fun s => (s.2, t.drop length)

def syllableOf? (t : Text) : Option Nat := do
  let (lead, t) ← cutSound leads t
  let (vowel, t) ← cutSound vowels t
  let (tail, t) ← cutSound tails t
  if t.isEmpty then some (firstSyllable + (lead * 21 + vowel) * 28 + tail) else none

/-! ## Other names -/

/-- The other names of the controls before the space, those of one control with slashes between them. -/
def controls : String :=
  "NULL/NUL,START OF HEADING/SOH,START OF TEXT/STX,END OF TEXT/ETX,END OF TRANSMISSION/EOT,ENQUIRY/ENQ," ++
  "ACKNOWLEDGE/ACK,ALERT/BEL,BACKSPACE/BS,CHARACTER TABULATION/HORIZONTAL TABULATION/HT/TAB," ++
  "LINE FEED/NEW LINE/END OF LINE/LF/NL/EOL,LINE TABULATION/VERTICAL TABULATION/VT,FORM FEED/FF," ++
  "CARRIAGE RETURN/CR,SHIFT OUT/LOCKING-SHIFT ONE/SO,SHIFT IN/LOCKING-SHIFT ZERO/SI,DATA LINK ESCAPE/DLE," ++
  "DEVICE CONTROL ONE/DC1,DEVICE CONTROL TWO/DC2,DEVICE CONTROL THREE/DC3,DEVICE CONTROL FOUR/DC4," ++
  "NEGATIVE ACKNOWLEDGE/NAK,SYNCHRONOUS IDLE/SYN,END OF TRANSMISSION BLOCK/ETB,CANCEL/CAN,END OF MEDIUM/EOM," ++
  "SUBSTITUTE/SUB,ESCAPE/ESC,INFORMATION SEPARATOR FOUR/FILE SEPARATOR/FS," ++
  "INFORMATION SEPARATOR THREE/GROUP SEPARATOR/GS,INFORMATION SEPARATOR TWO/RECORD SEPARATOR/RS," ++
  "INFORMATION SEPARATOR ONE/UNIT SEPARATOR/US"

/-- The other names of the controls behind the tilde. -/
def laterControls : String :=
  "DELETE/DEL,PADDING CHARACTER/PAD,HIGH OCTET PRESET/HOP,BREAK PERMITTED HERE/BPH,NO BREAK HERE/NBH,INDEX/IND," ++
  "NEXT LINE/NEL,START OF SELECTED AREA/SSA,END OF SELECTED AREA/ESA," ++
  "CHARACTER TABULATION SET/HORIZONTAL TABULATION SET/HTS," ++
  "CHARACTER TABULATION WITH JUSTIFICATION/HORIZONTAL TABULATION WITH JUSTIFICATION/HTJ," ++
  "LINE TABULATION SET/VERTICAL TABULATION SET/VTS,PARTIAL LINE FORWARD/PARTIAL LINE DOWN/PLD," ++
  "PARTIAL LINE BACKWARD/PARTIAL LINE UP/PLU,REVERSE LINE FEED/REVERSE INDEX/RI," ++
  "SINGLE SHIFT TWO/SINGLE-SHIFT-2/SS2,SINGLE SHIFT THREE/SINGLE-SHIFT-3/SS3,DEVICE CONTROL STRING/DCS," ++
  "PRIVATE USE ONE/PRIVATE USE-1/PU1,PRIVATE USE TWO/PRIVATE USE-2/PU2,SET TRANSMIT STATE/STS," ++
  "CANCEL CHARACTER/CCH,MESSAGE WAITING/MW,START OF GUARDED AREA/START OF PROTECTED AREA/SPA," ++
  "END OF GUARDED AREA/END OF PROTECTED AREA/EPA,START OF STRING/SOS,SINGLE GRAPHIC CHARACTER INTRODUCER/SGC," ++
  "SINGLE CHARACTER INTRODUCER/SCI,CONTROL SEQUENCE INTRODUCER/CSI,STRING TERMINATOR/ST," ++
  "OPERATING SYSTEM COMMAND/OSC,PRIVACY MESSAGE/PM,APPLICATION PROGRAM COMMAND/APC"

/-- Other names of characters that have one of their own. -/
def others : List (Nat × String) := [
  (0x20, "SP"), (0xa0, "NBSP"), (0xad, "SHY"), (0x1a2, "LATIN CAPITAL LETTER GHA"),
  (0x1a3, "LATIN SMALL LETTER GHA"), (0x34f, "CGJ"), (0x61c, "ALM"), (0x709, "SYRIAC SUBLINEAR COLON SKEWED LEFT"),
  (0xcde, "KANNADA LETTER LLLA"), (0xe9d, "LAO LETTER FO FON"), (0xe9f, "LAO LETTER FO FAY"),
  (0xea3, "LAO LETTER RO"), (0xea5, "LAO LETTER LO"), (0xfd0, "TIBETAN MARK BKA- SHOG GI MGO RGYAN"),
  (0x11ec, "HANGUL JONGSEONG YESIEUNG-KIYEOK"), (0x11ed, "HANGUL JONGSEONG YESIEUNG-SSANGKIYEOK"),
  (0x11ee, "HANGUL JONGSEONG SSANGYESIEUNG"), (0x11ef, "HANGUL JONGSEONG YESIEUNG-KHIEUKH"), (0x180b, "FVS1"),
  (0x180c, "FVS2"), (0x180d, "FVS3"), (0x180e, "MVS"), (0x180f, "FVS4"), (0x200b, "ZWSP"), (0x200c, "ZWNJ"),
  (0x200d, "ZWJ"), (0x200e, "LRM"), (0x200f, "RLM"), (0x202a, "LRE"), (0x202b, "RLE"), (0x202c, "PDF"),
  (0x202d, "LRO"), (0x202e, "RLO"), (0x202f, "NNBSP"), (0x205f, "MMSP"), (0x2060, "WJ"), (0x2066, "LRI"),
  (0x2067, "RLI"), (0x2068, "FSI"), (0x2069, "PDI"), (0x2118, "WEIERSTRASS ELLIPTIC FUNCTION"),
  (0x2448, "MICR ON US SYMBOL"), (0x2449, "MICR DASH SYMBOL"),
  (0x2b7a, "LEFTWARDS TRIANGLE-HEADED ARROW WITH DOUBLE VERTICAL STROKE"),
  (0x2b7c, "RIGHTWARDS TRIANGLE-HEADED ARROW WITH DOUBLE VERTICAL STROKE"), (0xa015, "YI SYLLABLE ITERATION MARK"),
  (0xaa6e, "MYANMAR LETTER KHAMTI LLA"), (0xfe18, "PRESENTATION FORM FOR VERTICAL RIGHT WHITE LENTICULAR BRACKET"),
  (0xfeff, "BYTE ORDER MARK"), (0xfeff, "BOM"), (0xfeff, "ZWNBSP"), (0x122d4, "CUNEIFORM SIGN NU11 TENU"),
  (0x122d5, "CUNEIFORM SIGN NU11 OVER NU11 BUR OVER BUR"), (0x16e56, "MEDEFAIDRIN CAPITAL LETTER H"),
  (0x16e57, "MEDEFAIDRIN CAPITAL LETTER NG"), (0x16e76, "MEDEFAIDRIN SMALL LETTER H"),
  (0x16e77, "MEDEFAIDRIN SMALL LETTER NG"), (0x1b001, "HENTAIGANA LETTER E-1"),
  (0x1d0c5, "BYZANTINE MUSICAL SYMBOL FTHORA SKLIRON CHROMA VASIS")]

/-- The first selectors of variations, and those that follow. -/
def selectorOf? (n : Nat) : Option Nat :=
  if 1 ≤ n ∧ n ≤ 16 then some (0xfe00 + n - 1) else if 17 ≤ n ∧ n ≤ 256 then some (0xe0100 + n - 17) else none

def findAmong? (first : Nat) (lists : String) (name : Text) : Option Nat :=
  (((Text.lit lists).splitOn ',').findIdx? fun l => (l.splitOn '/').contains name).map (first + ·)

def findOther? (name : Text) : Option Nat :=
  ((findAmong? 0 controls name).or (findAmong? 0x7f laterControls name)).or
    ((others.find? fun o => Text.lit o.2 == name).map (·.1))

def findSelector? (name : Text) : Option Nat :=
  match name with
  | 'V' :: 'S' :: d :: r =>
    if d != '0' && (d :: r).all Char.isDigit then selectorOf? (Text.value (d :: r)) else none
  | _ => none

/-! ## Names that are lent -/

/-- All other names, in the order of their characters. -/
def otherNames : List Text :=
  let among (lists : String) : List Text := ((Text.lit lists).splitOn ',').flatMap fun l => l.splitOn '/'
  let selectors (first count : Nat) : List Text := (List.range count).map fun i => 'V' :: 'S' :: Text.ofNat (first + i)
  let between (first last : Nat) : List Text :=
    (others.filter fun o => first ≤ o.1 && o.1 ≤ last).map fun o => Text.lit o.2
  among controls ++ between 0x20 0x7e ++ among laterControls ++ between 0xa0 0xfdff ++ selectors 1 16 ++
    between 0xfe10 0x1ffff ++ selectors 17 240

/-- The names that private characters of plane 15 bear: the other names, and those of sequences of characters. -/
def lent? (n : Nat) : Option Text :=
  if 0xf0200 ≤ n then ((names Sequences.run)[n - 0xf0200]?).join
  else if 0xf0000 ≤ n then otherNames[n - 0xf0000]?
  else none

/-! ## Both ways -/

/-- The name of a character, if it has one. -/
def ofChar? (c : Char) : Option Text :=
  let n := c.toNat
  if isIdeograph n then some (ideographPrefix ++ numberText n)
  else if isCompatible n then some (compatiblePrefix ++ numberText n)
  else if firstSyllable ≤ n ∧ n ≤ lastSyllable then some (syllablePrefix ++ syllableText n)
  else (written? n).or (lent? n)

/-- The character of a name that ends in its number. -/
def compatibleOf? (t : Text) : Option Nat := (numberOf? t).filter fun n => isCompatible n && numberText n == t

/-- The rest of a name behind a prefix. -/
def after? (p name : Text) : Option Text := if p.isPrefixOf name then some (name.drop p.length) else none

/-- The character that a name stands for. -/
def toChar? (name : Text) : Option Char :=
  match after? syllablePrefix name, after? ideographPrefix name with
  | some t, _ => (syllableOf? t).map Char.ofNat
  | none, some t => ((numberOf? t).filter isIdeograph).map Char.ofNat
  | none, none =>
    let name := name.map Char.toUpper
    let compatible := (after? compatiblePrefix name).bind compatibleOf?
    ((compatible.or (findWritten? name)).or ((findOther? name).or (findSelector? name))).map Char.ofNat

theorem ofChar?_ideograph {c : Char} (h : isIdeograph c.toNat = true) :
    ofChar? c = some (ideographPrefix ++ numberText c.toNat) := by
  simp [ofChar?, h]

end SocksTunnel.CharacterName
