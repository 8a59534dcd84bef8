import SocksTunnel.Coding.DomainName
import SocksTunnel.Coding.EastAsian
import SocksTunnel.Coding.Escape
import SocksTunnel.Coding.Page.Iso8859
import SocksTunnel.Coding.Page.Macintosh
import SocksTunnel.Coding.Page.Mainframe
import SocksTunnel.Coding.Page.Regional
import SocksTunnel.Coding.Page.Terminal
import SocksTunnel.Coding.Page.Windows
import SocksTunnel.Coding.Unit
import SocksTunnel.Coding.Utf7

/-
  SocksTunnel.Coding.Codec — the codings by their names, and reading and writing in them
  under a policy. In a name the case does not matter, and runs of signs between its
  letters and digits are all the same; a dot may stand for such a run in an alias.

  Some names belong to codings of other things than text, which are refused.

  Proved: writing text in UTF-8 needs no policy (`write_utf8`), and broken text is refused there at
  its first surrogates (`write_broken`).
-/

namespace SocksTunnel

inductive Codec where
  | utf8
  | utf8Marked
  | utf16 (order : Option ByteOrder)
  | utf32 (order : Option ByteOrder)
  | utf7
  | ascii
  | latin1
  | page (p : Page)
  | eastAsian (c : EastAsian)
  | escape
  | plainEscape
  | punycode
  | domainName
  | undefined
  deriving DecidableEq, Repr

namespace Codec

/-! ## Names -/

/-- Letters and digits in lower case, and dots; one underscore for whatever stands between them. -/
def normalFrom : Bool → Text → Text
  | _, [] => []
  | gap, c :: r =>
    if c.isAlphanum || c == '.' then (if gap then ['_', c.toLower] else [c.toLower]) ++ normalFrom false r
    else normalFrom true r

def normal (t : Text) : Text := normalFrom false (t.dropWhile fun c => !(c.isAlphanum || c == '.'))

/-- The codings of Unicode and their kin, with their names: the name of its own first, then its aliases. -/
def families : List (String × Codec) := [
  ("utf_8 u8 utf utf8 utf8_ucs2 utf8_ucs4 cp65001", utf8),
  ("utf_8_sig", utf8Marked),
  ("utf_16 u16 utf16", utf16 none),
  ("utf_16_be unicodebigunmarked utf_16be", utf16 (some .big)),
  ("utf_16_le unicodelittleunmarked utf_16le", utf16 (some .little)),
  ("utf_32 u32 utf32", utf32 none),
  ("utf_32_be utf_32be", utf32 (some .big)),
  ("utf_32_le utf_32le", utf32 (some .little)),
  ("utf_7 u7 utf7 unicode_1_1_utf_7", utf7),
  ("ascii 646 ansi_x3.4_1968 ansi_x3_4_1968 ansi_x3.4_1986 cp367 csascii ibm367 iso646_us iso_646.irv_1991 " ++
    "iso_ir_6 us us_ascii", ascii),
  ("latin_1 8859 cp819 csisolatin1 ibm819 iso8859 iso8859_1 iso_8859_1 iso_8859_1_1987 iso_ir_100 l1 latin latin1 " ++
    "charmap", latin1),
  ("unicode_escape", escape),
  ("raw_unicode_escape", plainEscape),
  ("punycode", punycode),
  ("idna", domainName),
  ("undefined", undefined)]

def pages : List (String × Codec) :=
  [Page.Iso8859.pages, Page.Windows.pages, Page.Terminal.pages, Page.Mainframe.pages, Page.Macintosh.pages,
    Page.Regional.pages].flatten.map fun e => (e.1, page e.2)

/-- The names of codings of other things than text. -/
def otherNames : List String := [
  "base64_codec base64 base_64", "bz2_codec bz2", "hex_codec hex", "quopri_codec quopri quoted_printable quotedprintable",
  "rot_13 rot13", "uu_codec uu", "zlib_codec zip zlib"]

/-- Whether a name is one of these, or one of those after the first with underscores for its dots. -/
def isNamed (name : Text) (names : String) : Bool :=
  let all := (Text.lit names).splitOn ' '
  all.contains name || (all.drop 1).contains (name.map fun c => if c = '.' then '_' else c)

def find (t : Text) (isReading : Bool) : Except CodingError Codec :=
  let name := normal t
  match (families ++ pages ++ EastAsian.names.map fun e => (e.1, eastAsian e.2)).find? fun e => isNamed name e.1 with
  | some e => .ok e.2
  | none =>
    if otherNames.any (isNamed name) then .error (.notText t isReading) else .error (.unknownCodec t)

/-! ## Reading -/

/-- Octets of a limited number of codes. -/
def ordinalPiece (limit : Nat) (b : UInt8) (_ : Bytes) : Piece :=
  if b.toNat < limit then .codes [b.toNat] 0 else .defect [] (.ordinal limit) 0

def byteMark : Bytes := [0xef, 0xbb, 0xbf]

/-- Reads units in an order that is known, or that a mark of so many octets tells. -/
def readUnits (name : String) (policy : Text) (order : Option ByteOrder) (mark : ByteOrder → Bytes)
    (piece : ByteOrder → UInt8 → Bytes → Piece) (b : Bytes) : Except CodingError (List Code) :=
  let (order, skip) := match order, ByteOrder.marked mark b with
    | some o, _ => (o, 0)
    | none, some o => (o, (mark o).length)
    | none, none => (.little, 0)
  Policy.readFrom (name ++ "-" ++ order.suffix) policy (piece order) 0 skip b

def readUtf8 (policy : Text) (b : Bytes) : Except CodingError (List Code) :=
  Policy.readFrom "utf-8" policy (fun a r => .ofScan (Text.scanUtf8 a r)) 0 0 b

/-- Why nothing can be read or written in the coding that is left undefined. -/
def undefinedReason : Text := .lit "undefined encoding"

def read (c : Codec) (policy : Text) (b : Bytes) : Except CodingError (List Code) :=
  match c with
  | utf8 => readUtf8 policy b
  | utf8Marked => readUtf8 policy (if byteMark.isPrefixOf b then b.drop byteMark.length else b)
  | utf16 o => readUnits "utf-16" policy o (fun o => o.octets16 ByteOrder.mark.toNat) ByteOrder.piece16 b
  | utf32 o => readUnits "utf-32" policy o (fun o => o.octets32 ByteOrder.mark.toNat) ByteOrder.piece32 b
  | utf7 => Policy.readFrom "utf7" policy Utf7.piece 0 0 b
  | ascii => Policy.readFrom "ascii" policy (ordinalPiece 128) 0 0 b
  | latin1 => .ok (b.map UInt8.toNat)
  | page p => p.read policy b
  | eastAsian c => c.read policy b
  | escape => Policy.readFrom "unicodeescape" policy Escape.piece 0 0 b
  | plainEscape => Policy.readFrom "rawunicodeescape" policy Escape.plainPiece 0 0 b
  | punycode => Punycode.read policy b
  | domainName => DomainName.read policy b
  | undefined => .error (.refused undefinedReason)

/-! ## Writing -/

def ordinalOctet (limit : Nat) (c : Char) : Option Bytes :=
  if c.toNat < limit then some [UInt8.ofNat c.toNat] else none

/-- Writes units of so many octets in an order, behind a mark if the order is not known. -/
def writeUnits (name : String) (policy : Text) (size : Nat) (octets : ByteOrder → Char → Bytes)
    (order : Option ByteOrder) (ss : List Sign) : Except CodingError Bytes :=
  match order with
  | some o => ByteOrder.writeFrom (name ++ "-" ++ o.suffix) policy size (octets o) 0 ss
  | none => (ByteOrder.writeFrom name policy size (octets .little) 0 ss).map (octets .little ByteOrder.mark ++ ·)

def write (c : Codec) (policy : Text) (ss : List Sign) : Except CodingError Bytes :=
  let codes := ss.map Sign.code
  match c with
  | utf8 => Policy.writeUtf8 policy ss
  | utf8Marked => (Policy.writeUtf8 policy ss).map (byteMark ++ ·)
  | utf16 o => writeUnits "utf-16" policy 2 ByteOrder.write16 o ss
  | utf32 o => writeUnits "utf-32" policy 4 ByteOrder.write32 o ss
  | utf7 => .ok (Utf7.write codes)
  | ascii => Policy.writeFrom "ascii" (.ordinal 128) policy (ordinalOctet 128) 0 0 ss
  | latin1 => Policy.writeFrom "latin-1" (.ordinal 256) policy (ordinalOctet 256) 0 0 ss
  | page p => p.write policy ss
  | eastAsian c => c.write policy ss
  | escape => .ok (Escape.write codes)
  | plainEscape => .ok (Escape.writePlain codes)
  | punycode => .ok (Punycode.write codes)
  | domainName => DomainName.write policy codes
  | undefined => .error (.refused undefinedReason)

theorem writeFrom_utf8 (policy : Text) (pos : Nat) (t : Text) :
    Policy.writeFrom "utf-8" .loneSurrogate policy (some ∘ Text.utf8Char) pos 0 t.signs = .ok (Text.utf8 t) := by
  induction t generalizing pos with
  | nil => rfl
  | cons c r ih =>
    have hr := ih (pos + 1)
    rw [Text.signs] at hr
    simp only [Text.signs, List.map_cons, Policy.writeFrom, Policy.ofChar, Sign.char?, Option.bind_some, Function.comp_apply, hr]
    rfl

theorem write_utf8 (policy : Text) (t : Text) : utf8.write policy t.signs = .ok (Text.utf8 t) := writeFrom_utf8 policy 0 t

theorem writeFrom_broken {ss : List Sign} (h : Text.ofSigns? ss = none) (pos : Nat) :
    let rest := ss.dropWhile fun s => !s.isSurrogate
    Policy.writeFrom "utf-8" .loneSurrogate (.lit "strict") (some ∘ Text.utf8Char) pos 0 ss =
      .error (.unencodable ⟨"utf-8", rest.takeWhile Sign.isSurrogate, pos + (ss.length - rest.length), .loneSurrogate⟩) := by
  induction ss generalizing pos with
  | nil => cases h
  | cons s r ih =>
    cases s with
    | char c =>
      have hr := ih (by simpa [Text.ofSigns?] using h) (pos + 1)
      have hlength : (r.dropWhile fun s => !s.isSurrogate).length ≤ r.length := (List.dropWhile_suffix _).length_le
      have hplace : pos + 1 + (r.length - (r.dropWhile fun s => !s.isSurrogate).length) =
          pos + (r.length + 1 - (r.dropWhile fun s => !s.isSurrogate).length) := by omega
      have hrest : ((Sign.char c :: r).dropWhile fun s => !s.isSurrogate) = r.dropWhile fun s => !s.isSurrogate := rfl
      simp only [Policy.writeFrom, Policy.ofChar, Sign.char?, Option.bind_some, Function.comp_apply, hr, hrest,
        List.length_cons, hplace]
      rfl
    | surrogate s =>
      have hnone : (fun x => (Policy.ofChar (some ∘ Text.utf8Char) x).isNone) = Sign.isSurrogate := by
        funext x
        cases x <;> rfl
      have hstrict : Policy.find (.lit "strict") = .ok .refuse := rfl
      simp only [Policy.writeFrom, Policy.ofChar, Sign.char?, Option.bind_none, Policy.standIn, hstrict]
      rw [← hnone]
      simp [Policy.ofChar, Sign.char?, Except.bind, Policy.standInFor]

/-- Broken text is refused in UTF-8 at its first surrogates. -/
theorem write_broken (b : BrokenText) : utf8.write (.lit "strict") b.signs = .error (.unencodable b.refusal) := by
  have h := writeFrom_broken b.isBroken 0
  simp only [Nat.zero_add] at h
  exact h

end Codec

/-! ## By name -/

/-- A name of a coding or of a policy has no zero character. -/
def checkNames (coding policy : Text) : Except CodingError Unit :=
  if coding.contains '\x00' || policy.contains '\x00' then .error .nullInName else .ok ()

/-- Names of codings that tell no more of an error than what it is. -/
def plainNames : List String := [
  "utf8", "utf_8", "utf16", "utf_16", "utf32", "utf_32", "ascii", "us_ascii", "latin1", "latin_1", "iso_8859_1",
  "iso8859_1"]

/-- An error of a coding, with the name of the coding unless it is a plain one. -/
def CodingError.told (coding : Text) (isReading : Bool) (e : CodingError) : CodingError :=
  if plainNames.any fun n => Text.lit n == Codec.normal coding then e else e.within coding isReading

/-- Reads octets in a coding and under a policy, both by name. Where there are no octets, no name matters. -/
def Text.decodeNamed (coding policy : Text) (b : Bytes) : Except CodingError (List Code) := do
  checkNames coding policy
  if b.isEmpty then .ok []
  else
    let c ← Codec.find coding true
    (c.read policy b).mapError (CodingError.told coding true)

/-- Writes signs in a coding and under a policy, both by name. -/
def Sign.encodeNamed (coding policy : Text) (ss : List Sign) : Except CodingError Bytes := do
  checkNames coding policy
  let c ← Codec.find coding false
  (c.write policy ss).mapError (CodingError.told coding false)

end SocksTunnel
