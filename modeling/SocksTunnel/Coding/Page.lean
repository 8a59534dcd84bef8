import SocksTunnel.Coding.Policy

/-
  SocksTunnel.Coding.Page — codings of one octet a character, as tables of their
  characters. Most pages have the characters of ASCII in their lower half. An octet may
  have no character; a character that is there twice is written as the later octet.

  Proved: an octet of ASCII stands for itself in a page that is given by its upper half
  (`char?_upper`).
-/

namespace SocksTunnel

/-- The characters of the octets in their order. -/
structure Page where
  chars : Text
  deriving DecidableEq, Repr

namespace Page

/-- The character that marks an octet without one. -/
def noCharacter : Char := '\ufffe'

def ascii : Text := (List.range 128).map Char.ofNat

/-- A page of 256 characters. -/
def whole (s : String) : Page := ⟨.lit s⟩

/-- A page of ASCII and 128 further characters. -/
def upper (s : String) : Page := ⟨ascii ++ .lit s⟩

def char? (p : Page) (o : UInt8) : Option Char := (p.chars[o.toNat]?).filter (· != noCharacter)

/-- The last of the octets that stand for a character. -/
def octet? (p : Page) (c : Char) : Option UInt8 :=
  if c = noCharacter then none
  else (p.chars.reverse.findIdx? (· == c)).map fun i => UInt8.ofNat (p.chars.length - 1 - i)

def piece (p : Page) (b : UInt8) (_ : Bytes) : Piece :=
  match p.char? b with
  | some c => .codes [c.toNat] 0
  | none => .defect [] .unmapped 0

def read (p : Page) (policy : Text) (b : Bytes) : Except CodingError (List Code) :=
  Policy.readFrom Policy.pageName policy p.piece 0 0 b

def write (p : Page) (policy : Text) (ss : List Sign) : Except CodingError Bytes :=
  Policy.writeFrom Policy.pageName .unmapped policy (fun c => (p.octet? c).map fun o => [o]) 0 0 ss

theorem char?_upper (s : String) (n : Nat) (h : n < 128) : (upper s).char? (UInt8.ofNat n) = some (Char.ofNat n) := by
  have hn : (UInt8.ofNat n).toNat = n := by simp only [UInt8.toNat_ofNat']; omega
  have hc : (Char.ofNat n != noCharacter) = true := by
    have : ∀ m < 128, (Char.ofNat m != noCharacter) = true := by decide
    exact this n h
  have hg : (upper s).chars[n]? = some (Char.ofNat n) := by
    simp [upper, ascii, List.getElem?_append, h]
  simp [char?, hn, hg, hc]

end Page

end SocksTunnel
