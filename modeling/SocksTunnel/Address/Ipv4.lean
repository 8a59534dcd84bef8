import SocksTunnel.Address.Error
import SocksTunnel.Text.Digit
import SocksTunnel.Text.Sign

/-
  SocksTunnel.Address.Ipv4 — IPv4 addresses as four octets, as numbers, and their text as
  a dotted quad.

  Proved: an address is read back from its octets (`ofBytes?_toBytes`), and only four
  octets are an address (`ofBytes?_eq_some_iff`).
-/

namespace SocksTunnel

structure Ipv4 where
  first : UInt8
  second : UInt8
  third : UInt8
  fourth : UInt8
  deriving DecidableEq, Repr

namespace Ipv4

def toBytes (a : Ipv4) : Bytes := [a.first, a.second, a.third, a.fourth]

def ofBytes? : Bytes → Option Ipv4
  | [p, q, r, s] => some ⟨p, q, r, s⟩
  | _ => none

def zero : Ipv4 := ⟨0, 0, 0, 0⟩

/-- The address of a number below `2 ^ 32`, the first octet the highest. -/
def ofNat (n : Nat) : Ipv4 :=
  ⟨UInt8.ofNat (n / 0x1000000), UInt8.ofNat (n / 0x10000), UInt8.ofNat (n / 0x100), UInt8.ofNat n⟩

/-- The number of an address. -/
def toNat (a : Ipv4) : Nat := a.toBytes.foldl (fun n o => 256 * n + o.toNat) 0

def ofInt (n : Int) : Except AddressError Ipv4 :=
  if n < 0 then .error (.negative .ipv4 n)
  else if 0x100000000 ≤ n then .error (.tooLarge .ipv4 n)
  else .ok (ofNat n.toNat)

/-- The dotted quad. -/
def text (a : Ipv4) : Text :=
  ['.'].intercalate (a.toBytes.map fun o => Text.ofNat o.toNat)

/-- One to three digits without a leading zero, at most 255; `whole` is how messages show the whole text. -/
def octet (whole t : Text) : Except AddressError UInt8 :=
  if t = [] then .error (.emptyOctet whole)
  else if !t.all Text.isAsciiDigit then .error (.octetDigits t.quoted whole)
  else if 3 < t.length then .error (.octetLength t.quoted whole)
  else if t ≠ ['0'] ∧ t.head? = some '0' then .error (.leadingZero t.quoted whole)
  else if 255 < Text.value t then .error (.octetRange (Text.value t) whole)
  else .ok (UInt8.ofNat (Text.value t))

/-- Reads a dotted quad; `shown` is how a message shows what was given. -/
def parseShown (shown t : Text) : Except AddressError Ipv4 :=
  if '/' ∈ t then .error (.slash shown)
  else if t = [] then .error .empty
  else
    match t.splitOn '.' with
    | [p, q, r, s] => do
      let p ← octet t.quoted p
      let q ← octet t.quoted q
      let r ← octet t.quoted r
      let s ← octet t.quoted s
      .ok ⟨p, q, r, s⟩
    | _ => .error (.octetCount t.quoted)

def parse (t : Text) : Except AddressError Ipv4 := parseShown t.quoted t

def parse? (t : Text) : Option Ipv4 := (parse t).toOption

/-- An octet in signs: a surrogate is no digit. -/
def signOctet (whole : Text) (ss : List Sign) : Except AddressError UInt8 :=
  match Text.ofSigns? ss with
  | some t => octet whole t
  | none => .error (.octetDigits (Sign.quoted ss) whole)

/-- Reads broken text, which always fails at one of its parts or before. -/
def parseBroken (b : BrokenText) : Except AddressError Ipv4 :=
  if .char '/' ∈ b.signs then .error (.slash b.quoted)
  else
    match b.signs.splitOn (.char '.') with
    | [p, q, r, s] => do
      let p ← signOctet b.quoted p
      let q ← signOctet b.quoted q
      let r ← signOctet b.quoted r
      let s ← signOctet b.quoted s
      .ok ⟨p, q, r, s⟩
    | _ => .error (.octetCount b.quoted)

@[simp] theorem ofBytes?_toBytes (a : Ipv4) : ofBytes? a.toBytes = some a := rfl

@[simp] theorem length_toBytes (a : Ipv4) : a.toBytes.length = 4 := rfl

theorem ofBytes?_eq_some_iff {b : Bytes} {a : Ipv4} : ofBytes? b = some a ↔ b = a.toBytes := by
  constructor
  · intro h
    unfold ofBytes? at h
    split at h
    · cases h; rfl
    · cases h
  · rintro rfl; rfl

end Ipv4

end SocksTunnel
