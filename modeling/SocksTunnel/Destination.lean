import SocksTunnel.Address.Ipv6
import SocksTunnel.Coding.Utf8

/-
  SocksTunnel.Destination — where a SOCKS5 tunnel leads: an IPv4 address, an IPv6 address
  or a domain name of 1 to 255 octets. Names are never resolved; the proxy gets them as
  they are.

  An encoding is the code of the address type and the address; a name has its length in
  front. Text is an address if it is one without the square brackets at its ends, and
  otherwise the name of its UTF-8 octets.

  Proved: decoding reverses encoding but for the scope, which is not sent
  (`decode_encode`), and an encoding has the stated length, 3 to 257 (`length_encode`,
  `length_bounds`). An address type is found by its own code alone
  (`AddressType.ofCode?_eq_some`).
-/

namespace SocksTunnel

inductive Destination where
  | ipv4 (a : Ipv4)
  | ipv6 (a : Ipv6)
  | domain (name : Bytes) (bounds : 1 ≤ name.length ∧ name.length ≤ 255)
  deriving DecidableEq, Repr

/-- Why something is not a destination. -/
inductive DestinationError where
  | address (e : AddressError)
  | nameLength (n : Nat)
  | lengthOctet
  | unknownType (code : Int)
  deriving DecidableEq, Repr

def maxNameLength : Nat := 255

def DestinationError.message : DestinationError → Text
  | address e => e.message
  | nameLength n => .lit s!"domain name must be 1-{maxNameLength} bytes long, got {n}"
  | lengthOctet => .lit "domain name length prefix mismatch"
  | unknownType code => .lit "unknown address type " ++ .ofInt code

/-- The address types of SOCKS5. -/
inductive AddressType where
  | ipv4
  | domain
  | ipv6
  deriving DecidableEq, Repr

namespace AddressType

def code : AddressType → UInt8
  | ipv4 => 1
  | domain => 3
  | ipv6 => 4

def ofCode? (n : Int) : Option AddressType :=
  if n = 1 then some ipv4 else if n = 3 then some domain else if n = 4 then some ipv6 else none

@[simp] theorem ofCode?_code (t : AddressType) : ofCode? t.code.toNat = some t := by cases t <;> rfl

theorem ofCode?_eq_some {c : UInt8} {t : AddressType} (h : ofCode? c.toNat = some t) : c = t.code := by
  have hc : ∀ k : UInt8, (c.toNat : Int) = k.toNat → c = k := by
    intro k hk
    exact UInt8.toNat_inj.mp (Int.ofNat_inj.mp hk)
  unfold ofCode? at h
  split at h
  · cases h
    exact hc 1 ‹_›
  split at h
  · cases h
    exact hc 3 ‹_›
  split at h
  · cases h
    exact hc 4 ‹_›
  · cases h

end AddressType

namespace Destination

def type : Destination → AddressType
  | ipv4 _ => .ipv4
  | ipv6 _ => .ipv6
  | domain _ _ => .domain

/-! ## Reading text -/

/-- A domain name, whatever it looks like. -/
def ofName (name : Bytes) : Except DestinationError Destination :=
  if h : 1 ≤ name.length ∧ name.length ≤ 255 then .ok (domain name h) else .error (.nameLength name.length)

def isBracket (c : Char) : Bool := c == '[' || c == ']'

/-- The address of a text, brackets at its ends left out. -/
def address? (t : Text) : Option Destination :=
  let bare := t.strip isBracket
  match Ipv4.parse? bare with
  | some a => some (ipv4 a)
  | none => (Ipv6.parse? bare).map ipv6

def ofText (t : Text) : Except DestinationError Destination :=
  match address? t with
  | some d => .ok d
  | none => ofName (Text.utf8 t)

/-- Data is read as UTF-8 text; data that is not is a name. -/
def ofBytes (b : Bytes) : Except DestinationError Destination :=
  match (Text.ofUtf8 b).toOption.bind address? with
  | some d => .ok d
  | none => ofName b

/-! ## Encoding -/

/-- The address, with its length in front of a name. -/
def payload : Destination → Bytes
  | ipv4 a => a.toBytes
  | ipv6 a => a.toBytes
  | domain name _ => UInt8.ofNat name.length :: name

def encode (d : Destination) : Bytes := d.type.code :: d.payload

/-- The length of the encoding. -/
def length : Destination → Nat
  | ipv4 _ => 5
  | ipv6 _ => 17
  | domain name _ => 2 + name.length

/-- The destination of a payload of this type. -/
def decode : AddressType → Bytes → Except DestinationError Destination
  | .ipv4, raw =>
    match Ipv4.ofBytes? raw with
    | some a => .ok (ipv4 a)
    | none => .error (.address (.octets .ipv4 raw))
  | .ipv6, raw =>
    match Ipv6.ofBytes? raw with
    | some a => .ok (ipv6 a)
    | none => .error (.address (.octets .ipv6 raw))
  | .domain, [] => .error .lengthOctet
  | .domain, n :: name => if n.toNat = name.length then ofName name else .error .lengthOctet

def decodeCode (code : Int) (raw : Bytes) : Except DestinationError Destination :=
  match AddressType.ofCode? code with
  | some t => decode t raw
  | none => .error (.unknownType code)

/-! ## Writing text -/

/-- The text of a destination: an IPv6 address between brackets, a name with replacement characters
where it is not UTF-8. -/
def text : Destination → Text
  | ipv4 a => a.text
  | ipv6 a => '[' :: a.text ++ [']']
  | domain name _ => Text.decodeLossy name

/-- How messages name a destination. -/
def shown (d : Destination) : Text := .lit "Socks5Destination(" ++ d.text.quoted ++ [')']

/-- The destination that stands for no bound address. -/
def unspecified : Destination := ipv4 .zero

/-! ## Lemmas -/

/-- The destination as the proxy knows it, without a scope. -/
def unscoped : Destination → Destination
  | ipv6 a => ipv6 a.unscoped
  | d => d

theorem length_encode (d : Destination) : d.encode.length = d.length := by
  cases d with
  | ipv4 a => rfl
  | ipv6 a => simp [encode, payload, length, Ipv6.length_toBytes]
  | domain name h => simp only [encode, payload, length, List.length_cons]; omega

theorem length_bounds (d : Destination) : 3 ≤ d.length ∧ d.length ≤ 257 := by
  cases d with
  | ipv4 a => simp [length]
  | ipv6 a => simp [length]
  | domain name h => simp only [length]; omega

theorem decode_payload (d : Destination) : decode d.type d.payload = .ok d.unscoped := by
  cases d with
  | ipv4 a => rfl
  | ipv6 a =>
    have h : Ipv6.ofBytes? a.toBytes = some a.unscoped := Ipv6.ofBytes?_toBytes a.unscoped rfl
    simp [type, payload, decode, h, unscoped]
  | domain name h =>
    have hn : (UInt8.ofNat name.length).toNat = name.length := by
      simp only [UInt8.toNat_ofNat']; omega
    simp only [type, payload, decode, hn, ite_true, ofName, unscoped]
    simp [h]

theorem decode_encode (d : Destination) : ∃ c r, d.encode = c :: r ∧ decodeCode c.toNat r = .ok d.unscoped := by
  refine ⟨_, _, rfl, ?_⟩
  simp [decodeCode, decode_payload]

end Destination

end SocksTunnel
