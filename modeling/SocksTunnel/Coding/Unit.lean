import SocksTunnel.Coding.Policy

/-
  SocksTunnel.Coding.Unit — text as units of two or four octets, in either order. A code
  past 0xffff takes two units of two octets, which are surrogates. A mark in front tells
  the order where the name of the coding does not; without one the small octet is first.

  Proved: a unit is read back from its octets in either order (`unit16_octets16`).
-/

namespace SocksTunnel

inductive ByteOrder where
  | big
  | little
  deriving DecidableEq, Repr

namespace ByteOrder

/-- The octets of a unit, given with the high one first. -/
def arrange (o : ByteOrder) (b : Bytes) : Bytes :=
  match o with
  | big => b
  | little => b.reverse

def suffix : ByteOrder → String
  | big => "be"
  | little => "le"

/-! ## Two octets -/

def octets16 (o : ByteOrder) (u : Nat) : Bytes := o.arrange [UInt8.ofNat (u / 256), UInt8.ofNat u]

/-- The number of the two octets of a unit. -/
def unit16 (o : ByteOrder) (a b : UInt8) : Nat :=
  match o with
  | big => 256 * a.toNat + b.toNat
  | little => a.toNat + 256 * b.toNat

def write16 (o : ByteOrder) (c : Char) : Bytes :=
  let n := c.toNat
  if n < 0x10000 then o.octets16 n
  else o.octets16 (0xd800 + (n - 0x10000) / 1024) ++ o.octets16 (0xdc00 + (n - 0x10000) % 1024)

/-- What starts with the octet `a`. -/
def piece16 (o : ByteOrder) (a : UInt8) : Bytes → Piece
  | [] => .defect [] .truncated 0
  | b :: r =>
    let u := o.unit16 a b
    if Code.isLowSurrogate u then .defect [] .unpairedLow 1
    else if Code.isHighSurrogate u then
      match r with
      | c :: d :: _ =>
        let v := o.unit16 c d
        if Code.isLowSurrogate v then .codes [Code.ofSurrogates u v] 3 else .defect [] .unpairedHigh 1
      | _ => .defect [] .endOfData (1 + r.length)
    else .codes [u] 1

/-! ## Four octets -/

def octets32 (o : ByteOrder) (n : Nat) : Bytes :=
  o.arrange [0, UInt8.ofNat (n / 0x10000), UInt8.ofNat (n / 256), UInt8.ofNat n]

def write32 (o : ByteOrder) (c : Char) : Bytes := o.octets32 c.toNat

def piece32 (o : ByteOrder) (a : UInt8) : Bytes → Piece
  | b :: c :: d :: _ =>
    let n := (o.arrange [a, b, c, d]).foldl (fun n x => 256 * n + x.toNat) 0
    if Code.isSurrogate n then .defect [] .surrogateCode 3
    else if 0x110000 ≤ n then .defect [] .codeRange 3
    else .codes [n] 3
  | r => .defect [] .truncated r.length

/-! ## Writing -/

/-- Writes signs in units of so many octets from position `pos` on. Surrogates are defects one by one, and what stands
for one has to be whole units. -/
def writeFrom (codec : String) (policy : Text) (size : Nat) (octets : Char → Bytes) :
    Nat → List Sign → Except CodingError Bytes
  | _, [] => .ok []
  | pos, .char c :: r => (writeFrom codec policy size octets (pos + 1) r).map (octets c ++ ·)
  | pos, .surrogate s :: r =>
    let u : Unencodable := ⟨codec, [.surrogate s], pos, .loneSurrogate⟩
    match (Policy.standIn policy u).bind (Policy.writeStandIn (some ∘ octets) u) with
    | .error e => .error e
    | .ok b =>
      if b.length % size = 0 then (writeFrom codec policy size octets (pos + 1) r).map (b ++ ·)
      else .error (.unencodable u)

/-! ## Marks -/

/-- The character that marks the order. -/
def mark : Char := '\ufeff'

/-- The order that a mark of so many octets tells, if there is one. -/
def marked (octets : ByteOrder → Bytes) (b : Bytes) : Option ByteOrder :=
  [big, little].find? fun o => (octets o).isPrefixOf b

theorem unit16_octets16 (u : Nat) (h : u < 0x10000) : ∀ o : ByteOrder, ∃ a b, o.octets16 u = [a, b] ∧ o.unit16 a b = u := by
  intro o
  cases o with
  | big =>
    refine ⟨_, _, rfl, ?_⟩
    simp only [unit16, UInt8.toNat_ofNat']
    omega
  | little =>
    refine ⟨_, _, rfl, ?_⟩
    simp only [unit16, UInt8.toNat_ofNat']
    omega

end ByteOrder

end SocksTunnel
