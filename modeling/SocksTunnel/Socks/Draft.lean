import SocksTunnel.Setting.Address
import SocksTunnel.Socks.Message

/-
  SocksTunnel.Socks.Draft — messages whose fields are settings of any type. A draft is
  written only if its fields fit the layout, and reading octets fills its fields. What a
  draft holds after a reading that fails is part of its meaning: most drafts are left as
  they were, but a SOCKS5 request keeps the header that it has read.

  Proved: a failed reading leaves each other draft as it was (`Socks4RequestDraft.read_error`
  and its neighbours), and a field that is left out is written as its default
  (`Value.orElse_getD`).
-/

namespace SocksTunnel

/-- A draft after a reading, and whether the reading succeeded. -/
abbrev Reading (α : Type) := α × Except Failure Unit

/-- The draft of a reading that fills it, or the draft before one that fails. -/
def Reading.fill (old : α) (new : Except Failure α) : Reading α :=
  match new with
  | .ok d => (d, .ok ())
  | .error f => (old, .error f)

theorem Reading.fill_error {old : α} {new : Except Failure α} {f : Failure} (h : (fill old new).2 = .error f) :
    (fill old new).1 = old := by
  cases new with
  | ok d => cases h
  | error e => rfl

/-! ## Fields -/

namespace Value

/-- An octet among other octets. -/
def octet (v : Value) : Except Fault UInt8 :=
  match v.whole? with
  | some n => if 0 ≤ n ∧ n < 256 then .ok (UInt8.ofNat n.toNat) else .error .octetRange
  | none => .error .wrongType

def octetsOf : List Value → Except Fault Bytes
  | [] => .ok []
  | v :: r => do
    let o ← v.octet
    let os ← octetsOf r
    .ok (o :: os)

/-- An octet of a fixed layout. -/
def layoutOctet (v : Value) : Except Fault UInt8 := v.octet.mapError fun _ => .layout

/-- Two octets of a fixed layout. -/
def layoutWord (v : Value) : Except Fault Bytes :=
  match v.whole? with
  | some n => if 0 ≤ n ∧ n < 65536 then .ok (Bytes.ofUInt16 (UInt16.ofNat n.toNat)) else .error .layout
  | none => .error .layout

/-- Exactly `n` octets of a fixed layout: data cut, or filled up with zeros. -/
def layoutBlock (n : Nat) : Value → Except Fault Bytes
  | bytes b => .ok (b.take n ++ List.replicate (n - b.length) 0)
  | _ => .error .layout

/-- A setting that has to be there. -/
def required : Value → Except Fault Unit
  | nothing => .error .unmet
  | _ => .ok ()

/-- The setting, or another one where it does not count as given. -/
def orElse (v w : Value) : Value := if v.isGiven then v else w

/-- The encoding of a destination. -/
def destinationOctets : Value → Except Fault Bytes
  | destination d => .ok d.encode
  | _ => .error .noSuchPart

def ofWord (high low : UInt8) : Value := int (Bytes.toUInt16 high low).toNat

theorem octet_ofOctet (o : UInt8) : (ofOctet o).octet = .ok o := by
  have h := o.toNat_lt
  simp only [ofOctet, octet, whole?]
  rw [if_pos (by omega)]
  simp

theorem octetsOf_map (os : Bytes) : octetsOf (os.map ofOctet) = .ok os := by
  induction os with
  | nil => rfl
  | cons o r ih => simp [octetsOf, octet_ofOctet, ih, bind, Except.bind]

theorem layoutOctet_ofOctet (o : UInt8) : (ofOctet o).layoutOctet = .ok o := by
  rw [layoutOctet, octet_ofOctet]
  rfl

theorem layoutWord_port (p : Port) : (int p.toNat).layoutWord = .ok (Bytes.ofUInt16 p) := by
  have h := p.toNat_lt
  simp only [layoutWord, whole?]
  rw [if_pos (by omega)]
  simp

theorem layoutBlock_bytes (b : Bytes) : (bytes b).layoutBlock b.length = .ok b := by
  simp [layoutBlock]

/-- A setting that is left out, or does not count as given, stands for the other one. -/
theorem orElse_getD (f : α → Value) (z : α) (hz : ∀ x, (f x).isGiven = false → f x = f z) (o : Option α) :
    ((o.map f).getD nothing).orElse (f z) = f (o.getD z) := by
  cases o with
  | none => rfl
  | some x =>
    show (f x).orElse (f z) = f x
    cases hx : (f x).isGiven with
    | true => rw [orElse, hx, if_pos rfl]
    | false => rw [orElse, hx, if_neg Bool.false_ne_true, hz x hx]

theorem orElse_port (p : Option Port) : ((p.map fun p => int p.toNat).getD nothing).orElse (int 0) = int (p.getD 0).toNat := by
  refine orElse_getD (fun p : Port => int p.toNat) 0 (fun p hp => ?_) p
  obtain rfl : p = 0 := UInt16.toNat_inj.mp (by simpa [isGiven] using hp)
  rfl

theorem orElse_bytes (b : Bytes) : (bytes b).orElse (bytes []) = bytes b := by
  cases b <;> rfl

end Value

/-! ## SOCKS4 request -/

structure Socks4RequestDraft where
  version : Value
  command : Value
  port : Value
  address : Value
  user : Value
  deriving Repr

namespace Socks4RequestDraft

def blank : Socks4RequestDraft := ⟨.nothing, .nothing, .nothing, .nothing, .nothing⟩

def write (d : Socks4RequestDraft) : Except Fault Bytes := do
  d.version.required
  d.command.required
  d.port.required
  d.address.required
  let user := d.user.orElse (.bytes [])
  let n ← user.size
  let v ← d.version.layoutOctet
  let c ← d.command.layoutOctet
  let p ← d.port.layoutWord
  let a ← d.address.layoutBlock 4
  let u ← user.layoutBlock n
  .ok ([v, c] ++ p ++ a ++ u ++ [0])

theorem write_fields (command : UInt8) (port : Port) (address : Ipv4) {user : Value} {b : Bytes}
    (hu : user.orElse (.bytes []) = .bytes b) :
    write ⟨.int 4, .ofOctet command, .int port.toNat, .bytes address.toBytes, user⟩ =
      .ok ([4, command] ++ Bytes.ofUInt16 port ++ address.toBytes ++ b ++ [0]) := by
  have hv : (Value.int 4).layoutOctet = .ok 4 := Value.layoutOctet_ofOctet 4
  have ha : (Value.bytes address.toBytes).layoutBlock 4 = .ok address.toBytes := Value.layoutBlock_bytes address.toBytes
  simp only [write, hu, hv, Value.layoutOctet_ofOctet, ha, Value.layoutWord_port, Value.size, Value.size?]
  simp only [Value.required, Value.ofOctet, bind, Except.bind, Value.layoutBlock_bytes]

/-- The fields of a request, whose last octet is zero and whose version is 4. -/
def fields : Bytes → Except RequestDefect Socks4RequestDraft
  | v :: c :: p :: q :: w :: x :: y :: z :: u :: r =>
    if v ≠ 4 then .error (.socks4Version v.toNat)
    else if (u :: r).getLast? ≠ some 0 then .error .socks4Terminator
    else .ok ⟨.ofOctet v, .ofOctet c, .ofWord p q, .bytes [w, x, y, z], .bytes (u :: r).dropLast⟩
  | _ => .error .socks4Length

def read (d : Socks4RequestDraft) (raw : Bytes) : Reading Socks4RequestDraft :=
  .fill d ((fields raw).mapError fun e => .fault (.request e))

theorem read_error {d : Socks4RequestDraft} {raw : Bytes} {f : Failure} (h : (d.read raw).2 = .error f) :
    (d.read raw).1 = d := Reading.fill_error h

end Socks4RequestDraft

/-! ## SOCKS4 reply -/

structure Socks4ReplyDraft where
  version : Value
  status : Value
  port : Value
  address : Value
  deriving Repr

namespace Socks4ReplyDraft

def blank : Socks4ReplyDraft := ⟨.nothing, .nothing, .nothing, .nothing⟩

def write (d : Socks4ReplyDraft) : Except Fault Bytes := do
  let version : Value := match d.version with
    | .nothing => .int 0
    | v => v
  let v ← version.layoutOctet
  let c ← (d.status.orElse (.int 0)).layoutOctet
  let p ← (d.port.orElse (.int 0)).layoutWord
  let a ← (d.address.orElse (.bytes [0, 0, 0, 0])).layoutBlock 4
  .ok ([v, c] ++ p ++ a)

def ofReply (r : Socks4Reply) : Socks4ReplyDraft :=
  ⟨.int 0, .ofOctet r.status, .int r.port.toNat, .bytes r.address.toBytes⟩

def read (d : Socks4ReplyDraft) (raw : Bytes) : Reading Socks4ReplyDraft :=
  .fill d (((Socks4Reply.decode raw).map ofReply).mapError fun e => .handshake (.malformed e))

theorem read_error {d : Socks4ReplyDraft} {raw : Bytes} {f : Failure} (h : (d.read raw).2 = .error f) :
    (d.read raw).1 = d := Reading.fill_error h

end Socks4ReplyDraft

/-! ## Method selection -/

structure GreetingDraft where
  version : Value
  methods : Value
  deriving Repr

namespace GreetingDraft

/-- A greeting of these methods; anything that does not count as given offers none. -/
def offering (methods : Value) : GreetingDraft := ⟨.int 5, methods.orElse (.list [])⟩

def write (d : GreetingDraft) : Except Fault Bytes := do
  let n ← d.methods.size
  if n = 0 ∨ 255 < n then .error .unmet
  else
    match d.methods with
    | .list items => Value.octetsOf (d.version :: .int n :: items)
    | _ => .error .wrongType

def fields : Bytes → Except RequestDefect GreetingDraft
  | v :: n :: r =>
    if v = 5 ∧ r.length = n.toNat then .ok ⟨.ofOctet v, .list (r.map .ofOctet)⟩ else .error .methodSelection
  | _ => .error .methodSelection

def read (d : GreetingDraft) (raw : Bytes) : Reading GreetingDraft :=
  .fill d ((fields raw).mapError fun e => .fault (.request e))

theorem read_error {d : GreetingDraft} {raw : Bytes} {f : Failure} (h : (d.read raw).2 = .error f) :
    (d.read raw).1 = d := Reading.fill_error h

end GreetingDraft

/-! ## Method reply -/

structure MethodReplyDraft where
  version : Value
  method : Value
  deriving Repr

namespace MethodReplyDraft

def choosing (method : Value) : MethodReplyDraft := ⟨.int 5, method⟩

def write (d : MethodReplyDraft) : Except Fault Bytes := do
  d.method.required
  Value.octetsOf [d.version, d.method]

def read (d : MethodReplyDraft) (raw : Bytes) : Reading MethodReplyDraft :=
  .fill d (((MethodReply.decode raw).map fun r => ⟨.int 5, .ofOctet r.method⟩).mapError fun e =>
    .handshake (.malformed e))

theorem read_error {d : MethodReplyDraft} {raw : Bytes} {f : Failure} (h : (d.read raw).2 = .error f) :
    (d.read raw).1 = d := Reading.fill_error h

end MethodReplyDraft

/-! ## SOCKS5 request -/

structure Socks5RequestDraft where
  version : Value
  command : Value
  reserved : Value
  destination : Value
  port : Value
  deriving Repr

namespace Socks5RequestDraft

def of (command destination port : Value) : Socks5RequestDraft := ⟨.int 5, command, .int 0, destination, port⟩

def write (d : Socks5RequestDraft) : Except Fault Bytes := do
  d.command.required
  d.destination.required
  d.port.required
  let head ← Value.octetsOf [d.version, d.command, d.reserved]
  let address ← d.destination.destinationOctets
  let port ← d.port.layoutWord
  .ok (head ++ address ++ port)

/-- The header is kept even if the address that follows it is refused. -/
def read (d : Socks5RequestDraft) (raw : Bytes) : Reading Socks5RequestDraft :=
  match raw with
  | v :: c :: r :: t :: rest =>
    if raw.length < 7 ∨ v ≠ 5 then (d, .error (.fault (.request .socks5Request)))
    else
      let d := { d with version := .ofOctet v, command := .ofOctet c, reserved := .ofOctet r }
      match Value.unpack (.ofOctet t) (.bytes (rest.take (rest.length - 2))), rest.drop (rest.length - 2) with
      | .ok a, [p, q] => ({ d with destination := .destination a, port := .ofWord p q }, .ok ())
      | .error f, _ => (d, .error (.fault f))
      | _, _ => (d, .error (.fault .layout))
  | _ => (d, .error (.fault (.request .socks5Request)))

end Socks5RequestDraft

/-! ## SOCKS5 reply -/

structure Socks5ReplyDraft where
  version : Value
  status : Value
  reserved : Value
  type : Value
  address : Value
  port : Value
  nameLength : Value
  deriving Repr

namespace Socks5ReplyDraft

def blank : Socks5ReplyDraft := ⟨.int 5, .nothing, .int 0, .nothing, .nothing, .nothing, .nothing⟩

def isType (d : Socks5ReplyDraft) (t : AddressType) : Bool := Value.sameWhole t.code.toNat d.type

/-- Fills the draft from the first four octets. The length of an earlier name is kept. -/
def readHeader (d : Socks5ReplyDraft) (raw : Bytes) : Reading Socks5ReplyDraft :=
  .fill d (((ReplyHeader.decode raw).map fun h =>
    { d with version := .int 5, status := .ofOctet h.status, reserved := .ofOctet h.reserved,
             type := .ofOctet h.type.code }).mapError fun e => .handshake (.malformed e))

/-- How many octets of the address come next: for a name first its length, then the name. -/
def addressLength (d : Socks5ReplyDraft) : Except Fault Value :=
  if d.isType .ipv4 then .ok (.int 4)
  else if d.isType .ipv6 then .ok (.int 16)
  else if d.isType .domain then
    match d.nameLength with
    | .nothing => .ok (.int 1)
    | n => .ok n
  else .error .unmet

def readAddressLength (d : Socks5ReplyDraft) (raw : Bytes) : Reading Socks5ReplyDraft :=
  match d.isType .domain, raw with
  | true, [n] => ({ d with nameLength := .ofOctet n }, .ok ())
  | _, _ => (d, .error (.fault .unmet))

/-- The payload of the address: a name gets its length in front, and is none if that is zero. -/
def payload (d : Socks5ReplyDraft) (raw : Bytes) : Except Fault (Option Bytes) := do
  d.type.required
  if d.isType .domain then
    d.nameLength.required
    if Value.sameWhole 0 d.nameLength then .ok none
    else
      let n ← d.nameLength.octet
      .ok (some (n :: raw))
  else .ok (some raw)

/-- The address of a payload; one with a bad value makes the reply malformed. -/
def readUnpacked (d : Socks5ReplyDraft) (payload : Value) : Reading Socks5ReplyDraft :=
  match Value.unpack d.type payload with
  | .ok a => ({ d with address := .destination a }, .ok ())
  | .error f => (d, .error (if f.isBadValue then .handshake (.malformed (.boundAddress f)) else .fault f))

def readAddress (d : Socks5ReplyDraft) (raw : Bytes) : Reading Socks5ReplyDraft :=
  match d.payload raw with
  | .error f => (d, .error (.fault f))
  | .ok none => ({ d with address := .nothing }, .ok ())
  | .ok (some p) => d.readUnpacked (.bytes p)

def readPort (d : Socks5ReplyDraft) (raw : Bytes) : Reading Socks5ReplyDraft :=
  .fill d (((boundPort raw).map fun p => { d with port := .int p.toNat }).mapError fun e =>
    .handshake (.malformed e))

def write (d : Socks5ReplyDraft) : Except Fault Bytes := do
  d.status.required
  let head ← Value.octetsOf [d.version, d.status, d.reserved]
  let address ← (d.address.orElse (.destination .unspecified)).destinationOctets
  let port ← (d.port.orElse (.int 0)).layoutWord
  .ok (head ++ address ++ port)

theorem readHeader_error {d : Socks5ReplyDraft} {raw : Bytes} {f : Failure} (h : (d.readHeader raw).2 = .error f) :
    (d.readHeader raw).1 = d := Reading.fill_error h

theorem readAddressLength_error {d : Socks5ReplyDraft} {raw : Bytes} {f : Failure}
    (h : (d.readAddressLength raw).2 = .error f) : (d.readAddressLength raw).1 = d := by
  unfold readAddressLength at h ⊢
  split at h
  · cases h
  · rfl

theorem readPort_error {d : Socks5ReplyDraft} {raw : Bytes} {f : Failure} (h : (d.readPort raw).2 = .error f) :
    (d.readPort raw).1 = d := Reading.fill_error h

theorem readAddress_error {d : Socks5ReplyDraft} {raw : Bytes} {f : Failure} (h : (d.readAddress raw).2 = .error f) :
    (d.readAddress raw).1 = d := by
  unfold readAddress at h ⊢
  split at h
  · rfl
  · cases h
  · unfold readUnpacked at h ⊢
    split at h
    · cases h
    · simp_all

end Socks5ReplyDraft

end SocksTunnel
