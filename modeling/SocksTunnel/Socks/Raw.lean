import SocksTunnel.Setting.Number
import SocksTunnel.Setting.Sequence
import SocksTunnel.Socks.Draft

/-
  SocksTunnel.Socks.Raw — drafts read from a setting that should be data. Data is read as
  its octets. Any other setting goes as far as its parts allow: its size and the parts
  that decide are looked at first, and a fixed layout is refused only when its turn comes.
  So a list may fill those drafts that have no fixed layout, with parts of any type.

  Proved: data is read as its octets (`readRaw_bytes` of each draft).
-/

namespace SocksTunnel

namespace Value

def first (items : List Value) : Value := items.headD .nothing

def last (items : List Value) : Value := items.getLastD .nothing

/-- A version that is another one than `n`, as the number that it is written as. -/
def otherVersion (n : Int) (v : Value) : Except Fault (Option Int) :=
  if sameWhole n v then .ok none else v.truncated.map some

end Value

/-- Why a method, which may be any setting, cannot be used. -/
def Value.methodReason (v : Value) : Except Fault Text :=
  match [255, 1, 2].find? fun n => sameWhole n v with
  | some n => .ok (SocksTunnel.methodReason n)
  | none => do
    if (← v.isWithin 3 0x7f) || (← v.isWithin 0x80 0xfe) then (v.index).map SocksTunnel.methodReason
    else .ok (SocksTunnel.methodReason 0)

/-- The failure of a reading with a defect. -/
def Reading.malformed (d : ReplyDefect) : Failure := .handshake (.malformed d)

/-! ## SOCKS4 -/

namespace Socks4RequestDraft

/-- Nothing but data has the layout of a request. -/
def refusal (raw : Value) : Except Fault Fault := do
  let n ← raw.size
  if n < 9 then .ok (.request .socks4Length)
  else
    let items ← raw.elements
    match ← Value.otherVersion 4 (Value.first items) with
    | some v => .ok (.request (.socks4Version v))
    | none => if Value.sameWhole 0 (Value.last items) then .ok .wrongType else .ok (.request .socks4Terminator)

def readRaw (d : Socks4RequestDraft) : Value → Reading Socks4RequestDraft
  | .bytes raw => d.read raw
  | v =>
    match refusal v with
    | .ok f => (d, .error (.fault f))
    | .error f => (d, .error (.fault f))

@[simp] theorem readRaw_bytes (d : Socks4RequestDraft) (raw : Bytes) : d.readRaw (.bytes raw) = d.read raw := rfl

end Socks4RequestDraft

namespace Socks4ReplyDraft

def readRaw (d : Socks4ReplyDraft) : Value → Reading Socks4ReplyDraft
  | .bytes raw => d.read raw
  | v =>
    match v.size with
    | .ok n =>
      if n = Socks4Reply.length then (d, .error (.fault .wrongType))
      else (d, .error (Reading.malformed (.socks4Length n)))
    | .error f => (d, .error (.fault f))

@[simp] theorem readRaw_bytes (d : Socks4ReplyDraft) (raw : Bytes) : d.readRaw (.bytes raw) = d.read raw := rfl

end Socks4ReplyDraft

/-! ## Methods -/

namespace GreetingDraft

/-- Version, the number of methods, and the methods. -/
def ofParts (raw : Value) : Except Fault GreetingDraft := do
  let n ← raw.size
  if n < 2 then .error (.request .methodSelection)
  else
    match ← raw.elements with
    | version :: count :: methods =>
      if !Value.sameWhole 5 version then .error (.request .methodSelection)
      else if Value.sameWhole n (← count.plus 2) then .ok ⟨version, .list methods⟩
      else .error (.request .methodSelection)
    | _ => .error (.request .methodSelection)

def readRaw (d : GreetingDraft) : Value → Reading GreetingDraft
  | .bytes raw => d.read raw
  | v => .fill d ((ofParts v).mapError .fault)

@[simp] theorem readRaw_bytes (d : GreetingDraft) (raw : Bytes) : d.readRaw (.bytes raw) = d.read raw := rfl

end GreetingDraft

namespace MethodReplyDraft

def ofParts (raw : Value) : Except Failure MethodReplyDraft := do
  let n ← raw.size
  if n ≠ MethodReply.length then .error (Reading.malformed (.methodLength n))
  else
    let items ← raw.elements
    match ← Value.otherVersion 5 (Value.first items) with
    | some v => .error (Reading.malformed (.methodVersion v))
    | none => .ok ⟨Value.first items, Value.last items⟩

def readRaw (d : MethodReplyDraft) : Value → Reading MethodReplyDraft
  | .bytes raw => d.read raw
  | v => .fill d (ofParts v)

@[simp] theorem readRaw_bytes (d : MethodReplyDraft) (raw : Bytes) : d.readRaw (.bytes raw) = d.read raw := rfl

end MethodReplyDraft

/-! ## SOCKS5 request -/

namespace Socks5RequestDraft

/-- The parts of a request with version 5. -/
def parts (raw : Value) : Except Fault (List Value) := do
  let n ← raw.size
  if n < 7 then .error (.request .socks5Request)
  else
    let items ← raw.elements
    if Value.sameWhole 5 (Value.first items) then .ok items else .error (.request .socks5Request)

/-- The address from the parts between header and port. A port is never found: it has a fixed layout. -/
def addressFault (type raw : Value) : Fault :=
  match (do let r ← raw.slice 4 2; Value.unpack type r : Except Fault Destination) with
  | .ok _ => .wrongType
  | .error f => f

def readRaw (d : Socks5RequestDraft) : Value → Reading Socks5RequestDraft
  | .bytes raw => d.read raw
  | v =>
    match parts v with
    | .ok (version :: command :: reserved :: type :: _) =>
      ({ d with version := version, command := command, reserved := reserved }, .error (.fault (addressFault type v)))
    | .ok _ => (d, .error (.fault (.request .socks5Request)))
    | .error f => (d, .error (.fault f))

@[simp] theorem readRaw_bytes (d : Socks5RequestDraft) (raw : Bytes) : d.readRaw (.bytes raw) = d.read raw := rfl

end Socks5RequestDraft

/-! ## SOCKS5 reply -/

namespace Socks5ReplyDraft

def withHeader (d : Socks5ReplyDraft) (raw : Value) : Except Failure Socks5ReplyDraft := do
  let n ← raw.size
  if n ≠ ReplyHeader.length then .error (Reading.malformed (.headerLength n))
  else
    match ← raw.elements with
    | [version, status, reserved, type] =>
      match ← Value.otherVersion 5 version with
      | some v => .error (Reading.malformed (.version v))
      | none =>
        if [AddressType.ipv4, .domain, .ipv6].any fun t => Value.sameWhole t.code.toNat type then
          .ok { d with version := version, status := status, reserved := reserved, type := type }
        else .error (Reading.malformed (.addressType (← type.index)))
    | _ => .error (Reading.malformed (.headerLength n))

def readHeaderRaw (d : Socks5ReplyDraft) : Value → Reading Socks5ReplyDraft
  | .bytes raw => d.readHeader raw
  | v => .fill d (d.withHeader v)

/-- The draft with the length of a name, which is a single part. -/
def withNameLength (d : Socks5ReplyDraft) (raw : Value) : Except Fault Socks5ReplyDraft := do
  if !d.isType .domain then .error .unmet
  else if (← raw.size) ≠ 1 then .error .unmet
  else .ok { d with nameLength := Value.first (← raw.elements) }

def readAddressLengthRaw (d : Socks5ReplyDraft) : Value → Reading Socks5ReplyDraft
  | .bytes raw => d.readAddressLength raw
  | v => .fill d ((d.withNameLength v).mapError .fault)

def readAddressRaw (d : Socks5ReplyDraft) : Value → Reading Socks5ReplyDraft
  | .bytes raw => d.readAddress raw
  | v =>
    match d.payload [] with
    | .error f => (d, .error (.fault f))
    | .ok none => ({ d with address := .nothing }, .ok ())
    | .ok (some _) =>
      if d.isType .domain then (d, .error (.fault .wrongType)) else d.readUnpacked v

def readPortRaw (d : Socks5ReplyDraft) : Value → Reading Socks5ReplyDraft
  | .bytes raw => d.readPort raw
  | v =>
    match v.size with
    | .ok n => (d, .error (if n = 2 then .fault .wrongType else Reading.malformed .portLength))
    | .error f => (d, .error (.fault f))

@[simp] theorem readHeaderRaw_bytes (d : Socks5ReplyDraft) (raw : Bytes) :
    d.readHeaderRaw (.bytes raw) = d.readHeader raw := rfl

@[simp] theorem readAddressRaw_bytes (d : Socks5ReplyDraft) (raw : Bytes) :
    d.readAddressRaw (.bytes raw) = d.readAddress raw := rfl

@[simp] theorem readPortRaw_bytes (d : Socks5ReplyDraft) (raw : Bytes) :
    d.readPortRaw (.bytes raw) = d.readPort raw := rfl

end Socks5ReplyDraft

end SocksTunnel
