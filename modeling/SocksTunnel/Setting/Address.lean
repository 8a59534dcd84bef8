import SocksTunnel.Setting.Coding
import SocksTunnel.Setting.Sequence

/-
  SocksTunnel.Setting.Address — the address that a SOCKS4 tunnel leads to, and the
  destination of a SOCKS5 tunnel, from settings.

  Proved: an IPv4 address stands for itself in both (`socks4Address_ipv4`,
  `toDestination_ipv4`), and text leads to the destination of that text
  (`toDestination_text`).
-/

namespace SocksTunnel.Value

/-- SOCKS4 leads to IPv4 addresses alone. -/
def socks4Address : Value → Except Fault Ipv4
  | ipv4 a => .ok a
  | ipv6 a => .error (.ipv6Destination a)
  | int n => (Ipv4.ofInt n).mapError .address
  | broken b => (Ipv4.parseBroken b).mapError .address
  | v => do
    let v ← v.toText
    (Ipv4.parseShown v.shown v.plain).mapError .address

/-- A domain name, even one that looks like an address. -/
def toName (v : Value) : Except Fault Destination := do
  match ← v.toBytes with
  | bytes b => (Destination.ofName b).mapError .destination
  | _ => .error (.unsupportedDestination v)

/-- The destination of an address, of text or of data. Broken text is no name, but may be an IPv6 address with a
surrogate in its scope, which is then kept as a terminal shows it. -/
def toDestination : Value → Except Fault Destination
  | ipv4 a => .ok (.ipv4 a)
  | ipv6 a => .ok (.ipv6 a)
  | text t => (Destination.ofText t).mapError .destination
  | bytes b => (Destination.ofBytes b).mapError .destination
  | broken b =>
    match Destination.address? b.plain with
    | some d => .ok d
    | none => .error (.coding (.unencodable b.refusal))
  | v =>
    match v.digits? with
    | some t => (Destination.ofText t).mapError .destination
    | none => .error .noSuchPart

/-- The address of data, a number or text, as an address type takes it. -/
def rawIpv4 : Value → Except Fault Ipv4
  | bytes b =>
    match Ipv4.ofBytes? b with
    | some a => .ok a
    | none => .error (.address (.octets .ipv4 b))
  | broken b => (Ipv4.parseBroken b).mapError .address
  | v =>
    match v.whole? with
    | some n => (Ipv4.ofInt n).mapError .address
    | none => (Ipv4.parseShown v.shown v.plain).mapError .address

def rawIpv6 : Value → Except Fault Ipv6
  | bytes b =>
    match Ipv6.ofBytes? b with
    | some a => .ok a
    | none => .error (.address (.octets .ipv6 b))
  | v =>
    match v.whole? with
    | some n => (Ipv6.ofInt n).mapError .address
    | none => (Ipv6.parseShown v.shown v.plain).mapError .address

/-- The name after its length. -/
def rawName (v : Value) : Except Fault Destination :=
  match v with
  | bytes b => (Destination.decode .domain b).mapError .destination
  | v => do
    let n ← v.size
    if n < 1 then .error (.destination .lengthOctet)
    else
      match ← v.elements with
      | [] => .error (.destination .lengthOctet)
      | first :: _ =>
        if sameWhole (n - 1) first then (← v.slice 1 0).toName else .error (.destination .lengthOctet)

/-- The destination of an address type and its payload. -/
def unpack (type raw : Value) : Except Fault Destination :=
  if sameWhole 1 type then (rawIpv4 raw).map .ipv4
  else if sameWhole 4 type then (rawIpv6 raw).map .ipv6
  else if sameWhole 3 type then rawName raw
  else
    match type with
    | timeouts _ => .error .wrongType
    | tuple _ => .error .wrongType
    | _ => .error (.addressType type)

@[simp] theorem socks4Address_ipv4 (a : Ipv4) : (ipv4 a).socks4Address = .ok a := rfl

@[simp] theorem toDestination_ipv4 (a : Ipv4) : (ipv4 a).toDestination = .ok (.ipv4 a) := rfl

theorem toDestination_text (t : Text) : (text t).toDestination = (Destination.ofText t).mapError .destination := rfl

end SocksTunnel.Value
