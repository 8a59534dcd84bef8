import SocksTunnel.Failure.Handshake
import SocksTunnel.Setting.Port
import SocksTunnel.Socks.Code

/-
  SocksTunnel.Socks.Message — the messages of SOCKS4 and SOCKS5 as octets: the requests
  that a client writes and the replies that it reads. A SOCKS5 reply is read in parts,
  since only its header tells how its address is laid out.

  Proved: a SOCKS4 reply and a method reply are read back from their octets
  (`Socks4Reply.decode_encode`, `MethodReply.decode_encode`), and a header that is read
  stands there octet by octet (`ReplyHeader.decode_eq_ok`).
-/

namespace SocksTunnel

/-! ## SOCKS4 -/

/-- A request to connect to a port of an address, for a user. -/
structure Socks4Request where
  port : Port
  address : Ipv4
  user : Bytes
  deriving DecidableEq, Repr

/-- Version, command, port, address, and the user closed by a zero octet. -/
def Socks4Request.encode (r : Socks4Request) : Bytes :=
  [4, Socks4Command.connect.code] ++ Bytes.ofUInt16 r.port ++ r.address.toBytes ++ r.user ++ [0]

structure Socks4Reply where
  status : UInt8
  port : Port
  address : Ipv4
  deriving DecidableEq, Repr

namespace Socks4Reply

def length : Nat := 8

def encode (r : Socks4Reply) : Bytes := [0, r.status] ++ Bytes.ofUInt16 r.port ++ r.address.toBytes

def decode (raw : Bytes) : Except ReplyDefect Socks4Reply :=
  match raw with
  | [v, status, p, q, a, b, c, d] =>
    if v = 0 then .ok ⟨status, Bytes.toUInt16 p q, ⟨a, b, c, d⟩⟩ else .error (.socks4Version v.toNat)
  | raw => .error (.socks4Length raw.length)

theorem decode_encode (r : Socks4Reply) : decode r.encode = .ok r := by
  show Except.ok (Socks4Reply.mk r.status (Bytes.toUInt16 _ _) r.address) = _
  rw [Bytes.toUInt16_ofNat]

end Socks4Reply

/-! ## SOCKS5 -/

/-- The methods that a client offers. -/
def greeting (methods : List UInt8) : Bytes := 5 :: UInt8.ofNat methods.length :: methods

/-- A method that the proxy has chosen. -/
structure MethodReply where
  method : UInt8
  deriving DecidableEq, Repr

namespace MethodReply

def length : Nat := 2

def encode (r : MethodReply) : Bytes := [5, r.method]

def decode (raw : Bytes) : Except ReplyDefect MethodReply :=
  match raw with
  | [v, m] => if v = 5 then .ok ⟨m⟩ else .error (.methodVersion v.toNat)
  | raw => .error (.methodLength raw.length)

theorem decode_encode (r : MethodReply) : decode r.encode = .ok r := rfl

end MethodReply

/-- A request to connect to a port of a destination. -/
structure Socks5Request where
  destination : Destination
  port : Port
  deriving DecidableEq, Repr

/-- Version, command, a reserved octet, destination and port. -/
def Socks5Request.encode (r : Socks5Request) : Bytes :=
  [5, Socks5Command.connect.code, 0] ++ r.destination.encode ++ Bytes.ofUInt16 r.port

/-- What the first four octets of a SOCKS5 reply say. -/
structure ReplyHeader where
  status : UInt8
  reserved : UInt8
  type : AddressType
  deriving DecidableEq, Repr

namespace ReplyHeader

def length : Nat := 4

def decode (raw : Bytes) : Except ReplyDefect ReplyHeader :=
  match raw with
  | [v, status, reserved, t] =>
    if v = 5 then
      match AddressType.ofCode? t.toNat with
      | some t => .ok ⟨status, reserved, t⟩
      | none => .error (.addressType t.toNat)
    else .error (.version v.toNat)
  | raw => .error (.headerLength raw.length)

theorem decode_eq_ok {raw : Bytes} {h : ReplyHeader} (hd : decode raw = .ok h) :
    raw = [5, h.status, h.reserved, h.type.code] := by
  unfold decode at hd
  split at hd
  · rename_i v status reserved c
    split at hd
    · rename_i hv
      split at hd
      · rename_i t ht
        cases hd
        rw [hv, AddressType.ofCode?_eq_some ht]
      · cases hd
    · cases hd
  · cases hd

end ReplyHeader

/-- The bound address of a reply, from its payload; an empty name is none. -/
def boundAddress (t : AddressType) (payload : Bytes) : Except ReplyDefect (Option Destination) :=
  if t = .domain ∧ payload = [0] then .ok none
  else
    match Destination.decode t payload with
    | .ok d => .ok (some d)
    | .error e => .error (.boundAddress (.destination e))

/-- The port of a reply. -/
def boundPort (raw : Bytes) : Except ReplyDefect Port :=
  match raw with
  | [p, q] => .ok (Bytes.toUInt16 p q)
  | _ => .error .portLength

end SocksTunnel
