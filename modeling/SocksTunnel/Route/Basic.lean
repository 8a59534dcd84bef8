import SocksTunnel.Setting.Address
import SocksTunnel.Setting.Timeouts
import SocksTunnel.Socks.Draft

/-
  SocksTunnel.Route — where a tunnel leads and how: by SOCKS4 to an address, with or
  without a user, or by SOCKS5 to a destination. Timeouts and user are kept as they are
  given; what is wrong with them shows when the route is used.

  Address or destination are checked before the port, the port before the user. A user
  is sent up to a closing zero octet, so it has none of its own.

  Proved: the request of a route is that of its address or destination, its port and its
  user (`request_socks4`, `request_socks4User`, `request_socks5`), and a user of octets
  without zero is taken as it is (`user_bytes`).
-/

namespace SocksTunnel

/-- The ways through a proxy. -/
inductive Protocol where
  | socks4
  | socks4User
  | socks5
  deriving DecidableEq, Repr

namespace Protocol

def all : List Protocol := [socks4, socks4User, socks5]

def name : Protocol → String
  | socks4 => "socks4"
  | socks4User => "socks4-ident"
  | socks5 => "socks5"

def ofName? (t : Text) : Option Protocol := all.find? fun p => Text.lit p.name == t

end Protocol

inductive Route where
  | socks4 (address : Ipv4) (port : Port) (timeouts : Value)
  | socks4User (address : Ipv4) (port : Port) (user : Value) (timeouts : Value)
  | socks5 (destination : Destination) (port : Port) (timeouts : Value)
  deriving Repr

namespace Route

def protocol : Route → Protocol
  | socks4 .. => .socks4
  | socks4User .. => .socks4User
  | socks5 .. => .socks5

def port : Route → Port
  | socks4 _ p _ => p
  | socks4User _ p _ _ => p
  | socks5 _ p _ => p

/-- The timeouts as they were given. -/
def given : Route → Value
  | socks4 _ _ t => t
  | socks4User _ _ _ t => t
  | socks5 _ _ t => t

/-! ## From settings -/

/-- Whether a zero octet is among the parts of a user. -/
def hasZero : Value → Except Fault Bool
  | .bytes b => .ok (b.contains 0)
  | .list items => .ok (items.any fun v => v.same (.bytes [0]))
  | .timeouts _ => .ok false
  | _ => .error .wrongType

def user (v : Value) : Except Fault Value := do
  let u ← v.toBytes
  if ← hasZero u then .error .nullInUser else .ok u

def destination : Value → Except Fault Destination
  | .destination d => .ok d
  | v => v.toDestination

/-- The route of a protocol from its settings: address or destination, port, user, timeouts. -/
def ofSettings (p : Protocol) (settings : List Value) : Except Fault Route :=
  match p, settings with
  | .socks4, [address, port, timeouts] => do
    let a ← address.socks4Address
    let p ← port.port
    .ok (socks4 a p timeouts)
  | .socks4User, [address, port, name, timeouts] => do
    let a ← address.socks4Address
    let p ← port.port
    let u ← user name
    .ok (socks4User a p u timeouts)
  | .socks5, [dest, port, timeouts] => do
    let d ← destination dest
    let p ← port.port
    .ok (socks5 d p timeouts)
  | _, _ => .error .wrongType

/-! ## Requests -/

def connect4 (a : Ipv4) (p : Port) (user : Value) : Except Fault Bytes :=
  Socks4RequestDraft.write
    ⟨.int 4, .ofOctet Socks4Command.connect.code, .int p.toNat, .bytes a.toBytes, user⟩

/-- The request that the route writes. -/
def request : Route → Except Fault Bytes
  | socks4 a p _ => connect4 a p .nothing
  | socks4User a p u _ => connect4 a p u
  | socks5 d p _ =>
    (Socks5RequestDraft.of (.ofOctet Socks5Command.connect.code) (.destination d) (.int p.toNat)).write

/-- The methods that the route offers first: none but no authentication, and nothing in SOCKS4. -/
def offer : Route → Option Bytes
  | socks5 .. => some (greeting [AuthMethod.noAuth.code])
  | _ => none

/-- Timeouts, once they are needed. -/
def timeouts (r : Route) : Except Fault Timeouts :=
  match r.given with
  | .timeouts t => .ok t
  | _ => .error .noSuchPart

theorem user_bytes {b : Bytes} (h : 0 ∉ b) : user (.bytes b) = .ok (.bytes b) := by
  simp [user, Value.toBytes_bytes, hasZero, h, bind, Except.bind]

theorem connect4_bytes (a : Ipv4) (p : Port) (b : Bytes) :
    connect4 a p (.bytes b) = .ok (Socks4Request.encode ⟨p, a, b⟩) :=
  Socks4RequestDraft.write_fields Socks4Command.connect.code p a (Value.orElse_bytes b)

theorem request_socks4 (a : Ipv4) (p : Port) (t : Value) :
    (socks4 a p t).request = .ok (Socks4Request.encode ⟨p, a, []⟩) := connect4_bytes a p []

theorem request_socks4User (a : Ipv4) (p : Port) (b : Bytes) (t : Value) :
    (socks4User a p (.bytes b) t).request = .ok (Socks4Request.encode ⟨p, a, b⟩) := connect4_bytes a p b

theorem request_socks5 (d : Destination) (p : Port) (t : Value) :
    (socks5 d p t).request = .ok (Socks5Request.encode ⟨d, p⟩) := by
  have h : Value.octetsOf [.int 5, .ofOctet 1, .int 0] = .ok [5, 1, 0] := Value.octetsOf_map [5, 1, 0]
  simp only [request, Socks5RequestDraft.of, Socks5RequestDraft.write, Socks5Command.code, h, Value.layoutWord_port]
  rfl

end Route

end SocksTunnel
