import SocksTunnel.Log.Entry
import SocksTunnel.Socks.Message

/-
  SocksTunnel.Handshake.Exchange — what a client does, step by step: it sends a message,
  or reads so many octets and decides by them how to go on, until the tunnel is there or
  the handshake has failed. A result may leave an entry in the log.

  SOCKS4 is one request and a reply of eight octets. SOCKS5 first settles the method:
  the request is sent only to a proxy that asks for no authentication.

  Proved: a SOCKS5 exchange goes on to the request only after the reply that chooses no
  authentication (`afterMethod_request`).
-/

namespace SocksTunnel

inductive Exchange where
  | done (e : Entry)
  | fail (e : Option Entry) (error : HandshakeError)
  | send (payload : Bytes) (next : Exchange)
  | receive (n : Nat) (next : Bytes → Exchange)

namespace Exchange

def malformed (d : ReplyDefect) : Exchange := fail none (.malformed d)

/-! ## SOCKS4 -/

/-- What a SOCKS4 status means. -/
def ofStatus4 (a : Ipv4) (p : Port) (status : UInt8) : Exchange :=
  match Socks4Status.ofCode? status with
  | none => malformed (.socks4Status status)
  | some s =>
    match s.reason? with
    | none => done (.established4 a p)
    | some reason => fail (some (.rejected4 status)) (.rejected 4 status reason)

def afterReply4 (a : Ipv4) (p : Port) (raw : Bytes) : Exchange :=
  match Socks4Reply.decode raw with
  | .error d => malformed d
  | .ok r => ofStatus4 a p r.status

def socks4 (request : Bytes) (a : Ipv4) (p : Port) : Exchange :=
  send request (receive Socks4Reply.length (afterReply4 a p))

/-! ## SOCKS5 -/

/-- What a SOCKS5 status means. -/
def ofStatus5 (r : Socks5Request) (status : UInt8) (bound : Option Destination) (q : Port) : Exchange :=
  match Socks5Status.ofCode? status with
  | none => malformed (.status status)
  | some s =>
    match s.reason? with
    | none => done (.established5 r.destination r.port bound q)
    | some reason => fail (some (.rejected5 status)) (.rejected 5 status reason)

/-- The port of the reply comes last, and only then its status counts. -/
def readPort (r : Socks5Request) (status : UInt8) (bound : Option Destination) : Exchange :=
  receive 2 fun raw =>
    match boundPort raw with
    | .error d => malformed d
    | .ok q => ofStatus5 r status bound q

/-- The bound address, from its payload. -/
def afterAddress (r : Socks5Request) (status : UInt8) (t : AddressType) (payload : Bytes) : Exchange :=
  match boundAddress t payload with
  | .error d => malformed d
  | .ok bound => readPort r status bound

/-- A name of this length; an empty one is followed by the port at once. -/
def readName (r : Socks5Request) (status n : UInt8) : Exchange :=
  if n = 0 then afterAddress r status .domain [0]
  else receive n.toNat fun name => afterAddress r status .domain (n :: name)

def readAddress (r : Socks5Request) (status : UInt8) : AddressType → Exchange
  | .ipv4 => receive 4 (afterAddress r status .ipv4)
  | .ipv6 => receive 16 (afterAddress r status .ipv6)
  | .domain => receive 1 fun raw => readName r status (raw.headD 0)

def afterHeader (r : Socks5Request) (raw : Bytes) : Exchange :=
  match ReplyHeader.decode raw with
  | .error d => malformed d
  | .ok h => readAddress r h.status h.type

def request5 (r : Socks5Request) : Exchange := send r.encode (receive ReplyHeader.length (afterHeader r))

def afterMethod (r : Socks5Request) (raw : Bytes) : Exchange :=
  match MethodReply.decode raw with
  | .error d => malformed d
  | .ok m =>
    if m.method = AuthMethod.noAuth.code then request5 r
    else fail (some (.unusableMethod m.method)) (.noMethod m.method (methodReason m.method.toNat))

def socks5 (r : Socks5Request) : Exchange :=
  send (greeting [AuthMethod.noAuth.code]) (receive MethodReply.length (afterMethod r))

/-- Whether an exchange sends before it ends. -/
def sends : Exchange → Bool
  | send .. => true
  | _ => false

theorem afterMethod_request {r : Socks5Request} {raw : Bytes} (h : (afterMethod r raw).sends = true) :
    raw = [5, AuthMethod.noAuth.code] := by
  unfold afterMethod at h
  split at h
  · cases h
  · rename_i m hm
    split at h
    · rename_i h0
      unfold MethodReply.decode at hm
      split at hm
      · split at hm
        · rename_i v x hv
          cases hm
          simp only at h0
          rw [hv, h0]
        · cases hm
      · cases hm
    · cases h

end Exchange

end SocksTunnel
