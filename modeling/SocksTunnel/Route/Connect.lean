import SocksTunnel.Handshake.Session
import SocksTunnel.Route.Basic

/-
  SocksTunnel.Route.Connect — makes a tunnel along a route, over a stream that already
  reaches the proxy. A request that cannot be written, or timeouts that are none, fail
  before the stream is touched.

  Proved: a SOCKS5 route with timeouts is the exchange of its request (`connect_socks5`), and
  what a client does along a SOCKS4 route is the exchange of the request that can be written
  (`exchange_socks4`, `exchange_socks4User`).
-/

namespace SocksTunnel.Route

/-- What a client does along a route. -/
def exchange (r : Route) : Except Fault Exchange :=
  match r with
  | socks4 a p _ => r.request.map fun b => .socks4 b a p
  | socks4User a p _ _ => r.request.map fun b => .socks4 b a p
  | socks5 d p _ => .ok (.socks5 ⟨d, p⟩)

def connect [Transport σ] (r : Route) (s : Session σ) : Except Failure Unit × Session σ :=
  match r.exchange with
  | .error f => (.error (.fault f), s)
  | .ok x =>
    match r.timeouts with
    | .error f => (.error (.fault f), s)
    | .ok t => s.run t x

theorem connect_socks5 [Transport σ] (d : Destination) (p : Port) (t : Timeouts) (s : Session σ) :
    (socks5 d p (.timeouts t)).connect s = s.run t (.socks5 ⟨d, p⟩) := rfl

theorem exchange_socks4 (a : Ipv4) (p : Port) (t : Value) :
    (socks4 a p t).exchange = (socks4 a p t).request.map fun b => .socks4 b a p := rfl

theorem exchange_socks4User (a : Ipv4) (p : Port) (u t : Value) :
    (socks4User a p u t).exchange = (socks4User a p u t).request.map fun b => .socks4 b a p := rfl

end SocksTunnel.Route
