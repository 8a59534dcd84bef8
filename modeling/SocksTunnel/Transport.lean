import SocksTunnel.Failure.Peer
import SocksTunnel.Timeouts

/-
  SocksTunnel.Transport — the byte stream below a handshake: it writes all of its data,
  or reads exactly so many octets, within a limit. Time is counted in milliseconds.

  Proved: ten seconds are ten thousand milliseconds (`milliseconds_ten`).
-/

namespace SocksTunnel

/-- Milliseconds. -/
abbrev Time := Rat

def Duration.milliseconds (d : Duration) : Time := d.seconds * 1000

/-- How an operation under a limit ends: in time, cut off at the limit, or with an error. -/
inductive Outcome (α : Type) where
  | done (a : α)
  | expired
  | failed (e : PeerError)
  deriving DecidableEq, Repr

/-- Streams whose operations are cut off at a limit, which is more than zero. -/
class Transport (σ : Type) where
  write : Time → Bytes → σ → Outcome Unit × σ
  read : Time → Int → σ → Outcome Bytes × σ

theorem milliseconds_ten : Duration.ten.milliseconds = 10000 := by decide +kernel

end SocksTunnel
