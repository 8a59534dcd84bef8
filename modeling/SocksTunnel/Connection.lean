import SocksTunnel.Script.Network

/-
  SocksTunnel.Connection — a connection to a proxy over a network, with its log entries.
  Opening it is bounded by the connect timeout. It is closed at most once; leaving it
  closes it and waits until it is closed, and an error of input or output there is only
  noted.

  Proved: leaving a connection closes it whatever happens (`isClosing_leave`).
-/

namespace SocksTunnel

open Script

structure Connection where
  network : Network
  entries : List Entry
  deriving Repr

/-- The result of an operation that is not cut off by itself. -/
def Outcome.result : Outcome α → Except PeerError α
  | .done a => .ok a
  | .expired => .error (.io (.ofWords .timedOut []))
  | .failed e => .error e

namespace Connection

def start (p : Plan) : Connection := ⟨.start p, []⟩

def note (c : Connection) (e : Entry) : Connection := { c with entries := c.entries ++ [e] }

/-- An operation on the network alone. -/
def through (f : Network → α × Network) (c : Connection) : α × Connection :=
  let (a, n) := f c.network
  (a, { c with network := n })

/-- Connects to a proxy. -/
def enter (limit : Duration) (proxy : Endpoint) (c : Connection) : Except Failure Unit × Connection :=
  if limit.isZero then (.error (.handshake (.expired .connect limit)), c)
  else
    match c.through (Network.connect limit.milliseconds proxy) with
    | (.done _, c) => (.ok (), c.note (.connected proxy))
    | (.expired, c) => (.error (.handshake (.expired .connect limit)), c)
    | (.failed e, c) => (.error (.ofPeer .connect limit e), c)

def writeAll (payload : Bytes) (c : Connection) : Except PeerError Unit × Connection :=
  c.through fun n => let (o, n) := n.write none payload; (o.result, n)

def readExactly (k : Int) (c : Connection) : Except PeerError Bytes × Connection :=
  c.through fun n => let (o, n) := n.readExactly none k; (o.result, n)

def read (k : Int) (c : Connection) : Except PeerError Bytes × Connection :=
  c.through fun n => let (o, n) := n.read none k; (o.result, n)

def close (c : Connection) : Connection := { c with network := c.network.close }

def awaitClosed (c : Connection) : Except PeerError Unit × Connection :=
  c.through fun n => let (o, n) := n.awaitClosed; (o.result, n)

/-- Closes the connection and waits until it is. -/
def leave (c : Connection) : Except PeerError Unit × Connection :=
  match c.close.awaitClosed with
  | (.ok _, c) => (.ok (), c)
  | (.error e, c) => if e.isIo then (.ok (), c.note (.closingFailed e)) else (.error e, c)

/-- Carries out a handshake over the connection. -/
def handshake (run : Session Network → Except Failure Unit × Session Network) (c : Connection) :
    Except Failure Unit × Connection :=
  let (r, s) := run (Session.start c.network)
  (r, ⟨s.stream, c.entries ++ s.entries⟩)

theorem isClosing_leave (c : Connection) : c.leave.2.network.isClosing = c.network.close.isClosing := by
  unfold leave
  have h : c.close.awaitClosed.2.network.isClosing = c.network.close.isClosing := rfl
  split
  · rename_i hc; rw [hc] at h; exact h
  · rename_i hc
    rw [hc] at h
    split <;> exact h

end Connection

end SocksTunnel
