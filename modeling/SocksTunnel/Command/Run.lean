import SocksTunnel.Command.Help
import SocksTunnel.Command.Options
import SocksTunnel.Connection
import SocksTunnel.Route.Connect
import SocksTunnel.Script.Conversation

/-
  SocksTunnel.Command.Run — one run of the command: it finds the route, connects to the
  proxy, makes the tunnel, and, if there is a payload, sends it and prints the first
  answer. The run ends with 0, or with 1 and an error in the log; the connection is left
  in either case.

  Proved: a route that cannot be found ends the run before there is a connection
  (`run_invalid`).
-/

namespace SocksTunnel

namespace Ending

/-- What is printed when there is nothing to run. -/
def output : Ending → Text
  | help => Help.text
  | version => Help.version ++ ['\n']
  | usage _ => []

/-- What is written to the terminal of the log when there is nothing to run. -/
def complaint : Ending → Text
  | usage message => Help.refusal message
  | _ => []

end Ending

namespace Command

open Script

/-- What came of a run. -/
structure Report where
  result : Except Failure Nat
  output : Bytes
  connection : Connection

/-- Whether a run in a conversation ended since nothing more was said: no other wait takes time there. -/
def Report.isWaiting (r : Report) : Bool := r.connection.network.now != 0

/-- The protocol of a name; every name but those of SOCKS4 stands for SOCKS5. -/
def protocolOf (v : Value) : Protocol :=
  if v.same (.text (Text.lit Protocol.socks4.name)) then .socks4
  else if v.same (.text (Text.lit Protocol.socks4User.name)) then .socks4User
  else .socks5

/-- The route of the settings. -/
def route (s : Settings) : Except Fault Route :=
  match s.get .destination with
  | .nothing => .error .noDestination
  | target =>
    let p := protocolOf (s.get .protocol)
    let port := s.get .destinationPort
    let timeouts := s.get .timeouts
    match p with
    | .socks4User => Route.ofSettings p [target, port, s.get .user, timeouts]
    | p => Route.ofSettings p [target, port, timeouts]

def proxy (s : Settings) : Endpoint := ⟨s.get .proxyHost, s.get .proxyPort⟩

def target (s : Settings) : Endpoint := ⟨s.get .destination, s.get .destinationPort⟩

/-! ## Payload -/

/-- An operation under a limit, where a limit of zero is no time at all. -/
def limited (limit : Duration) (f : Time → Network → Outcome α × Network) (c : Connection) : Outcome α × Connection :=
  if limit.isZero then (.expired, c) else c.through (f limit.milliseconds)

/-- What an exchange that did not come to its end means: a code, or a failure of another kind. -/
def broken (c : Connection) : Outcome α → Except Failure Nat × Connection
  | .failed e =>
    if e.isTimeout then (.ok 1, c.note .exchangeExpired)
    else if e.isIo then (.ok 1, c.note (.exchangeFailed e))
    else (.error (.peer e), c)
  | _ => (.ok 1, c.note .exchangeExpired)

def send (limit : Duration) (payload : Value) (c : Connection) : Except Fault (Outcome Unit) × Connection :=
  if limit.isZero then (.ok .expired, c)
  else
    match payload with
    | .bytes b =>
      let (o, c) := c.through fun n => n.write (some limit.milliseconds) b
      (.ok o, c)
    | _ => (.error .wrongType, c)

/-- Sends the payload and takes the first answer. -/
def exchange (t : Timeouts) (payload : Value) (c : Connection) : Except Failure Nat × Bytes × Connection :=
  match send t.write payload c with
  | (.error f, c) => (.error (.fault f), [], c)
  | (.ok (.done _), c) =>
    match limited t.read (fun l n => n.readSome (some l) Network.blockSize) c with
    | (.done b, c) => (.ok 0, b, c)
    | (o, c) =>
      let (r, c) := broken c o
      (r, [], c)
  | (.ok o, c) =>
    let (r, c) := broken c o
    (r, [], c)

/-! ## The run -/

/-- What is done while there is a connection. -/
def converse (s : Settings) (r : Route) (t : Timeouts) (c : Connection) : Except Failure Nat × Bytes × Connection :=
  match c.handshake r.connect with
  | (.error (.handshake e), c) => (.ok 1, [], c.note (.handshakeFailed (proxy s) e))
  | (.error f, c) => (.error f, [], c)
  | (.ok _, c) =>
    let c := c.note (.tunnelled (target s) (s.get .protocol) (proxy s))
    if (s.get .payload).isGiven then exchange t (s.get .payload) c else (.ok 0, [], c)

/-- Leaves the connection; an error that is not of input or output takes the place of the result. -/
def conclude (r : Except Failure Nat) (output : Bytes) (c : Connection) : Report :=
  match c.leave with
  | (.ok _, c) => ⟨r, output, c⟩
  | (.error e, c) => ⟨.error (.peer e), output, c⟩

def along (s : Settings) (r : Route) (t : Timeouts) (c : Connection) : Report :=
  match c.enter t.connect (proxy s) with
  | (.error (.handshake e), c) => ⟨.ok 1, [], c.note (.unreachable (proxy s) e)⟩
  | (.error f, c) => ⟨.error f, [], c⟩
  | (.ok _, c) =>
    let (result, output, c) := converse s r t c
    conclude result output c

def run (s : Settings) (p : Plan) : Report :=
  let c := Connection.start p
  match route s with
  | .error f =>
    if f.isBadValue then ⟨.ok 1, [], c.note (.invalidDestination (.fault f))⟩ else ⟨.error (.fault f), [], c⟩
  | .ok r =>
    match r.timeouts with
    | .error f => ⟨.error (.fault f), [], c⟩
    | .ok t => along s r t c

/-- The log after a run of a program that is kept in a directory, each entry with the moment that it was made at. -/
def logged (log : Log) (directory : Text) (entries : List (Moment × Entry)) : Log :=
  entries.foldl (fun l (m, e) => l.write (e.record directory m)) log

theorem run_invalid {s : Settings} {p : Plan} {f : Fault} (h : route s = .error f) :
    (run s p).connection.network = .start p := by
  unfold run
  rw [h]
  simp only
  split <;> rfl

end Command

end SocksTunnel
