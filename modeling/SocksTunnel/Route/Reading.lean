import SocksTunnel.Route.Basic

/-
  SocksTunnel.Route.Reading — a route from one line of text, its parts one space apart:

      address:port timeouts                  by SOCKS4
      address:port user timeouts             by SOCKS4 with a user
      destination port timeouts              by SOCKS5

  Every part has an error of its own, which carries that part's text. Only the user has none: a
  zero octet in it, or a surrogate, is a plain fault.

  Proved: a line with another number of parts is refused as a whole (`read_text_parts`).
-/

namespace SocksTunnel.Route

/-- A bad value among the faults of a part spoils that part. -/
def inPart (p : ConfigurationPart) (v : Value) (e : Except Fault α) : Except Failure α :=
  e.mapError fun f => if f.isBadValue then .configuration ⟨p, v⟩ else .fault f

/-- Address and port of a SOCKS4 tunnel. -/
def addressPort (v : Value) : Except Failure (Ipv4 × Port) := do
  let (host, port) ← v.hostPort
  let a ← inPart .address v host.socks4Address
  .ok (a, port)

def read4 (address timeouts : Value) : Except Failure Route := do
  let (a, p) ← addressPort address
  let t ← timeouts.readTimeouts
  .ok (socks4 a p (.timeouts t))

def read4User (address name timeouts : Value) : Except Failure Route := do
  let (a, p) ← addressPort address
  let t ← timeouts.readTimeouts
  let u ← (user name).mapError Failure.fault
  .ok (socks4User a p u (.timeouts t))

def read5 (dest port timeouts : Value) : Except Failure Route := do
  let d ← inPart .address dest dest.toDestination
  let p ← port.readPort
  let t ← timeouts.readTimeouts
  .ok (socks5 d p (.timeouts t))

/-- The route of the parts of a line. -/
def readParts (p : Protocol) (line : Value) (parts : List Value) : Except Failure Route :=
  match p, parts with
  | .socks4, [address, timeouts] => read4 address timeouts
  | .socks4User, [address, name, timeouts] => read4User address name timeouts
  | .socks5, [dest, port, timeouts] => read5 dest port timeouts
  | _, _ => .error (.configuration ⟨.fields, line⟩)

def readText (p : Protocol) (t : Text) : Except Failure Route :=
  readParts p (.text t) ((t.splitOn ' ').map .text)

/-- Broken text is cut into its parts too, at least one of which is broken. -/
def readBroken (p : Protocol) (b : BrokenText) : Except Failure Route :=
  readParts p (.broken b) ((b.signs.splitOn (.char ' ')).map .ofSigns)

/-- The route of a setting, which has to be text or broken text. -/
def read (p : Protocol) : Value → Except Failure Route
  | .text t => readText p t
  | .broken b => readBroken p b
  | .bytes _ => .error (.fault .wrongType)
  | _ => .error (.fault .noSuchPart)

/-- The number of parts of a line. -/
def partCount : Protocol → Nat
  | .socks4 => 2
  | _ => 3

theorem read_text_parts {p : Protocol} {t : Text} (h : (t.splitOn ' ').length ≠ partCount p) :
    readText p t = .error (.wrong .fields t) := by
  have hparts : ((t.splitOn ' ').map Value.text).length ≠ partCount p := by rwa [List.length_map]
  unfold readText readParts
  split <;> simp_all [partCount, Failure.wrong, ConfigurationError.of]

end SocksTunnel.Route
