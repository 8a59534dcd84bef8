import SocksTunnel.Failure.Handshake
import SocksTunnel.Log.Level
import SocksTunnel.Setting.Port

/-
  SocksTunnel.Log.Entry — what is written to the log: an entry for every accepted
  operation of a handshake, for its result, and for the steps of the program around it.
  Each entry has a level, the part of the program that it comes from, and one wording.

  The wording is made of parts. Together they give the message; with a mark for each
  argument they give its template. A line of the log also tells its place in the program and
  the moment that it was made at.

  Proved: only rejections are warnings, and only the program around a handshake writes
  errors (`level_eq_warning_iff`, `level_eq_error_iff`).
-/

namespace SocksTunnel

/-- Where a line of the log comes from: the path of a part of a program, the step in it, and the line there. -/
structure Place where
  path : Text
  step : Text
  line : Nat
  deriving DecidableEq, Repr

namespace Place

/-- The last name of the path. -/
def file (p : Place) : Text := (p.path.splitOn '/').getLastD []

/-- The name of the file without its ending; points in front of a name begin no ending. -/
def module (p : Place) : Text :=
  match Text.cutLast '.' p.file with
  | some (name, _) => if name.all (· == '.') then p.file else name
  | none => p.file

end Place

/-- What the system tells of the moment at which a line is made: its time as the log writes it, in seconds and the
milliseconds of these, and in milliseconds since the start; and the numbers of the process and its thread. -/
structure Moment where
  time : Text
  created : Binary64
  milliseconds : Binary64
  sinceStart : Binary64
  process : Nat
  thread : Nat
  deriving DecidableEq, Repr

/-- A line of the log. Nothing tells the arguments that cannot be shown, and broken text in a message is there as a
terminal shows it. -/
structure Record where
  level : Level
  source : Text
  message : Text
  template : Text
  arguments : Option Text
  place : Place
  moment : Moment
  deriving DecidableEq, Repr

/-- The line of a plain message. -/
def Record.plain (l : Level) (source message : Text) (p : Place) (m : Moment) : Record :=
  ⟨l, source, message, message, some (Value.tuple []).shown, p, m⟩

/-- The number that a setting is written as. -/
def Value.decimal (v : Value) : Text :=
  match v.truncated with
  | .ok n => .ofInt n
  | .error _ => v.plain

/-- Where the proxy listens, as it was given. -/
structure Endpoint where
  host : Value
  port : Value
  deriving Repr

inductive Entry where
  | sent (n : Nat)
  | received (n : Nat)
  | established4 (a : Ipv4) (p : Port)
  | rejected4 (status : UInt8)
  | established5 (d : Destination) (p : Port) (bound : Option Destination) (boundPort : Port)
  | unusableMethod (m : UInt8)
  | rejected5 (status : UInt8)
  | connected (proxy : Endpoint)
  | closingFailed (e : PeerError)
  | invalidDestination (f : Failure)
  | unreachable (proxy : Endpoint) (e : HandshakeError)
  | handshakeFailed (proxy : Endpoint) (e : HandshakeError)
  | tunnelled (target : Endpoint) (protocol : Value) (proxy : Endpoint)
  | exchangeExpired
  | exchangeFailed (e : PeerError)
  deriving Repr

namespace Entry

def level : Entry → Level
  | sent _ => .debug
  | received _ => .debug
  | established4 .. => .debug
  | rejected4 _ => .warning
  | established5 .. => .debug
  | unusableMethod _ => .warning
  | rejected5 _ => .warning
  | connected _ => .debug
  | closingFailed _ => .debug
  | invalidDestination _ => .error
  | unreachable .. => .error
  | handshakeFailed .. => .error
  | tunnelled .. => .info
  | exchangeExpired => .error
  | exchangeFailed _ => .error

def source : Entry → String
  | sent _ => "async_proxy.core.handshake"
  | received _ => "async_proxy.core.handshake"
  | established4 .. => "async_proxy.socks.socks4"
  | rejected4 _ => "async_proxy.socks.socks4"
  | established5 .. => "async_proxy.socks.socks5"
  | unusableMethod _ => "async_proxy.socks.socks5"
  | rejected5 _ => "async_proxy.socks.socks5"
  | connected _ => "async_proxy.core.stream"
  | closingFailed _ => "async_proxy.core.stream"
  | _ => "async_proxy.proxy"

/-- The step of its part of the program that an entry is made in. -/
def step : Entry → String
  | sent _ => "send"
  | received _ => "recv"
  | established4 .. => "socks4_handshake"
  | rejected4 _ => "socks4_handshake"
  | established5 .. => "connect"
  | unusableMethod _ => "_negotiate_method"
  | rejected5 _ => "_request"
  | connected _ => "open"
  | closingFailed _ => "__aexit__"
  | exchangeExpired => "echo"
  | exchangeFailed _ => "echo"
  | _ => "tunnel"

/-- The line of its part of the program that an entry is made at. -/
def sourceLine : Entry → Nat
  | sent _ => 46
  | received _ => 67
  | established4 .. => 51
  | rejected4 _ => 57
  | established5 .. => 87
  | unusableMethod _ => 99
  | rejected5 _ => 121
  | connected _ => 74
  | closingFailed _ => 109
  | invalidDestination _ => 168
  | unreachable .. => 174
  | handshakeFailed .. => 184
  | tunnelled .. => 186
  | exchangeExpired => 203
  | exchangeFailed _ => 206

/-! ## Wording -/

/-- A part of a wording. -/
inductive Part where
  | words (s : String)
  | number (v : Value)
  | code (n : UInt8)
  | text (v : Value)
  | failure (message : Text)
  deriving Repr

namespace Part

def written : Part → Text
  | words s => .lit s
  | number v => v.decimal
  | code n => .code n.toNat
  | text v => v.plain
  | failure t => t

/-- The part with a mark in the place of its argument. -/
def mark : Part → Text
  | words s => .lit s
  | number _ => .lit "%d"
  | code _ => .lit "0x%02x"
  | text _ => .lit "%s"
  | failure _ => .lit "%s"

/-- The arguments of a part, unless they cannot be shown. -/
def arguments : Part → Option (List Value)
  | words _ => some []
  | number v => some [v]
  | code n => some [.int n.toNat]
  | text v => some [v]
  | failure _ => none

end Part

def endpoint (e : Endpoint) : List Part := [.text e.host, .words ":", .number e.port]

def ofPort (p : Port) : Value := .int p.toNat

/-- The bound destination, or nothing. -/
def bound : Option Destination → Value
  | some d => .destination d
  | none => .nothing

def parts : Entry → List Part
  | sent n => [.words "sent ", .number (.int n), .words " bytes to proxy"]
  | received n => [.words "received ", .number (.int n), .words " bytes from proxy"]
  | established4 a p => .words "SOCKS4 tunnel established to " :: endpoint ⟨.ipv4 a, ofPort p⟩
  | rejected4 status => [.words "SOCKS4 request rejected with status ", .code status]
  | established5 d p b q =>
    .words "SOCKS5 tunnel established to " :: endpoint ⟨.destination d, ofPort p⟩ ++
      [.words ", bound ", .text (bound b), .words ":", .text (ofPort q)]
  | unusableMethod m => [.words "SOCKS5 server selected unsupported method ", .code m]
  | rejected5 status => [.words "SOCKS5 request rejected with status ", .code status]
  | connected proxy => .words "Connected to proxy server " :: endpoint proxy
  | closingFailed e => [.words "Error while closing stream: ", .failure e.message]
  | invalidDestination f => [.words "Invalid destination: ", .failure f.message]
  | unreachable proxy e =>
    .words "Unable to connect to proxy server " :: endpoint proxy ++ [.words ": ", .failure e.message]
  | handshakeFailed proxy e =>
    .words "Handshake with " :: endpoint proxy ++ [.words " failed: ", .failure e.message]
  | tunnelled target protocol proxy =>
    .words "Connected to " :: endpoint target ++ [.words " through ", .text protocol, .words " proxy "] ++ endpoint proxy
  | exchangeExpired => [.words "Timed out exchanging payload with destination"]
  | exchangeFailed e => [.words "Unable to exchange payload with destination: ", .failure e.message]

def message (e : Entry) : Text := e.parts.flatMap Part.written

def template (e : Entry) : Text := e.parts.flatMap Part.mark

/-- The arguments of the template in a row, as messages show them. -/
def arguments (e : Entry) : Option Text := do
  let vs ← e.parts.mapM Part.arguments
  some (Value.tuple vs.flatten).shown

/-- The place of an entry in a program that is kept in a directory: the parts of the name of its source are the names
of the path. -/
def place (directory : Text) (e : Entry) : Place :=
  let path := (Text.lit e.source).map fun c => if c = '.' then '/' else c
  ⟨directory ++ '/' :: path ++ .lit ".py", .lit e.step, e.sourceLine⟩

def record (directory : Text) (m : Moment) (e : Entry) : Record :=
  ⟨e.level, .lit e.source, e.message, e.template, e.arguments, e.place directory, m⟩

theorem level_eq_warning_iff (e : Entry) :
    e.level = .warning ↔ (∃ c, e = rejected4 c) ∨ (∃ c, e = rejected5 c) ∨ ∃ m, e = unusableMethod m := by
  cases e <;> simp [level, Level.debug, Level.info, Level.warning, Level.error]

/-- Entries of the program around a handshake that say why it ends early. -/
def isComplaint : Entry → Bool
  | invalidDestination _ => true
  | unreachable .. => true
  | handshakeFailed .. => true
  | exchangeExpired => true
  | exchangeFailed _ => true
  | _ => false

theorem level_eq_error_iff (e : Entry) : e.level = .error ↔ e.isComplaint = true := by
  cases e <;> simp [level, isComplaint, Level.debug, Level.info, Level.warning, Level.error]

end Entry

end SocksTunnel
