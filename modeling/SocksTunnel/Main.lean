import SocksTunnel.Command.Run
import Std.Async.DNS
import Std.Async.TCP
import Std.Async.Timer
import Std.Time

/-
  SocksTunnel.Main — the command line over a real network. Nothing is decided here: a
  conversation with the proxy is a plan that grows, and the run of the plan as far as it
  is known says what to write next, whether to wait for more, and how it all ends.

  The answer to the payload goes to standard output, and the log to standard error or to
  the file that it is set up for. What the disk makes of the name of that file is found by
  opening it, and an entry has the moment at which the run first shows it.
-/

open SocksTunnel

namespace SocksTunnel.Main

open Command Script Std.Async

/-- An error of the system. -/
def ioError (e : IO.Error) : IoError :=
  let kind : IoKind := match e with
    | .timeExpired .. => .timedOut
    | .resourceVanished .. => .connectionReset
    | .noFileOrDirectory .. => .notFound
    | .permissionDenied .. => .permission
    | _ => .general
  .ofWords kind (Text.lit e.toString)

def peerError (e : IO.Error) : PeerError := .io (ioError e)

/-- Milliseconds on a timer, a month at most. -/
def timer (limit : Time) : Std.Time.Millisecond.Offset := .ofNat (min limit.ceil.toNat 2592000000)

/-! ## The proxy -/

def address (ip : Std.Net.IPAddr) (port : UInt16) : Std.Net.SocketAddress :=
  match ip with
  | .v4 a => .v4 ⟨a, port⟩
  | .v6 a => .v6 ⟨a, port⟩

/-- Connects to the first address of the proxy that accepts. -/
def reach (proxy : Endpoint) : Async TCP.Socket.Client := do
  let port := UInt16.ofNat (proxy.port.whole?.getD 0).toNat
  let mut failure : IO.Error := .userError "no address"
  for ip in ← DNS.getAddrInfo proxy.host.plain.str "" do
    try
      let peer ← TCP.Socket.Client.mk
      peer.connect (address ip port)
      return peer
    catch e => failure := e
  throw failure

/-- Connects to the proxy, unless that takes too long. -/
def reachWithin (limit : Time) (proxy : Endpoint) : Async (Option TCP.Socket.Client) :=
  Async.race (some <$> reach proxy) (do sleep (timer limit); return none)

/-- What the proxy says next, unless that takes too long. -/
def hear (limit : Time) (peer : TCP.Socket.Client) : Async (Option Chunk) := do
  try
    Selectable.one #[
      .case (peer.recvSelector 65536) fun
        | some data => return some (.ofData data.toList)
        | none => return some .ending,
      .case (← Selector.sleep (timer limit)) fun _ => return none]
  catch e => return some (.ofError (peerError e))

/-- Tells the proxy a message, and returns what went wrong. -/
def tell (peer : TCP.Socket.Client) (message : Bytes) : Async (Option PeerError) := do
  try
    peer.send ⟨message.toArray⟩
    return none
  catch e => return some (peerError e)

/-! ## The log -/

/-- Milliseconds as a number with a fraction, in units of so many of them. -/
def number (milliseconds unit : Nat) : Binary64 := .ofRatio false milliseconds unit

/-- The present moment of a program that started at another one. -/
def moment (started : Nat) : IO Moment := do
  let now := (← Std.Time.Timestamp.now).toMillisecondsSinceUnixEpoch.val.toNat
  let time ← Std.Time.PlainDateTime.now
  let running := (← IO.monoMsNow) - started
  let thread := (← IO.getTID).toNat
  return ⟨Text.lit (time.format "uuuu-MM-dd HH:mm:ss,SSS"), number now 1000, number (now % 1000) 1, number running 1,
    thread, thread⟩

/-- Entries with their moments. -/
abbrev Entries := List (Moment × Entry)

/-- Adds the entries of a run that are new. -/
def note (started : Nat) (seen : Entries) (report : Report) : IO Entries := do
  let now ← moment started
  return seen ++ (report.connection.entries.drop seen.length).map (now, ·)

def fileName (file : File) : String := (Text.decodeLossy file).str

/-- Why a file cannot be opened, if it cannot. -/
def refusal? (file : File) : IO (Option IoError) := do
  try
    let _ ← IO.FS.Handle.mk (fileName file) .append
    return none
  catch e => return some (ioError e)

/-- The settings of a command line and the log for it, on a disk that refuses what cannot be opened. -/
def prepare (words : List Value) : IO (Except Stop Settings × Log) := do
  let plain := Settings.prepare words [] .start
  for (file, _) in plain.2.files do
    if let some e ← refusal? file then
      let disk := { Disk.plain with refusal := fun _ name => if name = file then some e else none }
      return Settings.prepare words [] { Log.start with disk := disk }
  return plain

/-- Shows what the log holds. -/
def present (log : Log) : IO Unit := do
  IO.eprint log.terminal.str
  for (file, text) in log.files do
    let handle ← IO.FS.Handle.mk (fileName file) .append
    handle.putStr text.str

/-! ## The run -/

/-- A wait of the run: the entries before it, and the moment at which it is over. -/
structure Wait where
  entries : Nat
  ends : Nat

/-- Goes on with a conversation in which the proxy was told so many messages, and some entries were seen. -/
partial def converse (started : Nat) (s : Settings) (peer : TCP.Socket.Client) (p : Plan) (told : Nat) (seen : Entries)
    (wait : Option Wait) : Async (Report × Entries) := do
  let report := run s p
  let seen ← note started seen report
  let network := report.connection.network
  match network.written[told]? with
  | some message =>
    match ← tell peer message with
    | none => converse started s peer p (told + 1) seen wait
    | some e => return (run s (p.lose told e), seen)
  | none =>
    if !report.isWaiting then return (report, seen)
    let now ← IO.monoMsNow
    let entries := report.connection.entries.length
    let wait := match wait with
      | some w => if w.entries = entries then w else ⟨entries, now + network.now.ceil.toNat⟩
      | none => ⟨entries, now + network.now.ceil.toNat⟩
    match ← hear (wait.ends - now : Nat) peer with
    | none => return (report, seen)
    | some c => converse started s peer (p.hear told c) told seen (some wait)

/-- Connects to the proxy, if the settings lead there, and carries the run to its end. -/
def execute (started : Nat) (s : Settings) (t : Timeouts) : Async (Report × Entries) := do
  let report := run s .silent
  if report.connection.network.connects.isEmpty then return (report, [])
  try
    match ← reachWithin t.connect.milliseconds (proxy s) with
    | none => return (run s (.late t.connect.milliseconds), [])
    | some peer =>
      let outcome ← converse started s peer .silent 0 [] none
      try peer.shutdown catch _ => pure ()
      return outcome
  catch e => return (run s (.unreachable (peerError e)), [])

/-- Shows what came of a run, some of whose entries were seen before its end. -/
def finish (started : Nat) (log : Log) (report : Report) (seen : Entries) : IO Nat := do
  (← IO.getStdout).write ⟨report.output.toArray⟩
  present (logged log (Text.lit (← IO.appDir).toString) (← note started seen report))
  match report.result with
  | .ok code => return code
  | .error f =>
    IO.eprintln f.message.str
    return 1

/-- Reads the command line, and runs the command if there is something to run. -/
def start (words : List String) : IO Nat := do
  let started ← IO.monoMsNow
  match ← prepare (words.map fun w => .text (Text.lit w)) with
  | (.ok s, log) =>
    match s.get .timeouts with
    | .timeouts t =>
      let (report, seen) ← (execute started s t).block
      finish started log report seen
    | _ => finish started log (run s .silent) []
  | (.error (.failed f), log) =>
    present log
    IO.eprintln f.message.str
    return 1
  | (.error (.ended e), log) =>
    present log
    IO.print e.output.str
    IO.eprint e.complaint.str
    return e.code

end SocksTunnel.Main

def main (args : List String) : IO UInt32 := return UInt32.ofNat (← SocksTunnel.Main.start args)
