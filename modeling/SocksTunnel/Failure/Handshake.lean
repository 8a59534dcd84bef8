import SocksTunnel.Failure.Configuration
import SocksTunnel.Failure.Peer

/-
  SocksTunnel.Failure.Handshake — how a handshake fails: a phase takes too long, the
  stream ends within a reply, a reply is malformed, the proxy rejects the request or
  offers no usable method, or the transport fails. Nothing is retried.

  Proved: every defect of a reply has a wording of its own kind (`message_malformed`).
-/

namespace SocksTunnel

/-- What is wrong with a reply. -/
inductive ReplyDefect where
  | socks4Length (n : Nat)
  | socks4Version (n : Int)
  | socks4Status (n : UInt8)
  | methodLength (n : Nat)
  | methodVersion (n : Int)
  | headerLength (n : Nat)
  | version (n : Int)
  | addressType (n : Int)
  | boundAddress (f : Fault)
  | portLength
  | status (n : UInt8)
  | oversized (expected : Int) (received : Nat)
  deriving Repr

def ReplyDefect.message : ReplyDefect → Text
  | socks4Length n => .lit s!"SOCKS4 reply must be 8 bytes, got {n}"
  | socks4Version n => .lit "SOCKS4 reply version must be 0, got " ++ .ofInt n
  | socks4Status n => .lit "unknown SOCKS4 status " ++ .code n.toNat
  | methodLength n => .lit s!"SOCKS5 method reply must be 2 bytes, got {n}"
  | methodVersion n => .lit "SOCKS5 method reply version must be 5, got " ++ .ofInt n
  | headerLength n => .lit s!"SOCKS5 reply header must be 4 bytes, got {n}"
  | version n => .lit "SOCKS5 reply version must be 5, got " ++ .ofInt n
  | addressType n => .lit "unknown SOCKS5 address type " ++ .code n
  | boundAddress f => .lit "invalid bound address: " ++ f.message
  | portLength => .lit "SOCKS5 reply port must be 2 bytes"
  | status n => .lit "unknown SOCKS5 status " ++ .code n.toNat
  | oversized expected received =>
    .lit "expected " ++ .ofInt expected ++ .lit " reply bytes, stream returned " ++ .ofNat received

inductive HandshakeError where
  | timeout (phase : Phase) (limit : Duration)
  | endOfStream (expected : Int) (received : Nat)
  | malformed (d : ReplyDefect)
  | rejected (version : Nat) (code : UInt8) (reason : Text)
  | noMethod (method : UInt8) (reason : Text)
  | transport (cause : PeerError)
  deriving Repr

namespace HandshakeError

def timeoutText (phase : String) (limit : Binary64) : Text :=
  .lit phase ++ .lit " timeout of " ++ limit.shortText ++ .lit "s reached"

def endText (expected received : Int) : Text :=
  .lit "stream closed after " ++ .ofInt received ++ .lit " of " ++ .ofInt expected ++ .lit " expected bytes"

def malformedText (reason : Text) : Text := .lit "malformed reply: " ++ reason

def rejection (version code : Int) (reason : Text) : Text :=
  .lit "SOCKS" ++ .ofInt version ++ .lit " request rejected (" ++ .code code ++ .lit "): " ++ reason

/-- An error of the transport, by its name if it has no text. -/
def transportText (cause : PeerError) : Text :=
  .lit "transport error: " ++ if cause.message = [] then .lit cause.name else cause.message

def message : HandshakeError → Text
  | timeout phase limit => timeoutText phase.name limit.number
  | endOfStream expected received => endText expected received
  | malformed d => malformedText d.message
  | rejected version code reason => rejection version code.toNat reason
  | noMethod method reason => rejection 5 method.toNat reason
  | transport cause => transportText cause

theorem message_malformed (d : ReplyDefect) : (malformed d).message = .lit "malformed reply: " ++ d.message := rfl

end HandshakeError

/-- Everything that can end an operation of this library early. -/
inductive Failure where
  | fault (f : Fault)
  | configuration (e : ConfigurationError)
  | handshake (e : HandshakeError)
  | peer (e : PeerError)
  deriving Repr

namespace Failure

def message : Failure → Text
  | fault f => f.message
  | configuration e => e.message
  | handshake e => e.message
  | peer e => e.message

/-- Whether a failure is a bad value, as every error of a description is. -/
def isBadValue : Failure → Bool
  | fault f => f.isBadValue
  | configuration _ => true
  | handshake _ => false
  | peer (.badValue _) => true
  | peer _ => false

instance : Coe Fault Failure := ⟨fault⟩

instance : MonadLift (Except Fault) (Except Failure) := ⟨fun e => e.mapError fault⟩

instance : Coe ConfigurationError Failure := ⟨configuration⟩

/-- A description's part that is wrong. -/
def wrong (p : ConfigurationPart) (t : Text) : Failure := configuration (.of p t)

end Failure

end SocksTunnel
