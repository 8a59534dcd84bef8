import SocksTunnel.Failure.Io

/-
  SocksTunnel.Failure.Peer — what goes wrong below a handshake: errors of the system's
  input and output, an end of the data in the middle of a reply, a caller that gives up,
  and errors that are none of these.

  Proved: the errors of input and output are told apart from the others
  (`isIo_incomplete`, `isIo_cancelled`).
-/

namespace SocksTunnel

/-- Errors that a peer raises. -/
inductive PeerError where
  | io (e : IoError)
  | incomplete (part : Bytes) (expected : Option Int)
  | cancelled (text : Text)
  | badValue (text : Text)
  | runtime (text : Text)
  deriving DecidableEq, Repr

namespace PeerError

/-- The octets that were expected, if anyone knows. -/
def expectedText : Option Int → Text
  | some n => .ofInt n
  | none => .lit "undefined"

def message : PeerError → Text
  | io e => e.message
  | incomplete part expected =>
    .ofNat part.length ++ .lit " bytes read on a total of " ++ expectedText expected ++ .lit " expected bytes"
  | cancelled t => t
  | badValue t => t
  | runtime t => t

/-- The message without the files that it names. -/
def brief : PeerError → Text
  | io e => e.brief
  | e => e.message

def name : PeerError → String
  | io e => e.kind.name
  | incomplete _ _ => "IncompleteReadError"
  | cancelled _ => "CancelledError"
  | badValue _ => "ValueError"
  | runtime _ => "RuntimeError"

/-- Errors of input and output, an operation that timed out among them. -/
def isIo : PeerError → Bool
  | io _ => true
  | _ => false

def isTimeout : PeerError → Bool
  | io e => e.kind == .timedOut
  | _ => false

@[simp] theorem isIo_incomplete (p : Bytes) (n : Option Int) : isIo (incomplete p n) = false := rfl

@[simp] theorem isIo_cancelled (t : Text) : isIo (cancelled t) = false := rfl

end PeerError

end SocksTunnel
