import SocksTunnel.Failure.Fault

/-
  SocksTunnel.Failure.Configuration — what is wrong with the text that describes a tunnel
  or its timeouts: the number of its fields, an address, a port, or the timeouts. The
  error carries the text as it was given.

  Proved: the message tells the part and the text (`message_of`).
-/

namespace SocksTunnel

/-- The part of a description that is wrong. -/
inductive ConfigurationPart where
  | fields
  | address
  | port
  | timeouts
  deriving DecidableEq, Repr

def ConfigurationPart.words : ConfigurationPart → String
  | fields => "invalid syntax"
  | address => "invalid address"
  | port => "invalid port"
  | timeouts => "invalid timeouts"

structure ConfigurationError where
  part : ConfigurationPart
  value : Value
  deriving Repr

namespace ConfigurationError

/-- The error of one part. -/
def of (p : ConfigurationPart) (t : Text) : ConfigurationError := ⟨p, .text t⟩

def message (e : ConfigurationError) : Text := .lit e.part.words ++ .lit ": " ++ e.value.shown

theorem message_of (p : ConfigurationPart) (t : Text) : (of p t).message = .lit p.words ++ .lit ": " ++ t.quoted := by
  simp [message, of, Value.shown]

end ConfigurationError

end SocksTunnel
