import SocksTunnel.Value

/-
  SocksTunnel.Failure.Fault — why a setting or a message is refused. Each fault is a
  cause; its wording is in one place, and so is the kind that tells callers which faults
  are bad values rather than mistakes in the call.

  Proved: a bad address or undecodable text is a bad value (`isBadValue_address`,
  `isBadValue_undecodable`).
-/

namespace SocksTunnel

/-- Why octets are not a request. -/
inductive RequestDefect where
  | socks4Length
  | socks4Version (n : Int)
  | socks4Terminator
  | methodSelection
  | socks5Request
  deriving DecidableEq, Repr

def RequestDefect.message : RequestDefect → Text
  | socks4Length => .lit "SOCKS4 request must be at least 9 bytes"
  | socks4Version n => .lit "not a SOCKS4 request, version " ++ .ofInt n
  | socks4Terminator => .lit "SOCKS4 request is not NULL terminated"
  | methodSelection => .lit "invalid SOCKS5 method selection message"
  | socks5Request => .lit "invalid SOCKS5 request"

inductive Fault where
  | coding (e : CodingError)
  | address (e : AddressError)
  | destination (e : DestinationError)
  | unsupportedDestination (v : Value)
  | addressType (v : Value)
  | ipv6Destination (a : Ipv6)
  | portRange (n : Int)
  | portType (v : Value)
  | timeoutRange (p : Phase) (v : Value)
  | timeoutType (p : Phase) (v : Value)
  | unknownPhase (v : Value)
  | unknownFields (names : List Text)
  | nullInUser
  | request (d : RequestDefect)
  | octetRange
  | noDestination
  | logLevel (given : Value)
  | logFormat (given : Text)
  | logFileName
  | unmet
  | wrongType
  | noSuchPart
  | notANumber
  | indexRange
  | tooLarge
  | layout
  deriving Repr

namespace Fault

/-- What callers may do about a fault: a `value`, an `address` and the three kinds of text are bad values. -/
inductive Kind where
  | value
  | address
  | undecodable
  | unencodable
  | unicode
  | lookup
  | type
  | assertion
  | attribute
  | overflow
  | layout
  deriving DecidableEq, Repr

def Kind.ofCoding : CodingError → Kind
  | .undecodable _ => .undecodable
  | .unencodable _ => .unencodable
  | .nullInName => .value
  | .unknownCodec _ => .lookup
  | .unknownPolicy _ => .lookup
  | .unknownPolicyIn _ _ _ => .lookup
  | .notText _ _ => .lookup
  | .unsuitedPolicy => .type
  | .refused _ => .unicode
  | .unstable _ _ => .unicode

def kind : Fault → Kind
  | coding e => .ofCoding e
  | .address _ => .address
  | .destination (.address _) => .address
  | unsupportedDestination _ => .type
  | portType _ => .type
  | timeoutType _ _ => .type
  | wrongType => .type
  | unmet => .assertion
  | noSuchPart => .attribute
  | tooLarge => .overflow
  | .layout => .layout
  | _ => .value

/-- Whether a fault is a bad value, which a description of a tunnel may hold. -/
def isBadValue (f : Fault) : Bool :=
  match f.kind with
  | .value => true
  | .address => true
  | .undecodable => true
  | .unencodable => true
  | .unicode => true
  | _ => false

def message : Fault → Text
  | coding e => e.message
  | .address e => e.message
  | .destination e => e.message
  | unsupportedDestination v => .lit "unsupported destination " ++ v.shown
  | addressType v => .lit "unknown address type " ++ v.shown
  | ipv6Destination a => .lit "SOCKS4 cannot address IPv6 destination " ++ a.text
  | portRange n => .lit "port " ++ .ofInt n ++ .lit " out of range 0-65535"
  | portType v => .lit "port must be an int, got " ++ v.shown
  | timeoutRange p v => .lit s!"{p.name} timeout must be finite and non-negative, got " ++ v.shown
  | timeoutType p v => .lit s!"{p.name} timeout must be a number, got " ++ v.shown
  | unknownPhase v => .lit "unknown timeout phase " ++ v.shown
  | unknownFields names => .lit "Got unexpected field names: " ++ (Value.list (names.map .text)).shown
  | nullInUser => .lit "ident must not contain a NULL byte"
  | request d => d.message
  | octetRange => .lit "bytes must be in range(0, 256)"
  | noDestination => .lit "--destination flag is required"
  | logLevel given =>
    .lit "invalid log level " ++ given.shown ++ .lit ", valid options: DEBUG, INFO, WARNING, ERROR, CRITICAL"
  | logFormat given => .lit "Invalid format '" ++ given ++ .lit "' for '%' style"
  | logFileName => .lit "embedded null byte"
  | unmet => []
  | wrongType => []
  | noSuchPart => []
  | notANumber => .lit "cannot convert float NaN to integer"
  | indexRange => .lit "cannot fit 'int' into an index-sized integer"
  | tooLarge => []
  | .layout => []

@[simp] theorem isBadValue_address (e : AddressError) : isBadValue (.address e) = true := rfl

@[simp] theorem isBadValue_undecodable (u : Undecodable) : isBadValue (.coding (.undecodable u)) = true := rfl

theorem isBadValue_destination (e : DestinationError) : isBadValue (.destination e) = true := by cases e <;> rfl

end Fault

end SocksTunnel
