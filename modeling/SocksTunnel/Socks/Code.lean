import SocksTunnel.Text.Basic

/-
  SocksTunnel.Socks.Code — the numbers of SOCKS4 and SOCKS5: commands, methods and
  statuses, and the words for a rejection.

  Proved: a status is found again by its code (`Socks4Status.ofCode?_code`,
  `Socks5Status.ofCode?_code`).
-/

namespace SocksTunnel

/-! ## SOCKS4 -/

inductive Socks4Command where
  | connect
  | bind
  deriving DecidableEq, Repr

def Socks4Command.code : Socks4Command → UInt8
  | connect => 1
  | bind => 2

inductive Socks4Status where
  | granted
  | rejected
  | identdUnreachable
  | identdMismatch
  deriving DecidableEq, Repr

namespace Socks4Status

def all : List Socks4Status := [granted, rejected, identdUnreachable, identdMismatch]

def code : Socks4Status → UInt8
  | granted => 0x5a
  | rejected => 0x5b
  | identdUnreachable => 0x5c
  | identdMismatch => 0x5d

def ofCode? (c : UInt8) : Option Socks4Status := all.find? fun s => s.code == c

/-- Why a request is rejected; nothing for a granted one. -/
def reason? : Socks4Status → Option Text
  | granted => none
  | rejected => some (.lit "request rejected or failed")
  | identdUnreachable =>
    some (.lit "request rejected because SOCKS server cannot connect to identd on the client")
  | identdMismatch =>
    some (.lit "request rejected because the client program and identd report different user-ids")

@[simp] theorem ofCode?_code (s : Socks4Status) : ofCode? s.code = some s := by cases s <;> rfl

theorem ofCode?_eq_some {c : UInt8} {s : Socks4Status} (h : ofCode? c = some s) : s.code = c := by
  simpa using List.find?_some h

end Socks4Status

/-! ## SOCKS5 -/

inductive Socks5Command where
  | connect
  | bind
  | udpAssociate
  deriving DecidableEq, Repr

def Socks5Command.code : Socks5Command → UInt8
  | connect => 1
  | bind => 2
  | udpAssociate => 3

/-- Authentication methods. -/
inductive AuthMethod where
  | noAuth
  | gssapi
  | password
  | unacceptable
  deriving DecidableEq, Repr

def AuthMethod.code : AuthMethod → UInt8
  | noAuth => 0
  | gssapi => 1
  | password => 2
  | unacceptable => 0xff

/-- Why a client that offers no authentication alone cannot use a method. -/
def methodReason (n : Int) : Text :=
  if n = 255 then .lit "no acceptable authentication methods"
  else if n = 1 then .lit "server selected GSSAPI authentication, which is not supported"
  else if n = 2 then .lit "server selected username/password authentication, which is not supported"
  else if 3 ≤ n ∧ n ≤ 0x7f then
    .lit "server selected IANA assigned method " ++ .code n ++ .lit ", which is not supported"
  else if 0x80 ≤ n ∧ n ≤ 0xfe then
    .lit "server selected private method " ++ .code n ++ .lit ", which is not supported"
  else .lit "server selected a method that was not offered"

inductive Socks5Status where
  | succeeded
  | generalFailure
  | notAllowed
  | networkUnreachable
  | hostUnreachable
  | connectionRefused
  | ttlExpired
  | commandNotSupported
  | addressTypeNotSupported
  deriving DecidableEq, Repr

namespace Socks5Status

def all : List Socks5Status :=
  [succeeded, generalFailure, notAllowed, networkUnreachable, hostUnreachable, connectionRefused, ttlExpired,
    commandNotSupported, addressTypeNotSupported]

def code : Socks5Status → UInt8
  | succeeded => 0
  | generalFailure => 1
  | notAllowed => 2
  | networkUnreachable => 3
  | hostUnreachable => 4
  | connectionRefused => 5
  | ttlExpired => 6
  | commandNotSupported => 7
  | addressTypeNotSupported => 8

def ofCode? (c : UInt8) : Option Socks5Status := all.find? fun s => s.code == c

/-- Why a request is rejected; nothing for one that succeeded. -/
def reason? : Socks5Status → Option Text
  | succeeded => none
  | generalFailure => some (.lit "general SOCKS server failure")
  | notAllowed => some (.lit "connection not allowed by ruleset")
  | networkUnreachable => some (.lit "network unreachable")
  | hostUnreachable => some (.lit "host unreachable")
  | connectionRefused => some (.lit "connection refused")
  | ttlExpired => some (.lit "TTL expired")
  | commandNotSupported => some (.lit "command not supported")
  | addressTypeNotSupported => some (.lit "address type not supported")

@[simp] theorem ofCode?_code (s : Socks5Status) : ofCode? s.code = some s := by cases s <;> rfl

theorem ofCode?_eq_some {c : UInt8} {s : Socks5Status} (h : ofCode? c = some s) : s.code = c := by
  simpa using List.find?_some h

end Socks5Status

end SocksTunnel
