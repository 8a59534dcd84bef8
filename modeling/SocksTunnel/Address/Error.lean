import SocksTunnel.Text.Quoted

/-
  SocksTunnel.Address.Error — the two families of IP addresses, and why a number, some
  octets or a text are no address of a family. A message shows the text that was read;
  where a part of that text is wrong, the part comes first and the whole text after it. An
  error holds these texts as they are shown.

  Proved: the larger family has four times as many octets as the other
  (`octets_ipv6`).
-/

namespace SocksTunnel

inductive Family where
  | ipv4
  | ipv6
  deriving DecidableEq, Repr

namespace Family

def version : Family → Nat
  | ipv4 => 4
  | ipv6 => 6

/-- The number of octets of an address. -/
def octets : Family → Nat
  | ipv4 => 4
  | ipv6 => 16

/-- The number of bits of an address. -/
def bits (f : Family) : Nat := 8 * f.octets

end Family

inductive AddressError where
  | slash (whole : Text)
  | empty
  | octetCount (whole : Text)
  | emptyOctet (whole : Text)
  | octetDigits (octet whole : Text)
  | octetLength (octet whole : Text)
  | leadingZero (octet whole : Text)
  | octetRange (octet : Nat) (whole : Text)
  | partCount (whole : Text)
  | colonCount (whole : Text)
  | gapCount (whole : Text)
  | leadingColon (whole : Text)
  | trailingColon (whole : Text)
  | groupCount (whole : Text)
  | emptyGap (whole : Text)
  | groupDigits (group whole : Text)
  | groupLength (group whole : Text)
  | quad (e : AddressError) (whole : Text)
  | scope (whole : Text)
  | negative (f : Family) (n : Int)
  | tooLarge (f : Family) (n : Int)
  | octets (f : Family) (given : Bytes)
  deriving DecidableEq, Repr

namespace AddressError

/-- The end of a message about a number or some octets. -/
def notPermitted (f : Family) : Text := .lit s!" is not permitted as an IPv{f.version} address"

def message : AddressError → Text
  | slash whole => .lit "Unexpected '/' in " ++ whole
  | empty => .lit "Address cannot be empty"
  | octetCount whole => .lit "Expected 4 octets in " ++ whole
  | emptyOctet whole => .lit "Empty octet not permitted in " ++ whole
  | octetDigits octet whole => .lit "Only decimal digits permitted in " ++ octet ++ .lit " in " ++ whole
  | octetLength octet whole => .lit "At most 3 characters permitted in " ++ octet ++ .lit " in " ++ whole
  | leadingZero octet whole => .lit "Leading zeros are not permitted in " ++ octet ++ .lit " in " ++ whole
  | octetRange octet whole => .lit "Octet " ++ .ofNat octet ++ .lit " (> 255) not permitted in " ++ whole
  | partCount whole => .lit "At least 3 parts expected in " ++ whole
  | colonCount whole => .lit "At most 8 colons permitted in " ++ whole
  | gapCount whole => .lit "At most one '::' permitted in " ++ whole
  | leadingColon whole => .lit "Leading ':' only permitted as part of '::' in " ++ whole
  | trailingColon whole => .lit "Trailing ':' only permitted as part of '::' in " ++ whole
  | groupCount whole => .lit "Exactly 8 parts expected without '::' in " ++ whole
  | emptyGap whole => .lit "Expected at most 7 other parts with '::' in " ++ whole
  | groupDigits group whole => .lit "Only hex digits permitted in " ++ group ++ .lit " in " ++ whole
  | groupLength group whole => .lit "At most 4 characters permitted in " ++ group ++ .lit " in " ++ whole
  | quad e whole => e.message ++ .lit " in " ++ whole
  | scope whole => .lit "Invalid IPv6 address: \"" ++ whole ++ ['"']
  | negative f n => .ofInt n ++ .lit " (< 0)" ++ notPermitted f
  | tooLarge f n => .ofInt n ++ .lit s!" (>= 2**{f.bits})" ++ notPermitted f
  | octets f given =>
    Text.quotedBytes given ++ .lit s!" (len {given.length} != {f.octets})" ++ notPermitted f

end AddressError

theorem Family.octets_ipv6 : ipv6.octets = 4 * ipv4.octets := rfl

end SocksTunnel
