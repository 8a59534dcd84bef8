import SocksTunnel.Text.Sign

/-
  SocksTunnel.Coding.Defect — text and octets stand for each other in a coding. Where some
  octets stand for no character, or some characters have no octets, there is a defect: the
  coding, the place, what stands there, and why.

  Text has characters alone, but what is read from octets may hold surrogates where its reader
  asks for them, and what is written may be signs of which some are surrogates.

  A coding and a policy for its defects are found by name, and either may be unknown or of
  the wrong kind.

  Proved: the place of a defect of one octet is one position (`place_one`).
-/

namespace SocksTunnel

/-- Why some octets or characters have no counterpart. -/
inductive Defect where
  | invalidStart
  | invalidContinuation
  | endOfData
  | ordinal (limit : Nat)
  | unmapped
  | truncated
  | unpairedLow
  | unpairedHigh
  | surrogateCode
  | loneSurrogate
  | codeRange
  | unexpectedCharacter
  | illFormed
  | partialCharacter
  | paddingBits
  | unterminatedShift
  | truncatedEscape (form : String)
  | illegalCharacter
  | malformedName
  | unknownName
  | trailingBackslash
  | escapeRange
  | illegalSequence
  | incompleteSequence
  deriving DecidableEq, Repr

def Defect.message : Defect → String
  | invalidStart => "invalid start byte"
  | invalidContinuation => "invalid continuation byte"
  | endOfData => "unexpected end of data"
  | ordinal limit => s!"ordinal not in range({limit})"
  | unmapped => "character maps to <undefined>"
  | truncated => "truncated data"
  | unpairedLow => "illegal encoding"
  | unpairedHigh => "illegal UTF-16 surrogate"
  | surrogateCode => "code point in surrogate code point range(0xd800, 0xe000)"
  | loneSurrogate => "surrogates not allowed"
  | codeRange => "code point not in range(0x110000)"
  | unexpectedCharacter => "unexpected special character"
  | illFormed => "ill-formed sequence"
  | partialCharacter => "partial character in shift sequence"
  | paddingBits => "non-zero padding bits in shift sequence"
  | unterminatedShift => "unterminated shift sequence"
  | truncatedEscape form => "truncated \\" ++ form ++ " escape"
  | illegalCharacter => "illegal Unicode character"
  | malformedName => "malformed \\N character escape"
  | unknownName => "unknown Unicode character name"
  | trailingBackslash => "\\ at end of string"
  | escapeRange => "\\Uxxxxxxxx out of range"
  | illegalSequence => "illegal multibyte sequence"
  | incompleteSequence => "incomplete multibyte sequence"

/-- The octets at position `start` that stand for no character. -/
structure Undecodable where
  codec : String
  octets : Bytes
  start : Nat
  defect : Defect
  deriving DecidableEq, Repr

/-- The signs at position `start` that have no octets. -/
structure Unencodable where
  codec : String
  signs : List Sign
  start : Nat
  defect : Defect
  deriving DecidableEq, Repr

/-- One position, or the first and the last of several. -/
def place (start count : Nat) : String :=
  if count ≤ 1 then s!"position {start}" else s!"position {start}-{start + count - 1}"

def Undecodable.message (u : Undecodable) : String :=
  let what := match u.octets with
    | [b] => s!"byte 0x{Text.str (Text.hex 2 b.toNat)}"
    | _ => "bytes"
  s!"'{u.codec}' codec can't decode {what} in {place u.start u.octets.length}: {u.defect.message}"

def Unencodable.message (u : Unencodable) : String :=
  let what := match u.signs with
    | [s] => s!"character '{Text.str (Text.escapeCode s.code)}'"
    | _ => "characters"
  s!"'{u.codec}' codec can't encode {what} in {place u.start u.signs.length}: {u.defect.message}"

/-- Why text or octets are not read or written in a coding. -/
inductive CodingError where
  | undecodable (u : Undecodable)
  | unencodable (u : Unencodable)
  | nullInName
  | unknownCodec (name : Text)
  | unknownPolicy (name : Text)
  | unknownPolicyIn (coding : Text) (isReading : Bool) (name : Text)
  | notText (name : Text) (isReading : Bool)
  | unsuitedPolicy
  | refused (reason : Text)
  | unstable (given made : Bytes)
  deriving DecidableEq, Repr

/-- How a failure of a known kind within a coding is told. -/
def withinText (coding : Text) (isReading : Bool) (kind : String) (reason : Text) : Text :=
  let action := if isReading then "decoding" else "encoding"
  .lit s!"{action} with '" ++ coding ++ .lit s!"' codec failed ({kind}: " ++ reason ++ [')']

def unknownPolicyText (name : Text) : Text := .lit "unknown error handler name '" ++ name ++ ['\'']

def CodingError.message : CodingError → Text
  | undecodable u => .lit u.message
  | unencodable u => .lit u.message
  | nullInName => .lit "embedded null character"
  | unknownCodec name => .lit "unknown encoding: " ++ name
  | unknownPolicy name => unknownPolicyText name
  | unknownPolicyIn coding isReading name => withinText coding isReading "LookupError" (unknownPolicyText name)
  | notText name isReading =>
    let action := if isReading then "decode" else "encode"
    '\'' :: name ++ .lit s!"' is not a text encoding; use codecs.{action}() to handle arbitrary codecs"
  | unsuitedPolicy => []
  | refused reason => reason
  | unstable given made =>
    .lit "('IDNA does not round-trip', " ++ Text.quotedBytes given ++ .lit ", " ++ Text.quotedBytes made ++ [')']

/-- An error within a coding, with the name of the coding. -/
def CodingError.within (coding : Text) (isReading : Bool) : CodingError → CodingError
  | refused reason => refused (withinText coding isReading "UnicodeError" reason)
  | unknownPolicy name => unknownPolicyIn coding isReading name
  | e => e

theorem place_one (start : Nat) : place start 1 = s!"position {start}" := rfl

end SocksTunnel
