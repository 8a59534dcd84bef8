import SocksTunnel.Failure.Handshake
import SocksTunnel.Setting.Number

/-
  SocksTunnel.Failure.Draft — errors whose parts are settings of any type. A draft has a
  message only if its parts can be written in their places: versions and counts as whole
  numbers, codes in hexadecimal digits, limits as numbers; a reason may be anything but
  timeouts, whose parts would not fit into one place.

  Proved: an error of a handshake and an error of a description have the messages of their
  drafts (`HandshakeError.message_draft`, `ConfigurationError.message_draft`).
-/

namespace SocksTunnel

inductive ErrorDraft where
  | general (words : Option Text)
  | timeout (phase limit : Value)
  | endOfStream (expected received : Value)
  | malformed (reason : Value)
  | rejected (version code reason : Value)
  | noMethod (method reason : Value)
  | transport (cause : PeerError) (isChained : Bool)
  | configuration (part : Option ConfigurationPart) (words : Option Text) (value : Value)
  deriving Repr

namespace Value

/-- The text of a setting that counts as given. -/
def given? (v : Value) : Option Text := if v.isGiven then some v.plain else none

/-- Whether a setting can be looked up in a table. -/
def isKey : Value → Bool
  | list _ => false
  | _ => true

/-- The name of a phase, if the setting is one. -/
def phaseName (v : Value) : String :=
  match Phase.all.find? fun p => sameWhole p.code v with
  | some p => p.name
  | none => "unknown"

end Value

namespace ErrorDraft

def rejection (version code reason : Value) : Except Fault Text := do
  let v ← version.truncated
  let c ← code.index
  .ok (HandshakeError.rejection v c reason.plain)

def configurationWords (part : Option ConfigurationPart) (words : Option Text) : Text :=
  match part with
  | some p => .lit p.words
  | none => words.getD (.lit "ConfigurationError")

def message : ErrorDraft → Except Fault Text
  | general words => .ok (words.getD (.lit "Reason unknown"))
  | timeout phase limit =>
    if phase.isKey then limit.number.map (HandshakeError.timeoutText phase.phaseName) else .error .wrongType
  | endOfStream expected received => do
    let r ← received.truncated
    let e ← expected.truncated
    .ok (HandshakeError.endText e r)
  | malformed (.timeouts _) => .error .wrongType
  | malformed reason => .ok (HandshakeError.malformedText reason.plain)
  | rejected version code reason => rejection version code reason
  | noMethod method reason => rejection (.int 5) method reason
  | transport cause _ => .ok (HandshakeError.transportText cause)
  | configuration part words value => .ok (configurationWords part words ++ .lit ": " ++ value.shown)

end ErrorDraft

/-- An error of a handshake with its parts as settings. -/
def HandshakeError.draft : HandshakeError → ErrorDraft
  | timeout phase limit => .timeout (.int phase.code) (.real limit.number)
  | endOfStream expected received => .endOfStream (.int expected) (.int received)
  | malformed d => .malformed (.text d.message)
  | rejected version code reason => .rejected (.int version) (.int code.toNat) (.text reason)
  | noMethod method reason => .noMethod (.int method.toNat) (.text reason)
  | transport cause => .transport cause true

def ConfigurationError.draft (e : ConfigurationError) : ErrorDraft := .configuration (some e.part) none e.value

theorem Value.phaseName_code (p : Phase) : (Value.int p.code).phaseName = p.name := by
  cases p <;> rfl

theorem HandshakeError.message_draft (e : HandshakeError) : e.draft.message = .ok e.message := by
  cases e with
  | timeout p limit =>
    simp only [draft, ErrorDraft.message, Value.phaseName_code]
    rfl
  | endOfStream _ _ => rfl
  | malformed _ => rfl
  | rejected _ _ _ => rfl
  | noMethod _ _ => rfl
  | transport _ => rfl

theorem ConfigurationError.message_draft (e : ConfigurationError) : e.draft.message = .ok e.message := rfl

end SocksTunnel
