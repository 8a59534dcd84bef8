import SocksTunnel.Coding.Codec
import SocksTunnel.Setting.Coding

/-
  SocksTunnel.Setting.Codec — a setting as text or as data in a coding that is named. The
  names matter only where something is read or written, and have to be text there.

  Proved: a setting that is neither data nor a number stays as it is, whatever the names
  (`decoded_nothing`, `decoded_text`).
-/

namespace SocksTunnel

/-- What a setting that should be text becomes. Codes that are read may be surrogates. -/
inductive Decoded where
  | codes (cs : List Code)
  | value (v : Value)
  deriving Repr

namespace Value

/-- The digits of a whole number, or the setting itself. -/
def withDigits (v : Value) : Value :=
  match v.digits? with
  | some t => text t
  | none => v

/-- A setting that should be text. -/
def decoded (v coding policy : Value) : Except Fault Decoded :=
  match v with
  | bytes b =>
    match coding, policy with
    | text c, text p => ((Text.decodeNamed c p b).mapError .coding).map .codes
    | _, _ => .error .wrongType
  | v => .ok (.value v.withDigits)

/-- A setting that should be data. -/
def encoded (v coding policy : Value) : Except Fault Value :=
  match v.withDigits.signs?, coding, policy with
  | some ss, text c, text p => ((Sign.encodeNamed c p ss).mapError .coding).map bytes
  | some _, _, _ => .error .wrongType
  | none, _, _ => .ok v.withDigits

theorem decoded_text (t : Text) (coding policy : Value) :
    (text t).decoded coding policy = .ok (.value (text t)) := rfl

theorem decoded_nothing (coding policy : Value) : nothing.decoded coding policy = .ok (.value nothing) := rfl

end Value

end SocksTunnel
