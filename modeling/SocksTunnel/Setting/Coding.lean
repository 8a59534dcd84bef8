import SocksTunnel.Failure.Handshake

/-
  SocksTunnel.Setting.Coding — a setting as text or as data, in UTF-8. Whole numbers
  become their digits, data is decoded to text and text encoded to data; all else stays
  as it is. Broken text has no octets.

  Proved: text is its own text, and data its own data (`toText_text`, `toBytes_bytes`),
  every text becomes data (`toBytes_text`), and nothing but broken text does not
  (`toBytes_eq_error_iff`).
-/

namespace SocksTunnel.Value

/-- The digits of a whole number, or the word of a truth value. -/
def digits? : Value → Option Text
  | bool b => some (bool b).shown
  | int n => some (.ofInt n)
  | _ => none

/-- A setting that should be text. -/
def toText : Value → Except Fault Value
  | bytes b =>
    match Text.ofUtf8 b with
    | .ok t => .ok (text t)
    | .error u => .error (.coding (.undecodable u))
  | v =>
    match v.digits? with
    | some t => .ok (text t)
    | none => .ok v

/-- A setting that should be data. Every character has octets, and no surrogate has. -/
def toBytes : Value → Except Fault Value
  | text t => .ok (bytes (Text.utf8 t))
  | broken b => .error (.coding (.unencodable b.refusal))
  | v =>
    match v.digits? with
    | some t => .ok (bytes (Text.utf8 t))
    | none => .ok v

@[simp] theorem toText_text (t : Text) : (text t).toText = .ok (text t) := rfl

@[simp] theorem toBytes_bytes (b : Bytes) : (bytes b).toBytes = .ok (bytes b) := rfl

@[simp] theorem toBytes_text (t : Text) : (text t).toBytes = .ok (bytes (Text.utf8 t)) := rfl

/-- Nothing but broken text fails to be data. -/
theorem toBytes_eq_error_iff {v : Value} {f : Fault} :
    v.toBytes = .error f ↔ ∃ b, v = broken b ∧ f = .coding (.unencodable b.refusal) := by
  cases v <;> simp [toBytes, digits?, eq_comm]

end SocksTunnel.Value
