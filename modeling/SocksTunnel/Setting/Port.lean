import SocksTunnel.Setting.Coding
import SocksTunnel.Setting.Number

/-
  SocksTunnel.Setting.Port — ports, and a host and port in one text. A port is a whole
  number from 0 to 65535; as text it may have blanks, a sign and underscores as any
  integer. Square brackets keep the colons of a host apart from the one before the port.

  Proved: a port that is accepted is the number that was given (`port_eq_ok`), the number of a
  port is accepted (`port_toNat`), and a port that is read from text is the integer of that text
  (`readPort_eq_ok`).
-/

namespace SocksTunnel

/-- A whole number of 16 bits. -/
abbrev Port := UInt16

namespace Value

def maxPort : Int := 65535

def portOfInt (n : Int) : Except Fault Port :=
  if 0 ≤ n ∧ n ≤ maxPort then .ok (UInt16.ofNat n.toNat) else .error (.portRange n)

/-- A port given as a number. -/
def port : Value → Except Fault Port
  | int n => portOfInt n
  | v => .error (.portType v)

/-- Text of data in ASCII. -/
def asciiText? (b : Bytes) : Option Text :=
  if b.all (· < 0x80) then some (b.map fun o => Char.ofNat o.toNat) else none

/-- The whole number that a setting stands for: none where its form is wrong, a fault where its type is. -/
def readWhole : Value → Except Fault (Option Int)
  | text t => .ok (Text.readInt? t)
  | broken _ => .ok none
  | bytes b => .ok ((asciiText? b).bind Text.readInt?)
  | v =>
    match v.truncated with
    | .ok n => .ok (some n)
    | .error f => if f.isBadValue then .ok none else .error f

/-- A port given as text or in any other form that can be read as a number. -/
def readPort (v : Value) : Except Failure Port :=
  match v.readWhole with
  | .error f => .error (.fault f)
  | .ok none => .error (.configuration ⟨.port, v⟩)
  | .ok (some n) =>
    match portOfInt n with
    | .ok p => .ok p
    | .error _ => .error (.configuration ⟨.port, v⟩)

/-- Host and port around the last colon of text or signs. A host that has colons stands between brackets. -/
def splitAround {α : Type} [DecidableEq α] (colon opening closing : α) (setting : List α → Value) (t : List α) :
    Except Failure (List α × Port) :=
  match Text.cutLast colon t with
  | none => .error (.configuration ⟨.address, setting t⟩)
  | some ([], _) => .error (.configuration ⟨.address, setting t⟩)
  | some (host, p) =>
    if host.head? = some opening ∧ host.getLast? = some closing then
      (readPort (setting p)).map fun p => (host.tail.dropLast, p)
    else if colon ∈ host then .error (.configuration ⟨.address, setting t⟩)
    else (readPort (setting p)).map fun p => (host, p)

/-- Host and port of text. -/
def splitHostPort (t : Text) : Except Failure (Text × Port) := splitAround ':' '[' ']' text t

/-- Host and port of a setting, which has to be text or broken text. -/
def hostPort : Value → Except Failure (Value × Port)
  | text t => (splitHostPort t).map fun (host, p) => (text host, p)
  | broken b =>
    (splitAround (.char ':') (.char '[') (.char ']') ofSigns b.signs).map fun (host, p) => (ofSigns host, p)
  | bytes _ => .error (.fault .wrongType)
  | _ => .error (.fault .noSuchPart)

theorem portOfInt_eq_ok {n : Int} {p : Port} (h : portOfInt n = .ok p) : (p.toNat : Int) = n := by
  unfold portOfInt at h
  split at h
  · rename_i hn
    obtain ⟨h0, h1⟩ := hn
    simp only [maxPort] at h1
    cases h
    simp only [UInt16.toNat_ofNat']
    omega
  · cases h

theorem port_eq_ok {v : Value} {p : Port} (h : v.port = .ok p) : v = int p.toNat := by
  unfold port at h
  split at h
  · rw [portOfInt_eq_ok h]
  · cases h

theorem port_toNat (p : Port) : (int p.toNat).port = .ok p := by
  have h := p.toNat_lt
  rw [port, portOfInt, if_pos (by simp only [maxPort]; omega)]
  simp

theorem readPort_eq_ok {t : Text} {p : Port} (h : readPort (text t) = .ok p) : t.readInt? = some (p.toNat : Int) := by
  simp only [readPort, readWhole] at h
  cases hr : t.readInt? with
  | none => simp [hr] at h
  | some n =>
    simp only [hr] at h
    cases hp : portOfInt n with
    | ok q =>
      simp only [hp, Except.ok.injEq] at h
      subst h
      rw [portOfInt_eq_ok hp]
    | error f => simp [hp] at h

end Value

end SocksTunnel
