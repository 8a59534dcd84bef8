import SocksTunnel.Failure.Fault
import SocksTunnel.Text.Blank

/-
  SocksTunnel.Log.Level — the levels of the log. A level is a number, and five of them have a
  word. A setting names one of these five by its word or by the first letter of its word, in
  upper or lower case, blanks around it.

  Proved: the word of a level names it (`ofText?_name`), and a name is a whole word or
  one letter (`ofText?_eq_some`).
-/

namespace SocksTunnel

structure Level where
  number : Nat
  deriving DecidableEq, Repr

namespace Level

def debug : Level := ⟨10⟩

def info : Level := ⟨20⟩

def warning : Level := ⟨30⟩

def error : Level := ⟨40⟩

def critical : Level := ⟨50⟩

/-- The words of levels, by their numbers. -/
def words : List (Nat × String) := [(10, "DEBUG"), (20, "INFO"), (30, "WARNING"), (40, "ERROR"), (50, "CRITICAL")]

/-- The levels that have a word. -/
def all : List Level := [debug, info, warning, error, critical]

/-- The word of a level; a level without one is told by its number. -/
def name (l : Level) : String := (words.lookup l.number).getD s!"Level {l.number}"

/-- Upper case where that is a letter of ASCII; the dotless i is one of the two small forms of I. -/
def upper (c : Char) : Char := if c = 'ı' then 'I' else c.toUpper

/-- The level of a name in upper case. -/
def ofName? (t : Text) : Option Level :=
  all.find? fun l => Text.lit l.name == t || (Text.lit l.name).take 1 == t

def ofText? (t : Text) : Option Level := ofName? (t.trim.map upper)

/-- The level that a setting names. -/
def ofValue : Value → Except Fault Level
  | .text t =>
    match ofText? t with
    | some l => .ok l
    | none => .error (.logLevel (.text t))
  | .broken b => .error (.logLevel (.broken b))
  | .bytes b => .error (.logLevel (.bytes b))
  | _ => .error .noSuchPart

theorem ofText?_name {l : Level} (h : l ∈ all) : ofText? (Text.lit l.name) = some l := by
  revert l
  decide

theorem ofText?_eq_some {t : Text} {l : Level} (h : ofText? t = some l) :
    t.trim.map upper = Text.lit l.name ∨ t.trim.map upper = (Text.lit l.name).take 1 := by
  have h := List.find?_some h
  simp only [Bool.or_eq_true, beq_iff_eq] at h
  exact h.imp Eq.symm Eq.symm

end Level

end SocksTunnel
