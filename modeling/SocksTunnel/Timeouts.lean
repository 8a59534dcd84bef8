import SocksTunnel.Decimal.Shortest
import SocksTunnel.Decimal.Reading

/-
  SocksTunnel.Timeouts — three durations in seconds, one for each phase of the
  connection to a proxy: connecting, each write and each read. What one phase leaves
  over is never given to another.

  Proved: what is read from text has the durations of its three parts
  (`parse?_eq_some`).
-/

namespace SocksTunnel

inductive Phase where
  | connect
  | write
  | read
  deriving DecidableEq, Repr

namespace Phase

def all : List Phase := [connect, write, read]

def code : Phase → Int
  | connect => 1
  | write => 2
  | read => 3

def ofCode? (n : Int) : Option Phase := all.find? fun p => p.code == n

def name : Phase → String
  | connect => "connect"
  | write => "write"
  | read => "read"

@[simp] theorem ofCode?_code (p : Phase) : ofCode? p.code = some p := by cases p <;> rfl

end Phase

/-- A finite number of seconds, not below zero. -/
structure Duration where
  number : Binary64
  isFinite : number.isFinite = true
  notNegative : number.isNegative = false
  deriving DecidableEq, Repr

namespace Duration

def ofNumber? (x : Binary64) : Option Duration :=
  if h : x.isFinite = true ∧ x.isNegative = false then some ⟨x, h.1, h.2⟩ else none

/-- The duration in seconds, exactly. -/
def seconds (d : Duration) : Rat := d.number.value

def text (d : Duration) : Text := d.number.shortText

def same (d e : Duration) : Bool := d.number.same e.number

/-- Ten seconds. -/
def ten : Duration := ⟨⟨0x4024000000000000⟩, by decide +kernel, by decide +kernel⟩

/-- Whether an operation with this limit fails before it starts. -/
def isZero (d : Duration) : Bool := d.number.magnitude == 0

theorem ofNumber?_eq_some {x : Binary64} {d : Duration} (h : ofNumber? x = some d) : d.number = x := by
  unfold ofNumber? at h
  split at h
  · cases h; rfl
  · cases h

end Duration

structure Timeouts where
  connect : Duration
  write : Duration
  read : Duration
  deriving DecidableEq, Repr

namespace Timeouts

def get (t : Timeouts) : Phase → Duration
  | .connect => t.connect
  | .write => t.write
  | .read => t.read

def set (t : Timeouts) (d : Duration) : Phase → Timeouts
  | .connect => { t with connect := d }
  | .write => { t with write := d }
  | .read => { t with read := d }

def uniform (d : Duration) : Timeouts := ⟨d, d, d⟩

def toList (t : Timeouts) : List Duration := [t.connect, t.write, t.read]

/-- The durations between colons. -/
def text (t : Timeouts) : Text := [':'].intercalate (t.toList.map Duration.text)

/-- How messages name the timeouts. -/
def shown (t : Timeouts) : Text :=
  .lit "ConnectionTimeouts(connect=" ++ t.connect.number.text ++ .lit ", write=" ++ t.write.number.text ++
    .lit ", read=" ++ t.read.number.text ++ [')']

def same (s t : Timeouts) : Bool :=
  s.connect.same t.connect && s.write.same t.write && s.read.same t.read

def duration? (t : Text) : Option Duration := (Text.readReal? t).bind Duration.ofNumber?

/-- Three durations between colons, blanks around them. -/
def parse? (t : Text) : Option Timeouts :=
  match t.trim.splitOn ':' with
  | [c, w, r] => do some ⟨← duration? c, ← duration? w, ← duration? r⟩
  | _ => none

theorem parse?_eq_some {t : Text} {s : Timeouts} (h : parse? t = some s) :
    ∃ c w r, t.trim.splitOn ':' = [c, w, r] ∧ duration? c = some s.connect ∧ duration? w = some s.write ∧
      duration? r = some s.read := by
  unfold parse? at h
  split at h
  · rename_i c w r hs
    simp only [bind, Option.bind_eq_some_iff, Option.some.injEq] at h
    obtain ⟨c', hc, w', hw, r', hr, rfl⟩ := h
    exact ⟨c, w, r, hs, hc, hw, hr⟩
  · cases h

end Timeouts

end SocksTunnel
