import SocksTunnel.Failure.Fault

/-
  SocksTunnel.Setting.Number — a setting as a number. Truth values count as one and zero,
  addresses as the numbers of their octets; a number with a fraction loses it where a
  whole number is written.

  Proved: a whole number stands for itself (`truncated_int`, `index_int`).
-/

namespace SocksTunnel.Value

/-- The whole number that a setting is written as. -/
def truncated : Value → Except Fault Int
  | bool b => .ok (if b then 1 else 0)
  | int n => .ok n
  | real x => if x.isNaN then .error .notANumber else if x.isFinite then .ok x.truncate else .error .tooLarge
  | ipv4 a => .ok a.toNat
  | ipv6 a => .ok a.toNat
  | _ => .error .wrongType

/-- The whole number that a setting is. -/
def index (v : Value) : Except Fault Int :=
  match v.whole? with
  | some n => .ok n
  | none => .error .wrongType

/-- The number that a setting is, rounded where it is a long whole number. -/
def number : Value → Except Fault Binary64
  | real x => .ok x
  | v =>
    match v.whole? with
    | none => .error .wrongType
    | some n =>
      match Binary64.ofInt? n with
      | some x => .ok x
      | none => .error .tooLarge

/-- The sum of a whole number and a number. -/
def plus (n : Int) : Value → Except Fault Value
  | real x =>
    if x.isFinite then
      let sum := n + x.value
      .ok (real (.ofRatio (sum < 0) sum.num.natAbs sum.den))
    else .ok (real x)
  | v => (v.index).map fun m => int (n + m)

/-- Whether a number lies between two whole numbers. -/
def isWithin (low high : Int) : Value → Except Fault Bool
  | real x => .ok (x.isFinite && decide ((low : Rat) ≤ x.value ∧ x.value ≤ (high : Rat)))
  | v => (v.index).map fun n => decide (low ≤ n ∧ n ≤ high)

@[simp] theorem truncated_int (n : Int) : (int n).truncated = .ok n := rfl

@[simp] theorem index_int (n : Int) : (int n).index = .ok n := rfl

end SocksTunnel.Value
