import SocksTunnel.Failure.Fault

/-
  SocksTunnel.Setting.Sequence — a setting with parts: text has its signs, data its
  octets, a list or tuple its items, and timeouts their durations. The size of a
  destination is that of its encoding, which has no parts of its own.

  Proved: where a setting has parts, there are as many as its size
  (`length_elements`).
-/

namespace SocksTunnel.Value

def ofOctet (o : UInt8) : Value := int o.toNat

/-- The number of parts of a setting. -/
def size? : Value → Option Nat
  | text t => some t.length
  | broken b => some b.signs.length
  | bytes b => some b.length
  | list items => some items.length
  | tuple items => some items.length
  | timeouts t => some t.toList.length
  | destination d => some d.length
  | _ => none

def size (v : Value) : Except Fault Nat :=
  match v.size? with
  | some n => .ok n
  | none => .error .wrongType

def elements? : Value → Option (List Value)
  | text t => some (t.map fun c => text [c])
  | broken b => some (b.signs.map fun s => ofSigns [s])
  | bytes b => some (b.map ofOctet)
  | list items => some items
  | tuple items => some items
  | timeouts t => some (t.toList.map fun d => real d.number)
  | _ => none

def elements (v : Value) : Except Fault (List Value) :=
  match v.elements? with
  | some items => .ok items
  | none => .error .wrongType

/-- The parts behind the first ones and before the last ones, in a setting of the same kind. -/
def slice (first last : Nat) (v : Value) : Except Fault Value :=
  let cut {α : Type} (items : List α) : List α := (items.take (items.length - last)).drop first
  match v with
  | text t => .ok (text (cut t))
  | broken b => .ok (ofSigns (cut b.signs))
  | bytes b => .ok (bytes (cut b))
  | list items => .ok (list (cut items))
  | v => do .ok (tuple (cut (← v.elements)))

theorem length_elements {v : Value} {items : List Value} (h : v.elements? = some items) : v.size? = some items.length := by
  cases v <;> simp_all [elements?, size?] <;> subst h <;> simp

end SocksTunnel.Value
