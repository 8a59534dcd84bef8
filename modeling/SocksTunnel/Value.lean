import SocksTunnel.Destination
import SocksTunnel.Timeouts

/-
  SocksTunnel.Value — settings as callers give them, before anyone has checked their type:
  numbers, text, data, lists, tuples, addresses, timeouts, destinations, or nothing. Text that a
  system hands over may be broken.

  Numbers of all types compare by value, so that true, 1 and 1.0 are the same.

  Proved: a whole number is the same as another only if it is that number
  (`same_int_iff`), and signs are text or broken text of these signs (`ofSigns_signs`,
  `ofSigns_broken`).
-/

namespace SocksTunnel

inductive Value where
  | nothing
  | bool (b : Bool)
  | int (n : Int)
  | real (x : Binary64)
  | text (t : Text)
  | broken (b : BrokenText)
  | bytes (b : Bytes)
  | list (items : List Value)
  | tuple (items : List Value)
  | ipv4 (a : Ipv4)
  | ipv6 (a : Ipv6)
  | timeouts (t : Timeouts)
  | destination (d : Destination)
  deriving Repr

namespace Value

/-! ## Text -/

mutual

/-- How messages show a value. -/
def shown : Value → Text
  | nothing => .lit "None"
  | bool true => .lit "True"
  | bool false => .lit "False"
  | int n => .ofInt n
  | real x => x.text
  | text t => t.quoted
  | broken b => b.quoted
  | bytes b => Text.quotedBytes b
  | list items => '[' :: shownItems items ++ [']']
  | tuple items => '(' :: shownItems items ++ (if items.length = 1 then [',', ')'] else [')'])
  | ipv4 a => .lit "IPv4Address(" ++ a.text.quoted ++ [')']
  | ipv6 a => .lit "IPv6Address(" ++ a.text.quoted ++ [')']
  | timeouts t => t.shown
  | destination d => d.shown

def shownItems : List Value → Text
  | [] => []
  | [v] => shown v
  | v :: r => shown v ++ .lit ", " ++ shownItems r

end

/-- The text of a value: text and addresses as they are, and broken text as a terminal shows it. -/
def plain : Value → Text
  | text t => t
  | broken b => b.plain
  | ipv4 a => a.text
  | ipv6 a => a.text
  | timeouts t => t.text
  | destination d => d.text
  | v => v.shown

/-- The text of settings that are given in a row: a single one is its own text. -/
def words : List Value → Text
  | [] => []
  | [v] => v.plain
  | vs => (tuple vs).shown

/-- Signs as a setting: text, unless a surrogate is among them. -/
def ofSigns (ss : List Sign) : Value :=
  match h : Text.ofSigns? ss with
  | some t => text t
  | none => broken ⟨ss, h⟩

/-- The signs of a setting, if it is text or broken text. -/
def signs? : Value → Option (List Sign)
  | text t => some t.signs
  | broken b => some b.signs
  | _ => none

/-! ## Classes -/

/-- Whether a value counts as given: not nothing, not zero and not empty. -/
def isGiven : Value → Bool
  | nothing => false
  | bool b => b
  | int n => n != 0
  | real x => x.isNaN || x.magnitude != 0
  | text t => !t.isEmpty
  | bytes b => !b.isEmpty
  | list items => !items.isEmpty
  | tuple items => !items.isEmpty
  | _ => true

/-- The number that a truth value counts as, or a whole number. -/
def whole? : Value → Option Int
  | bool b => some (if b then 1 else 0)
  | int n => some n
  | _ => none

/-- Whether a value is this whole number. -/
def sameWhole (n : Int) : Value → Bool
  | bool b => n == if b then 1 else 0
  | int m => n == m
  | real x => x.sameInt n
  | _ => false

/-- Whether a value is this number. -/
def sameReal (x : Binary64) : Value → Bool
  | bool b => x.sameInt (if b then 1 else 0)
  | int n => x.sameInt n
  | real y => x.same y
  | _ => false

mutual

def same : Value → Value → Bool
  | bool a, v => sameWhole (if a then 1 else 0) v
  | int n, v => sameWhole n v
  | real x, v => sameReal x v
  | nothing, nothing => true
  | text s, text t => s == t
  | broken a, broken b => a == b
  | bytes a, bytes b => a == b
  | list a, list b => sameItems a b
  | tuple a, tuple b => sameItems a b
  | ipv4 a, ipv4 b => a == b
  | ipv6 a, ipv6 b => a == b
  | timeouts s, timeouts t => s.same t
  | destination d, destination e => d == e
  | _, _ => false

def sameItems : List Value → List Value → Bool
  | [], [] => true
  | a :: r, b :: s => same a b && sameItems r s
  | _, _ => false

end

@[simp] theorem ofSigns_signs (t : Text) : ofSigns t.signs = text t := by
  unfold ofSigns
  split
  · rename_i u hu
    rw [Text.ofSigns?_signs] at hu
    cases hu
    rfl
  · rename_i hnone
    rw [Text.ofSigns?_signs] at hnone
    cases hnone

@[simp] theorem ofSigns_broken (b : BrokenText) : ofSigns b.signs = broken b := by
  unfold ofSigns
  split
  · rename_i t ht
    rw [b.isBroken] at ht
    cases ht
  · rfl

/-- A setting has signs exactly if it is the setting of these signs. -/
theorem signs?_eq_some_iff {v : Value} {ss : List Sign} : v.signs? = some ss ↔ v = ofSigns ss := by
  constructor
  · intro h
    cases v with
    | text t =>
      cases h
      exact (ofSigns_signs t).symm
    | broken b =>
      cases h
      exact (ofSigns_broken b).symm
    | _ => cases h
  · rintro rfl
    unfold ofSigns
    split
    · rename_i t ht
      exact congrArg some (Text.ofSigns?_eq_some_iff.mp ht).symm
    · rfl

@[simp] theorem signs?_ofSigns (ss : List Sign) : (ofSigns ss).signs? = some ss := signs?_eq_some_iff.mpr rfl

theorem ofSigns_ne {v : Value} (h : v.signs? = none) (ss : List Sign) : ofSigns ss ≠ v := by
  rintro rfl
  rw [signs?_ofSigns] at h
  cases h

theorem same_int_iff {n m : Int} : same (int n) (int m) = true ↔ n = m := by
  simp [same, sameWhole]

end Value

end SocksTunnel
