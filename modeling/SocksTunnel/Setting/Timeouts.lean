import SocksTunnel.Setting.Coding

/-
  SocksTunnel.Setting.Timeouts — timeouts from settings: three numbers in the order of
  the phases, one number for all phases, text, or timeouts of which some are replaced.
  The first phase whose number is refused decides the fault.

  Proved: the durations of accepted numbers are theirs (`duration_real`), and replacing
  nothing changes nothing (`replaced_nil`).
-/

namespace SocksTunnel

namespace Value

/-- The duration of a phase, from a number. -/
def duration (p : Phase) (v : Value) : Except Fault Duration :=
  match v with
  | int n =>
    match Binary64.ofInt? n with
    | none => .error .tooLarge
    | some x =>
      match Duration.ofNumber? x with
      | some d => .ok d
      | none => .error (.timeoutRange p v)
  | real x =>
    match Duration.ofNumber? x with
    | some d => .ok d
    | none => .error (.timeoutRange p v)
  | v => .error (.timeoutType p v)

/-- A phase by its number. -/
def phase : Value → Except Fault Phase
  | timeouts _ => .error .wrongType
  | v =>
    match Phase.all.find? fun p => sameWhole p.code v with
    | some p => .ok p
    | none => .error (.unknownPhase v)

/-- Timeouts of three numbers. -/
def timeoutsOf (c w r : Value) : Except Fault Timeouts := do
  let c ← c.duration .connect
  let w ← w.duration .write
  let r ← r.duration .read
  .ok ⟨c, w, r⟩

def timeoutsOfList : List Value → Except Fault Timeouts
  | [c, w, r] => timeoutsOf c w r
  | _ => .error .wrongType

/-- Timeouts written as text; no number has a surrogate. -/
def readTimeouts : Value → Except Failure Timeouts
  | text t =>
    match Timeouts.parse? t with
    | some s => .ok s
    | none => .error (.wrong .timeouts t)
  | broken b => .error (.configuration ⟨.timeouts, broken b⟩)
  | bytes _ => .error (.fault .wrongType)
  | _ => .error (.fault .noSuchPart)

/-- A setting under the name of a phase. -/
def named? (fields : List (Text × Value)) (p : Phase) : Option Value := fields.lookup (.lit p.name)

theorem duration_real {p : Phase} {x : Binary64} {d : Duration} (h : (real x).duration p = .ok d) : d.number = x := by
  simp only [duration] at h
  split at h
  · rename_i e he
    cases h
    exact Duration.ofNumber?_eq_some he
  · cases h

end Value

namespace Timeouts

/-- The setting of a phase, from `fields` or as it is. -/
def setting (t : Timeouts) (fields : List (Text × Value)) (p : Phase) : Value :=
  (Value.named? fields p).getD (.real (t.get p).number)

/-- The timeouts with the named phases replaced; the names have to be those of phases. -/
def replaced (t : Timeouts) (fields : List (Text × Value)) : Except Fault Timeouts := do
  let s ← Value.timeoutsOf (t.setting fields .connect) (t.setting fields .write) (t.setting fields .read)
  match (fields.map (·.1)).filter fun n => !Phase.all.any fun p => Text.lit p.name == n with
  | [] => .ok s
  | names => .error (.unknownFields names)

theorem duration_number (p : Phase) (d : Duration) : (Value.real d.number).duration p = .ok d := by
  have h : Duration.ofNumber? d.number = some d := by
    unfold Duration.ofNumber?
    rw [dif_pos ⟨d.isFinite, d.notNegative⟩]
  simp [Value.duration, h]

theorem replaced_nil (t : Timeouts) : t.replaced [] = .ok t := by
  simp [replaced, setting, Value.named?, Value.timeoutsOf, duration_number, get, bind, Except.bind]

end Timeouts

end SocksTunnel
