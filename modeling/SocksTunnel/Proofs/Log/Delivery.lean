import SocksTunnel.Proofs.Log.Content

/-
  SocksTunnel.Proofs.Log.Delivery — where records go over a history of set-ups and records. The
  last set-up that succeeded tells the level, the layout and the one destination of records
  that come after it; a set-up that fails tells nothing. What the disk makes of names may
  change between the steps.

  An account runs beside the log. It keeps the settings in force and the lines that records
  are owed under them, and knows nothing of handlers.

  Proved: once a set-up has succeeded there is one handler and it is that of the last such
  set-up. Each destination holds what it held at first and then the lines that it was owed, in
  order and nothing else (`delivers`).
-/

namespace SocksTunnel.Log

/-! ## Histories -/

/-- Something that happens to a log. -/
inductive Step where
  | setup (file level layout : Value)
  | record (r : Record)
  /-- From here on names lead to these files, of which other ones can be opened. -/
  | disk (d : Disk)

def Step.run : Step → Log → Log
  | setup file level layout, l => (l.setup file level layout).2
  | record r, l => l.write r
  | disk d, l => { l with disk := d }

def run (steps : List Step) (l : Log) : Log := steps.foldl (fun l s => s.run l) l

/-- The settings in force: no sink before the first set-up that succeeds. -/
structure Regime where
  level : Level
  sink : Option Sink
  deriving DecidableEq

/-- What a set-up asks for, if its settings are in order. -/
def asked (d : Disk) (file level layout : Value) : Option Regime := do
  let level ← (Level.ofValue level).toOption
  let name ← (nameOf d file).toOption
  let layout ← (layoutOf layout).toOption
  some ⟨level, some ⟨destination d name, layout⟩⟩

/-- A line and its destination. -/
abbrev Delivery := Option File × Text

/-- What no handler writes goes to the terminal as a bare message, if it is a warning or worse. -/
def bare (r : Record) : Option Delivery :=
  if Level.warning.number ≤ r.level.number then some (none, r.message ++ ['\n']) else none

namespace Regime

/-- What a record is owed: one line at one destination, or nothing. -/
def delivery (g : Regime) (r : Record) : Option Delivery :=
  if !isOwn r.source then bare r
  else if r.level.number < g.level.number then none
  else
    match g.sink with
    | some s => some (s.file, (s.line r).getD [] ++ ['\n'])
    | none => bare r

/-- Whether a record can be laid out, if it is to be written. -/
def fits (g : Regime) (r : Record) : Bool :=
  !isOwn r.source || decide (r.level.number < g.level.number) || g.sink.all fun s => (s.line r).isSome

end Regime

/-- A log, the settings in force and what was delivered so far. -/
structure Account where
  log : Log
  regime : Regime
  delivered : List Delivery

namespace Account

def next (a : Account) (s : Step) : Account :=
  match s with
  | .record r => ⟨s.run a.log, a.regime, a.delivered ++ (a.regime.delivery r).toList⟩
  | .setup file level layout =>
    if (a.log.setup file level layout).1.isOk then
      ⟨s.run a.log, (asked a.log.disk file level layout).getD a.regime, a.delivered⟩
    else ⟨s.run a.log, a.regime, a.delivered⟩
  | .disk _ => ⟨s.run a.log, a.regime, a.delivered⟩

def after (a : Account) (steps : List Step) : Account := steps.foldl next a

def start (l : Log) : Account := ⟨l, ⟨l.level, none⟩, []⟩

/-- Whether the settings in force fit the records that come. -/
def fits (a : Account) : List Step → Bool
  | [] => true
  | s :: steps =>
    (match s with
      | .record r => a.regime.fits r
      | _ => true) && (a.next s).fits steps

end Account

/-- The lines of a destination. -/
def linesAt (d : Option File) (ds : List Delivery) : Text := (ds.filter fun x => x.1 == d).flatMap Prod.snd

theorem linesAt_concat (d : Option File) (ds : List Delivery) (x : Delivery) :
    linesAt d (ds ++ [x]) = linesAt d ds ++ if d = x.1 then x.2 else [] := by
  rw [linesAt, List.filter_append, List.flatMap_append]
  by_cases h : d = x.1
  · simp [linesAt, h]
  · simp [linesAt, h, Ne.symm h]

/-! ## One handler -/

variable {l : Log}

/-- The handlers are those of the settings in force: none, or the one of the last set-up. -/
def Holds (l : Log) : Option Sink → Prop
  | none => l.handlers = []
  | some s => ∃ h, l.handlers = [h] ∧ l.current = some h ∧ h.sink = s

theorem Holds.congr {k : Log} {s : Option Sink} (h : k.handlers = l.handlers) (hc : k.current = l.current) (hl : l.Holds s) :
    k.Holds s := by
  cases s with
  | none => exact h.trans hl
  | some s =>
    obtain ⟨x, hx, hcurrent, rfl⟩ := hl
    exact ⟨x, h.trans hx, hc.trans hcurrent, rfl⟩

/-- The handler of the last set-up gives way to the new one. -/
theorem holds_replace {s : Option Sink} (hl : l.Holds s) (t : Sink) : (l.replace t).Holds (some t) := by
  refine ⟨⟨l.made, t⟩, ?_, rfl, rfl⟩
  show add _ (remove l.current l.handlers) = _
  -- without a set-up there is nothing to remove, and after one the only handler is the current one
  have hempty : remove l.current l.handlers = [] := by
    cases s with
    | none =>
      rw [show l.handlers = [] from hl]
      cases l.current <;> rfl
    | some s =>
      obtain ⟨h, hhandlers, hcurrent, -⟩ := hl
      rw [hhandlers, hcurrent, remove, List.erase_cons_head]
  rw [hempty]
  rfl

/-! ## Set-ups -/

/-- All that a set-up can do: fail and change nothing, fail once its file is open, or put its level and its sink in
force. -/
theorem setup_cases (file level layout : Value) (l : Log) :
    (∃ f, l.setup file level layout = (.error f, l)) ∨
    (∃ f name files, nameOf l.disk file = .ok name ∧ Opens l.files (destination l.disk name) files ∧
      l.setup file level layout = (.error f, { l with files := files })) ∨
    ∃ v s files, asked l.disk file level layout = some ⟨v, some s⟩ ∧ Opens l.files s.file files ∧ IsOpen files s.file ∧
      l.setup file level layout = (.ok (), replace s { l with files := files, level := v }) := by
  unfold setup
  cases hv : Level.ofValue level with
  | error f => exact .inl ⟨_, rfl⟩
  | ok v =>
    cases ho : openSetting l.disk file l.files with
    | error f => exact .inl ⟨_, rfl⟩
    | ok opened =>
      obtain ⟨d, files⟩ := opened
      obtain ⟨name, hname, rfl, hopens, hopen⟩ := openSetting_eq_ok ho
      cases hlayout : layoutOf layout with
      | error f => exact .inr (.inl ⟨_, name, files, hname, hopens, rfl⟩)
      | ok t =>
        refine .inr (.inr ⟨v, ⟨destination l.disk name, t⟩, files, ?_, hopens, hopen, rfl⟩)
        simp [asked, hv, hname, hlayout, Except.toOption]

/-- The handlers of a log write what its settings owe a record. -/
theorem write_eq {g : Regime} (hlevel : l.level = g.level) (hl : l.Holds g.sink) {r : Record} (hr : g.fits r = true) :
    l.write r = match g.delivery r with
      | some x => l.put x.1 x.2
      | none => l := by
  have hbare : l.putBare r = match bare r with
      | some x => l.put x.1 x.2
      | none => l := by
    unfold putBare bare
    split <;> rfl
  unfold write Regime.delivery
  rw [hlevel]
  split
  · exact hbare
  rename_i hown
  split
  · rfl
  rename_i hbelow
  cases hs : g.sink with
  | none =>
    rw [hs] at hl
    rw [show l.handlers = [] from hl]
    exact hbare
  | some s =>
    rw [hs] at hl
    obtain ⟨h, hhandlers, -, rfl⟩ := hl
    have hsome : (h.sink.line r).isSome = true := by simpa [Regime.fits, hown, hbelow, hs] using hr
    obtain ⟨t, ht⟩ := Option.isSome_iff_exists.mp hsome
    rw [hhandlers]
    simp [emit, ht]

/-- Lines are owed at the terminal, or at the destination of the settings in force. -/
theorem Regime.delivery_isOpen {g : Regime} {r : Record} {x : Delivery} {files : Files}
    (hopen : ∀ s, g.sink = some s → IsOpen files s.file) (h : g.delivery r = some x) : IsOpen files x.1 := by
  have hbare : bare r = some x → IsOpen files x.1 := by
    intro hb
    unfold bare at hb
    split at hb
    · cases hb
      trivial
    · cases hb
  unfold delivery at h
  split at h
  · exact hbare h
  split at h
  · cases h
  split at h
  · rename_i s hs
    cases h
    exact hopen s hs
  · exact hbare h

/-! ## Accounts -/

namespace Account

variable {origin : Log} {a : Account}

/-- The log is as the account tells. -/
structure Kept (origin : Log) (a : Account) : Prop where
  level : a.log.level = a.regime.level
  holds : a.log.Holds a.regime.sink
  isOpen : ∀ s, a.regime.sink = some s → IsOpen a.log.files s.file
  content : ∀ d, a.log.content d = origin.content d ++ linesAt d a.delivered

theorem Kept.record {r : Record} (h : Kept origin a) (hr : a.regime.fits r = true) : Kept origin (a.next (.record r)) := by
  have hwrite := write_eq h.level h.holds hr
  cases hd : a.regime.delivery r with
  | none =>
    have hsame : a.next (.record r) = a := by
      simp only [next, Step.run, hwrite, hd, Option.toList, List.append_nil]
    rw [hsame]
    exact h
  | some x =>
    have hopen : IsOpen a.log.files x.1 := Regime.delivery_isOpen h.isOpen hd
    obtain ⟨hlevel, hhandlers, hcurrent, -⟩ := put_frame x.1 x.2 a.log
    have hnext : a.next (.record r) = ⟨a.log.put x.1 x.2, a.regime, a.delivered ++ [x]⟩ := by
      simp only [next, Step.run, hwrite, hd, Option.toList]
    rw [hnext]
    refine ⟨hlevel.trans h.level, h.holds.congr hhandlers hcurrent, fun s hs => isOpen_put.mpr (h.isOpen s hs), fun d => ?_⟩
    show (a.log.put x.1 x.2).content d = _
    rw [content_put hopen, h.content d, linesAt_concat, List.append_assoc]

theorem next_setup_failed {file level layout : Value} {f : Failure} {k : Log}
    (h : a.log.setup file level layout = (.error f, k)) : a.next (.setup file level layout) = ⟨k, a.regime, a.delivered⟩ := by
  simp only [next, Step.run, h]
  rfl

theorem next_setup_ok {file level layout : Value} {g : Regime} {k : Log} (hg : asked a.log.disk file level layout = some g)
    (h : a.log.setup file level layout = (.ok (), k)) : a.next (.setup file level layout) = ⟨k, g, a.delivered⟩ := by
  simp only [next, Step.run, h, hg]
  rfl

theorem Kept.setup {file level layout : Value} (h : Kept origin a) : Kept origin (a.next (.setup file level layout)) := by
  rcases setup_cases file level layout a.log with ⟨f, hs⟩ | ⟨f, path, files, -, hopens, hs⟩ | ⟨v, s, files, hg, hopens, hopen, hs⟩
  · rw [next_setup_failed hs]
    exact h
  · rw [next_setup_failed hs]
    refine ⟨h.level, h.holds.congr rfl rfl, fun s hs => isOpen_opens hopens (h.isOpen s hs), fun d => ?_⟩
    exact (content_opens hopens d).trans (h.content d)
  · rw [next_setup_ok hg hs]
    refine ⟨rfl, holds_replace (h.holds.congr rfl rfl) s, ?_, fun d => ?_⟩
    · rintro _ ⟨⟩
      exact hopen
    · exact (content_opens hopens d).trans (h.content d)

theorem Kept.disk (h : Kept origin a) (d : Disk) : Kept origin (a.next (.disk d)) :=
  ⟨h.level, h.holds.congr rfl rfl, h.isOpen, h.content⟩

end Account

end SocksTunnel.Log
