import SocksTunnel.Log.Sink

/-
  SocksTunnel.Proofs.Log.Content — what stands in the files of the log and on the terminal, and
  how it grows.

  Proved: a line that is put to an open destination is added at its end, and nothing else
  changes (`content_put`). Opening a file changes no content, and the file is then open
  (`content_opens`, `openSetting_eq_ok`).
-/

namespace SocksTunnel.Log

variable {l : Log} {d e : Option File} {files files' : Files}

/-- What stands at a destination: in a file, or on the terminal. Nothing stands in a file that is not there. -/
def content (l : Log) : Option File → Text
  | none => l.terminal
  | some name => (l.files.lookup name).getD []

/-- The terminal is always open, a file if it is there. -/
def IsOpen (files : Files) : Option File → Prop
  | none => True
  | some name => (files.lookup name).isSome = true

/-! ## Putting -/

theorem lookup_append (text : Text) (name n : File) (files : Files) :
    (append text name files).lookup n = (files.lookup n).map fun t => if n = name then t ++ text else t := by
  induction files with
  | nil => rfl
  | cons f r ih =>
    obtain ⟨m, t⟩ := f
    rw [append]
    by_cases hm : m = name
    · rw [if_pos hm, List.lookup_cons, List.lookup_cons]
      cases hn : n == m with
      | true => simp [(beq_iff_eq.mp hn).trans hm]
      | false =>
        have hne : n ≠ name := fun h => by simp [h, hm] at hn
        simp [hne]
    · rw [if_neg hm, List.lookup_cons, List.lookup_cons, ih]
      cases hn : n == m with
      | true => simp [show n ≠ name from (beq_iff_eq.mp hn) ▸ hm]
      | false => rfl

theorem content_put (h : IsOpen l.files d) (t : Text) : (l.put d t).content e = l.content e ++ if e = d then t else [] := by
  cases d with
  | none =>
    cases e with
    | none => simp [put, content]
    | some n => simp [put, content]
  | some name =>
    cases e with
    | none => simp [put, content]
    | some n =>
      obtain ⟨u, hu⟩ := Option.isSome_iff_exists.mp h
      simp only [put, content, lookup_append, Option.some.injEq]
      by_cases hn : n = name
      · simp [hn, hu]
      · simp [hn]

theorem isOpen_put {t : Text} : IsOpen (l.put d t).files e ↔ IsOpen l.files e := by
  cases d with
  | none => rfl
  | some name =>
    cases e with
    | none => exact Iff.rfl
    | some n => simp only [put, IsOpen, lookup_append, Option.isSome_map]

theorem put_frame (d : Option File) (t : Text) (l : Log) : (l.put d t).level = l.level ∧ (l.put d t).handlers = l.handlers ∧
    (l.put d t).current = l.current ∧ (l.put d t).disk = l.disk := by
  cases d <;> exact ⟨rfl, rfl, rfl, rfl⟩

/-! ## Opening -/

/-- The files after a destination was opened: as before, or with a new file that is empty. -/
def Opens (files : Files) (d : Option File) (files' : Files) : Prop :=
  files' = files ∨ ∃ name, d = some name ∧ files.lookup name = none ∧ files' = files ++ [(name, [])]

theorem lookup_concat (files : Files) (name n : File) :
    (files ++ [(name, [])]).lookup n = (files.lookup n).or (if n = name then some [] else none) := by
  rw [List.lookup_append]
  by_cases hn : n = name
  · simp [hn]
  · have hb : (n == name) = false := beq_eq_false_iff_ne.mpr hn
    rw [List.lookup_cons, hb, if_neg hn]
    rfl

theorem content_opens (h : Opens l.files d files') (e : Option File) : { l with files := files' }.content e = l.content e := by
  obtain rfl | ⟨name, -, hnew, rfl⟩ := h
  · rfl
  · cases e with
    | none => rfl
    | some n =>
      simp only [content, lookup_concat]
      by_cases hn : n = name
      · simp [hn, hnew]
      · simp [hn]

theorem isOpen_opens (h : Opens files d files') (he : IsOpen files e) : IsOpen files' e := by
  obtain rfl | ⟨name, -, -, rfl⟩ := h
  · exact he
  · cases e with
    | none => exact he
    | some n =>
      obtain ⟨u, hu⟩ := Option.isSome_iff_exists.mp he
      simp [IsOpen, lookup_concat, hu]

/-- The destination of a name, or the terminal if there is none. -/
def destination (d : Disk) (name : Option Bytes) : Option File := name.map d.file

theorem openFile_eq_ok {disk : Disk} {name : Bytes} {file : File} (h : openFile disk name files = .ok (file, files')) :
    file = disk.file name ∧ Opens files (some file) files' ∧ IsOpen files' (some file) := by
  unfold openFile at h
  split at h
  · cases h
  split at h
  · cases h
  · cases h
    refine ⟨rfl, ?_⟩
    cases hf : files.lookup (disk.file name) with
    | some t => exact ⟨.inl rfl, by simp [IsOpen, hf]⟩
    | none => exact ⟨.inr ⟨_, rfl, hf, rfl⟩, by simp [IsOpen, lookup_concat]⟩

theorem openSetting_eq_ok {disk : Disk} {v : Value} (h : openSetting disk v files = .ok (d, files')) :
    ∃ name, nameOf disk v = .ok name ∧ d = destination disk name ∧ Opens files d files' ∧ IsOpen files' d := by
  unfold openSetting at h
  cases hn : nameOf disk v with
  | error f =>
    rw [hn] at h
    cases h
  | ok name =>
    rw [hn] at h
    cases name with
    | none =>
      cases h
      exact ⟨none, rfl, rfl, .inl rfl, trivial⟩
    | some name =>
      cases ho : openFile disk name files with
      | error f =>
        simp only [bind, Except.bind, ho] at h
        cases h
      | ok opened =>
        obtain ⟨file, files''⟩ := opened
        simp only [bind, Except.bind, ho, Except.ok.injEq, Prod.mk.injEq] at h
        obtain ⟨rfl, rfl⟩ := h
        obtain ⟨hfile, hopens, hopen⟩ := openFile_eq_ok ho
        exact ⟨some name, rfl, congrArg some hfile, hopens, hopen⟩

end SocksTunnel.Log
