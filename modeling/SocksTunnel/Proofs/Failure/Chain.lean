/-
  SocksTunnel.Proofs.Failure.Chain — checks that are made one after the other. The first that
  fails decides the error, and what comes out in the end went through all of them.

  Proved: when a check followed by others succeeds or fails (`bind_eq_ok_iff`,
  `bind_eq_error_iff`), and when one does whose result or error is put in another form
  (`map_eq_ok_iff`, `map_eq_error_iff`, `mapError_eq_ok_iff`, `mapError_eq_error_iff`,
  `isOk_mapError`). What succeeds with a property and fails without it checks the property
  (`eq_ok_iff_of`). Checks that fail in one kind of way alone still do after one another
  (`FailsOnly.bind`).
-/

namespace Except

variable {ε ε' α β : Type} {e : Except ε α} {k : α → Except ε β}

theorem bind_eq_ok_iff {b : β} : (e >>= k) = .ok b ↔ ∃ a, e = .ok a ∧ k a = .ok b := by
  cases e with
  | error f => exact ⟨nofun, fun ⟨_, h, _⟩ => nomatch h⟩
  | ok a => exact ⟨fun h => ⟨a, rfl, h⟩, fun ⟨_, ha, h⟩ => by cases ha; exact h⟩

theorem bind_eq_error_iff {f : ε} : (e >>= k) = .error f ↔ e = .error f ∨ ∃ a, e = .ok a ∧ k a = .error f := by
  cases e with
  | error g =>
    constructor
    · intro h
      cases h
      exact .inl rfl
    · rintro (h | ⟨_, ha, -⟩)
      · cases h
        rfl
      · cases ha
  | ok a => exact ⟨fun h => .inr ⟨a, rfl, h⟩, fun h => h.elim nofun fun ⟨_, ha, h⟩ => by cases ha; exact h⟩

theorem map_eq_ok_iff {f : α → β} {b : β} : e.map f = .ok b ↔ ∃ a, e = .ok a ∧ f a = b := by
  cases e with
  | error g => exact ⟨nofun, fun ⟨_, h, _⟩ => nomatch h⟩
  | ok a => exact ⟨fun h => ⟨a, rfl, Except.ok.inj h⟩, fun ⟨_, ha, h⟩ => by cases ha; exact congrArg Except.ok h⟩

theorem map_eq_error_iff {f : α → β} {g : ε} : e.map f = .error g ↔ e = .error g := by
  cases e with
  | error x => exact ⟨fun h => congrArg Except.error (Except.error.inj h), fun h => congrArg Except.error (Except.error.inj h)⟩
  | ok a => exact ⟨nofun, nofun⟩

theorem mapError_eq_ok_iff {f : ε → ε'} {a : α} : e.mapError f = .ok a ↔ e = .ok a := by
  cases e with
  | error g => exact ⟨nofun, nofun⟩
  | ok b => exact ⟨fun h => by cases h; rfl, fun h => by cases h; rfl⟩

theorem mapError_eq_error_iff {f : ε → ε'} {g : ε'} : e.mapError f = .error g ↔ ∃ x, e = .error x ∧ f x = g := by
  cases e with
  | error x => exact ⟨fun h => ⟨x, rfl, Except.error.inj h⟩, fun ⟨_, hx, h⟩ => by cases hx; exact congrArg Except.error h⟩
  | ok a => exact ⟨nofun, fun ⟨_, h, _⟩ => nomatch h⟩

/-- A check that succeeds where a property holds and fails where it does not is a check of that property. -/
theorem eq_ok_iff_of {P : Prop} {a : α} (hok : P → e = .ok a) (herror : ¬ P → ∃ f, e = .error f) : e = .ok a ↔ P := by
  refine ⟨fun h => Classical.byContradiction fun hP => ?_, hok⟩
  obtain ⟨f, hf⟩ := herror hP
  cases hf.symm.trans h

/-- Whatever this fails with is of a kind. -/
def FailsOnly (P : ε → Prop) (e : Except ε α) : Prop := ∀ f, e = .error f → P f

namespace FailsOnly

variable {P : ε → Prop}

theorem ok (a : α) : FailsOnly P (.ok a) := nofun

theorem error {f : ε} (h : P f) : FailsOnly P (.error f : Except ε α) := by
  rintro _ ⟨⟩
  exact h

theorem bind (he : FailsOnly P e) (hk : ∀ a, FailsOnly P (k a)) : FailsOnly P (e >>= k) := by
  intro f hf
  rcases bind_eq_error_iff.mp hf with h | ⟨a, -, h⟩
  · exact he f h
  · exact hk a f h

theorem map (he : FailsOnly P e) (g : α → β) : FailsOnly P (e.map g) := by
  cases e with
  | error f => exact error (he f rfl)
  | ok a => exact ok (g a)

theorem mapError {Q : ε' → Prop} (he : FailsOnly P e) {f : ε → ε'} (hf : ∀ x, P x → Q (f x)) : FailsOnly Q (e.mapError f) := by
  intro y hy
  obtain ⟨x, hx, rfl⟩ := mapError_eq_error_iff.mp hy
  exact hf x (he x hx)

end FailsOnly

theorem isOk_mapError (f : ε → ε') (e : Except ε α) : (e.mapError f).isOk = e.isOk := by
  cases e <;> rfl

end Except
