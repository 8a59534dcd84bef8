import SocksTunnel.Text.Printable

/-
  SocksTunnel.Text.Quoted — text and data between quotes, as messages show them. The quote
  is a single one, or a double one where the content has single quotes and no double ones.

  Proved: quoted text begins and ends with its quote (`quoted_eq`), and plain text stands
  unchanged between single quotes (`quoted_plain`).
-/

namespace SocksTunnel.Text

/-- The quote for a content: double only where that saves escapes. -/
def quoteFor (single double : Bool) : Char := if single && !double then '"' else '\''

/-- An escape by number, in the shortest of the forms `\xhh`, `\uhhhh` and `\Uhhhhhhhh`. -/
def escapeCode (n : Nat) : Text :=
  if n < 0x100 then lit "\\x" ++ hex 2 n
  else if n < 0x10000 then lit "\\u" ++ hex 4 n
  else lit "\\U" ++ hex 8 n

/-- A character as it stands between quotes `q`. -/
def escape (q c : Char) : Text :=
  if c = q ∨ c = '\\' then ['\\', c]
  else if c = '\t' then lit "\\t"
  else if c = '\n' then lit "\\n"
  else if c = '\r' then lit "\\r"
  else if isPrintable c then [c]
  else escapeCode c.toNat

/-- Text between quotes. -/
def quoted (t : Text) : Text :=
  let q := quoteFor (t.contains '\'') (t.contains '"')
  q :: (t.flatMap (escape q) ++ [q])

/-- Data between quotes, with a mark in front; octets past ASCII are escaped. -/
def quotedBytes (b : Bytes) : Text :=
  let q := quoteFor (b.contains 39) (b.contains 34)
  let octet (x : UInt8) : Text :=
    if x < 0x80 then escape q (Char.ofNat x.toNat) else escapeCode x.toNat
  'b' :: q :: (b.flatMap octet ++ [q])

theorem quoted_eq (t : Text) : ∃ q body, quoted t = q :: (body ++ [q]) := ⟨_, _, rfl⟩

theorem escape_plain {c : Char} (hp : isPrintable c = true) (hq : c ≠ '\'') (hb : c ≠ '\\') : escape '\'' c = [c] := by
  have h1 : c ≠ '\t' := by rintro rfl; revert hp; decide
  have h2 : c ≠ '\n' := by rintro rfl; revert hp; decide
  have h3 : c ≠ '\r' := by rintro rfl; revert hp; decide
  simp [escape, hq, hb, h1, h2, h3, hp]

theorem quoted_plain (t : Text) (h : ∀ c ∈ t, isPrintable c = true ∧ c ≠ '\'' ∧ c ≠ '\\') :
    quoted t = '\'' :: (t ++ ['\'']) := by
  have hq : t.contains '\'' = false := by
    simp only [List.contains_eq_mem, decide_eq_false_iff_not]
    exact fun hm => (h _ hm).2.1 rfl
  have hf : ∀ u : Text, (∀ c ∈ u, c ∈ t) → u.flatMap (escape '\'') = u := by
    intro u hu
    induction u with
    | nil => rfl
    | cons c r ih =>
      obtain ⟨hp, hq, hb⟩ := h c (hu c (by simp))
      simp [List.flatMap_cons, escape_plain hp hq hb, ih fun c hc => hu c (by simp [hc])]
  simp only [quoted, hq, quoteFor, Bool.false_and, Bool.false_eq_true, ite_false]
  rw [hf t fun _ h => h]

end SocksTunnel.Text
