import SocksTunnel.Text.Quoted

/-
  SocksTunnel.Text.Sign — text in which surrogates stand alone, as a system hands it over for
  octets that spell no character. A code is the number of a character or of a surrogate, and a
  sign is one of the two.

  Signs without a surrogate are a text. Broken text is all else: it is shown with its surrogates
  as escapes, and has no octets.

  Proved: the signs of a text are that text again, and no others are (`ofSigns?_eq_some_iff`),
  broken text has a surrogate (`BrokenText.exists_surrogate`), all signs are the one or the other
  (`Sign.text_or_broken`), and signs of text are quoted like it (`Sign.quoted_signs`).
-/

namespace SocksTunnel

abbrev Code := Nat

namespace Code

def isHighSurrogate (n : Code) : Bool := 0xd800 ≤ n && n < 0xdc00

def isLowSurrogate (n : Code) : Bool := 0xdc00 ≤ n && n < 0xe000

def isSurrogate (n : Code) : Bool := isHighSurrogate n || isLowSurrogate n

/-- The code of two surrogates that belong together. -/
def ofSurrogates (high low : Nat) : Code := 0x10000 + (high - 0xd800) * 1024 + (low - 0xdc00)

end Code

structure Surrogate where
  code : Code
  isSurrogate : code.isSurrogate = true
  deriving DecidableEq, Repr

inductive Sign where
  | char (c : Char)
  | surrogate (s : Surrogate)
  deriving DecidableEq, Repr

namespace Sign

def code : Sign → Code
  | char c => c.toNat
  | surrogate s => s.code

def char? : Sign → Option Char
  | char c => some c
  | surrogate _ => none

def isSurrogate : Sign → Bool
  | char _ => false
  | surrogate _ => true

/-- A sign as a terminal shows it. -/
def plain : Sign → Text
  | char c => [c]
  | surrogate s => Text.escapeCode s.code

/-- A sign as it stands between quotes `q`. -/
def escape (q : Char) : Sign → Text
  | char c => Text.escape q c
  | surrogate s => Text.escapeCode s.code

/-- Signs as a terminal shows them. -/
def text (ss : List Sign) : Text := ss.flatMap plain

/-- Signs between quotes. -/
def quoted (ss : List Sign) : Text :=
  let q := Text.quoteFor (ss.contains (char '\'')) (ss.contains (char '"'))
  q :: (ss.flatMap (escape q) ++ [q])

end Sign

namespace Text

def signs (t : Text) : List Sign := t.map .char

/-- The text of signs without a surrogate. -/
def ofSigns? : List Sign → Option Text
  | [] => some []
  | .char c :: r => (ofSigns? r).map (c :: ·)
  | .surrogate _ :: _ => none

theorem ofSigns?_eq_some_iff {ss : List Sign} {t : Text} : ofSigns? ss = some t ↔ ss = signs t := by
  induction ss generalizing t with
  | nil => cases t <;> simp [ofSigns?, signs]
  | cons s r ih =>
    cases s with
    | char c =>
      cases t with
      | nil => simp [ofSigns?, signs]
      | cons d u =>
        have hr : ofSigns? r = some u ↔ r = signs u := ih
        simp only [ofSigns?, Option.map_eq_some_iff, List.cons.injEq, signs, List.map_cons, Sign.char.injEq]
        rw [← signs, ← hr]
        exact ⟨fun ⟨_, hu, hc, he⟩ => ⟨hc, he ▸ hu⟩, fun ⟨hc, hu⟩ => ⟨u, hu, hc, rfl⟩⟩
    | surrogate s => cases t <;> simp [ofSigns?, signs]

@[simp] theorem ofSigns?_signs (t : Text) : ofSigns? (signs t) = some t := ofSigns?_eq_some_iff.mpr rfl

theorem ofSigns?_eq_none_iff {ss : List Sign} : ofSigns? ss = none ↔ ∃ s, .surrogate s ∈ ss := by
  induction ss with
  | nil => simp [ofSigns?]
  | cons s r ih => cases s <;> simp [ofSigns?, ih]

end Text

/-- Signs that are no text. -/
structure BrokenText where
  signs : List Sign
  isBroken : Text.ofSigns? signs = none
  deriving DecidableEq, Repr

namespace BrokenText

/-- Broken text as a terminal shows it. -/
def plain (b : BrokenText) : Text := Sign.text b.signs

def quoted (b : BrokenText) : Text := Sign.quoted b.signs

theorem exists_surrogate (b : BrokenText) : ∃ s, .surrogate s ∈ b.signs := Text.ofSigns?_eq_none_iff.mp b.isBroken

theorem signs_ne (b : BrokenText) (t : Text) : b.signs ≠ t.signs := by
  intro h
  have hnone := b.isBroken
  rw [h, Text.ofSigns?_signs] at hnone
  cases hnone

end BrokenText

theorem Sign.text_or_broken (ss : List Sign) : (∃ t : Text, ss = t.signs) ∨ ∃ b : BrokenText, ss = b.signs := by
  cases h : Text.ofSigns? ss with
  | some t => exact .inl ⟨t, Text.ofSigns?_eq_some_iff.mp h⟩
  | none => exact .inr ⟨⟨ss, h⟩, rfl⟩

theorem Sign.quoted_signs (t : Text) : quoted t.signs = t.quoted := by
  have hmem : ∀ c : Char, t.signs.contains (char c) = t.contains c := by
    intro c
    simp [Text.signs]
  simp only [quoted, hmem, Text.quoted]
  rw [Text.signs, List.flatMap_map]
  rfl

end SocksTunnel
