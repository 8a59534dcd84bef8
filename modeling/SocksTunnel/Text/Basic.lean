/-
  SocksTunnel.Text.Basic — text as a list of characters and data as a list of octets,
  with the cuts that the formats of this library use.

  Proved: a cut at the last separator loses nothing (`append_of_cutLast`), and what
  follows it holds no further separator (`not_mem_of_cutLast`); two octets and the number
  that they spell determine each other (`toUInt16_ofNat`, `ofUInt16_toUInt16`).
-/

namespace SocksTunnel

abbrev Text := List Char

abbrev Bytes := List UInt8

namespace Text

/-- The text of a string literal. -/
def lit (s : String) : Text := s.toList

/-- A text as a string. -/
def str (t : Text) : String := String.ofList t

/-- A natural number in decimal digits. -/
def ofNat (n : Nat) : Text := Nat.toDigits 10 n

/-- An integer in decimal digits, a minus sign in front of a negative one. -/
def ofInt (n : Int) : Text :=
  if n < 0 then '-' :: ofNat n.natAbs else ofNat n.natAbs

/-- A natural number in lower-case hexadecimal digits, at least `width` of them. -/
def hex (width n : Nat) : Text :=
  let digits := Nat.toDigits 16 n
  List.replicate (width - digits.length) '0' ++ digits

/-- A byte or code as `0x` and at least two hexadecimal digits, the sign of a negative one in front. -/
def code (n : Int) : Text :=
  lit "0x" ++ if n < 0 then '-' :: hex 1 n.natAbs else hex 2 n.natAbs

/-- Removes characters of the class from both ends. -/
def strip (p : Char → Bool) (t : Text) : Text :=
  ((t.dropWhile p).reverse.dropWhile p).reverse

section

variable {α : Type} [DecidableEq α] {sep : α} {t a b : List α}

/-- Cuts at the last `sep`: what precedes it and what follows it. -/
def cutLast (sep : α) : List α → Option (List α × List α)
  | [] => none
  | c :: r =>
    match cutLast sep r with
    | some (a, b) => some (c :: a, b)
    | none => if c = sep then some ([], r) else none

theorem append_of_cutLast (h : cutLast sep t = some (a, b)) : t = a ++ sep :: b := by
  induction t generalizing a b with
  | nil => simp [cutLast] at h
  | cons c r ih =>
    simp only [cutLast] at h
    split at h
    · rename_i a' b' hr
      simp only [Option.some.injEq, Prod.mk.injEq] at h
      obtain ⟨rfl, rfl⟩ := h
      simp [ih hr]
    · split at h
      · simp_all
      · cases h

theorem cutLast_eq_none_iff : cutLast sep t = none ↔ sep ∉ t := by
  induction t with
  | nil => simp [cutLast]
  | cons c r ih =>
    simp only [cutLast, List.mem_cons, not_or]
    split
    · rename_i hr; simp [← ih, hr]
    · rename_i hr
      rw [← ih]
      by_cases hc : c = sep
      · simp [hc]
      · simp [hc, hr, Ne.symm hc]

theorem not_mem_of_cutLast (h : cutLast sep t = some (a, b)) : sep ∉ b := by
  induction t generalizing a b with
  | nil => simp [cutLast] at h
  | cons c r ih =>
    simp only [cutLast] at h
    split at h
    · rename_i a' b' hr
      simp only [Option.some.injEq, Prod.mk.injEq] at h
      obtain ⟨rfl, rfl⟩ := h
      exact ih hr
    · rename_i hr
      split at h
      · simp only [Option.some.injEq, Prod.mk.injEq] at h
        obtain ⟨rfl, rfl⟩ := h
        exact cutLast_eq_none_iff.1 hr
      · cases h

end

end Text

namespace Bytes

/-- An unsigned number of two octets, the high one first. -/
def ofUInt16 (n : UInt16) : Bytes := [UInt8.ofNat (n.toNat / 256), UInt8.ofNat n.toNat]

/-- The number that two octets spell, the high one first. -/
def toUInt16 (high low : UInt8) : UInt16 := UInt16.ofNat (high.toNat * 256 + low.toNat)

@[simp] theorem length_ofUInt16 (n : UInt16) : (ofUInt16 n).length = 2 := rfl

theorem toUInt16_ofNat (n : UInt16) : toUInt16 (UInt8.ofNat (n.toNat / 256)) (UInt8.ofNat n.toNat) = n := by
  have h := n.toNat_lt
  apply UInt16.toNat_inj.1
  simp only [toUInt16, UInt16.toNat_ofNat', UInt8.toNat_ofNat']
  omega

theorem ofUInt16_toUInt16 (high low : UInt8) : ofUInt16 (toUInt16 high low) = [high, low] := by
  have h := high.toNat_lt
  have l := low.toNat_lt
  have e : (toUInt16 high low).toNat = high.toNat * 256 + low.toNat := by
    simp only [toUInt16, UInt16.toNat_ofNat']
    omega
  simp only [ofUInt16, e, List.cons.injEq, and_true]
  constructor <;> apply UInt8.toNat_inj.1 <;> simp only [UInt8.toNat_ofNat'] <;> omega

end Bytes

end SocksTunnel
