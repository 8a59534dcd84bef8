import SocksTunnel.Coding.Utf8

/-
  SocksTunnel.Proofs.Text.Utf8 — which octets texts have in UTF-8, and what is read from them. The
  octets after the first are those of a fixed range; the first octet tells how many they are, and
  sometimes narrows the range of the second, so that no shorter form and no surrogate is read.

  Proved: a zero octet stands for a zero character and for nothing else (`zero_mem_utf8_iff`). The
  octets of a character are found to be that character whatever follows (`scanUtf8_utf8Char`), and
  those of a text are read as that text without any replacement (`decodeLossy_utf8`).
-/

namespace SocksTunnel.Text

/-- The forms of a code, by the number of its octets. -/
theorem utf8Code_eq (n : Nat) : utf8Code n =
    if n < 0x80 then [UInt8.ofNat n]
    else if n < 0x800 then [UInt8.ofNat (0xc0 + n / 64), UInt8.ofNat (0x80 + n % 64)]
    else if n < 0x10000 then
      [UInt8.ofNat (0xe0 + n / 4096), UInt8.ofNat (0x80 + n / 64 % 64), UInt8.ofNat (0x80 + n % 64)]
    else [UInt8.ofNat (0xf0 + n / 262144), UInt8.ofNat (0x80 + n / 4096 % 64), UInt8.ofNat (0x80 + n / 64 % 64),
      UInt8.ofNat (0x80 + n % 64)] := rfl

/-- What the code of a character can be: below the surrogates or above them. -/
theorem toNat_range (c : Char) : c.toNat < 0xd800 ∨ 0xdfff < c.toNat ∧ c.toNat < 0x110000 := by
  have h := c.valid
  simp only [UInt32.isValidChar, Nat.isValidChar] at h
  exact h

/-! ## Zeros -/

theorem zero_mem_utf8Code_iff {n : Nat} (h : n < 0x110000) : (0 : UInt8) ∈ utf8Code n ↔ n = 0 := by
  have hz : ∀ k : Nat, (0 : UInt8) = UInt8.ofNat k ↔ k % 256 = 0 := by
    intro k
    rw [← UInt8.toNat_inj, UInt8.toNat_ofNat', eq_comm]
    rfl
  -- octets of longer forms are 128 at least, so only the shortest form has a zero
  rw [utf8Code_eq]
  split
  · rw [List.mem_singleton, hz]
    omega
  split
  · simp only [List.mem_cons, List.not_mem_nil, or_false, hz]
    omega
  split
  · simp only [List.mem_cons, List.not_mem_nil, or_false, hz]
    omega
  · simp only [List.mem_cons, List.not_mem_nil, or_false, hz]
    omega

theorem toNat_lt (c : Char) : c.toNat < 0x110000 := by
  have h := toNat_range c
  omega

theorem zero_mem_utf8Char_iff {c : Char} : (0 : UInt8) ∈ utf8Char c ↔ c = '\x00' := by
  rw [utf8Char, zero_mem_utf8Code_iff (toNat_lt c)]
  exact ⟨fun h => Char.toNat_inj.mp h, fun h => h ▸ rfl⟩

theorem zero_mem_utf8_iff {t : Text} : (0 : UInt8) ∈ utf8 t ↔ '\x00' ∈ t := by
  simp only [utf8, List.mem_flatMap, zero_mem_utf8Char_iff, exists_eq_right]

/-! ## Reading -/

section Scan

variable {b : UInt8} {n : Nat} (r : Bytes)

/-- A further octet is taken in where the octet before it lets it stand. -/
theorem continued_octet {lo hi : UInt8} {k : Nat} (hlo : lo.toNat ≤ 0x80 + k % 64) (hhi : 0x80 + k % 64 ≤ hi.toNat)
    (m seen code : Nat) : continued (m + 1) lo hi seen code (UInt8.ofNat (0x80 + k % 64) :: r) =
      continued m 0x80 0xbf (seen + 1) (code * 64 + k % 64) r := by
  have hvalue : (UInt8.ofNat (0x80 + k % 64)).toNat = 0x80 + k % 64 :=
    UInt8.toNat_ofNat_of_lt (show _ < 256 by omega)
  have hrange : lo ≤ UInt8.ofNat (0x80 + k % 64) ∧ UInt8.ofNat (0x80 + k % 64) ≤ hi := by
    rw [UInt8.le_iff_toNat_le, UInt8.le_iff_toNat_le, hvalue]
    exact ⟨hlo, hhi⟩
  have hrest : (0x80 + k % 64) % 64 = k % 64 := by omega
  rw [continued, if_pos hrange, hvalue, hrest]

/-- An octet after the second may have the whole range. -/
theorem continued_further (m seen code k : Nat) :
    continued (m + 1) 0x80 0xbf seen code (UInt8.ofNat (0x80 + k % 64) :: r) =
      continued m 0x80 0xbf (seen + 1) (code * 64 + k % 64) r :=
  continued_octet r (Nat.le_add_right _ _) (show _ ≤ 0xbf by omega) m seen code

theorem scanUtf8_one (h : n < 0x80) : scanUtf8 (UInt8.ofNat n) r = .code n 0 := by
  have hb : (UInt8.ofNat n).toNat = n := UInt8.toNat_ofNat_of_lt (show n < 256 by omega)
  have hlow : UInt8.ofNat n < 0x80 := by rwa [UInt8.lt_iff_toNat_lt, hb]
  rw [scanUtf8, if_pos hlow, hb]

theorem scanUtf8_two (h : 0x80 ≤ n) (h' : n < 0x800) :
    scanUtf8 (UInt8.ofNat (0xc0 + n / 64)) (UInt8.ofNat (0x80 + n % 64) :: r) = .code n 1 := by
  have hb : (UInt8.ofNat (0xc0 + n / 64)).toNat = 0xc0 + n / 64 := UInt8.toNat_ofNat_of_lt (show _ < 256 by omega)
  simp only [scanUtf8, UInt8.lt_iff_toNat_lt, UInt8.reduceToNat, hb]
  rw [if_neg (by omega), if_neg (by omega), if_pos (by omega), continued_further]
  exact congrArg (fun k : Nat => Scan.code k 1) (by omega)

theorem scanUtf8_three (h : 0x800 ≤ n) (h' : n < 0x10000) (hs : n < 0xd800 ∨ 0xdfff < n) :
    scanUtf8 (UInt8.ofNat (0xe0 + n / 4096)) (UInt8.ofNat (0x80 + n / 64 % 64) :: UInt8.ofNat (0x80 + n % 64) :: r) =
      .code n 2 := by
  have hb : (UInt8.ofNat (0xe0 + n / 4096)).toNat = 0xe0 + n / 4096 := UInt8.toNat_ofNat_of_lt (show _ < 256 by omega)
  generalize UInt8.ofNat (0xe0 + n / 4096) = b at hb ⊢
  have hlo : (if b = 0xe0 then (0xa0 : UInt8) else 0x80).toNat ≤ 0x80 + n / 64 % 64 := by
    split
    · have hfirst : b.toNat = 0xe0 := congrArg UInt8.toNat ‹b = 0xe0›
      show 0xa0 ≤ _
      omega
    · exact Nat.le_add_right _ _
  have hhi : 0x80 + n / 64 % 64 ≤ (if b = 0xed then (0x9f : UInt8) else 0xbf).toNat := by
    split
    · have hfirst : b.toNat = 0xed := congrArg UInt8.toNat ‹b = 0xed›
      show _ ≤ 0x9f
      omega
    · show _ ≤ 0xbf
      omega
  simp only [scanUtf8, UInt8.lt_iff_toNat_lt, UInt8.reduceToNat, hb]
  rw [if_neg (by omega), if_neg (by omega), if_neg (by omega), if_pos (by omega), continued_octet _ hlo hhi,
    continued_further]
  exact congrArg (fun k : Nat => Scan.code k 2) (by omega)

theorem scanUtf8_four (h : 0x10000 ≤ n) (h' : n < 0x110000) :
    scanUtf8 (UInt8.ofNat (0xf0 + n / 262144)) (UInt8.ofNat (0x80 + n / 4096 % 64) :: UInt8.ofNat (0x80 + n / 64 % 64) ::
      UInt8.ofNat (0x80 + n % 64) :: r) = .code n 3 := by
  have hb : (UInt8.ofNat (0xf0 + n / 262144)).toNat = 0xf0 + n / 262144 :=
    UInt8.toNat_ofNat_of_lt (show _ < 256 by omega)
  generalize UInt8.ofNat (0xf0 + n / 262144) = b at hb ⊢
  have hlo : (if b = 0xf0 then (0x90 : UInt8) else 0x80).toNat ≤ 0x80 + n / 4096 % 64 := by
    split
    · have hfirst : b.toNat = 0xf0 := congrArg UInt8.toNat ‹b = 0xf0›
      show 0x90 ≤ _
      omega
    · exact Nat.le_add_right _ _
  have hhi : 0x80 + n / 4096 % 64 ≤ (if b = 0xf4 then (0x8f : UInt8) else 0xbf).toNat := by
    split
    · have hfirst : b.toNat = 0xf4 := congrArg UInt8.toNat ‹b = 0xf4›
      show _ ≤ 0x8f
      omega
    · show _ ≤ 0xbf
      omega
  simp only [scanUtf8, UInt8.lt_iff_toNat_lt, UInt8.reduceToNat, hb]
  rw [if_neg (by omega), if_neg (by omega), if_neg (by omega), if_neg (by omega), if_pos (by omega),
    continued_octet _ hlo hhi, continued_further, continued_further]
  exact congrArg (fun k : Nat => Scan.code k 3) (by omega)

end Scan

/-- The octets of a character are found to be it, whatever follows them. -/
theorem scanUtf8_utf8Char (c : Char) (r : Bytes) :
    ∃ b t, utf8Char c = b :: t ∧ scanUtf8 b (t ++ r) = .code c.toNat t.length := by
  have hc := toNat_range c
  rw [utf8Char, utf8Code_eq]
  split
  · exact ⟨_, _, rfl, scanUtf8_one r ‹_›⟩
  split
  · exact ⟨_, _, rfl, scanUtf8_two r (by omega) ‹_›⟩
  split
  · exact ⟨_, _, rfl, scanUtf8_three r (by omega) ‹_› (by omega)⟩
  · exact ⟨_, _, rfl, scanUtf8_four r (by omega) (by omega)⟩

theorem decodeLossyFrom_append (b r : Bytes) : decodeLossyFrom b.length (b ++ r) = decodeLossyFrom 0 r := by
  induction b with
  | nil => rfl
  | cons x b ih => exact ih

/-- A text is read back from its octets. -/
theorem decodeLossy_utf8 (t : Text) : decodeLossy (utf8 t) = t := by
  induction t with
  | nil => rfl
  | cons c t ih =>
    obtain ⟨b, more, hchar, hscan⟩ := scanUtf8_utf8Char c (utf8 t)
    have hoctets : utf8 (c :: t) = b :: (more ++ utf8 t) := by
      rw [utf8, List.flatMap_cons, hchar]
      rfl
    rw [decodeLossy, hoctets, decodeLossyFrom, hscan]
    dsimp only
    rw [decodeLossyFrom_append, Char.ofNat_toNat]
    exact congrArg _ ih

end SocksTunnel.Text
