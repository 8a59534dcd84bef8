import SocksTunnel.Address.Ipv4
import SocksTunnel.Proofs.Failure.Chain
import SocksTunnel.Proofs.Text.Whole

/-
  SocksTunnel.Proofs.Address.Quad — IPv4 addresses as dotted quads. The octets of a quad are
  written without a zero in front, which is the only form that is read.

  Proved: an address is read from its quad and from no other text (`parseShown_eq_ok_iff`), least
  of all from broken text (`parseBroken_isError`). The quad is made of digits and points alone
  (`mem_text`).
-/

namespace SocksTunnel.Ipv4

theorem octet_ofNat (whole : Text) (o : UInt8) : octet whole (Text.ofNat o.toNat) = .ok o := by
  have ho := o.toNat_lt
  have hdigits : (Text.ofNat o.toNat).all Text.isAsciiDigit = true :=
    List.all_eq_true.mpr (Text.isAsciiDigit_ofNat o.toNat)
  have hlength : (Text.ofNat o.toNat).length ≤ 3 := Text.length_ofNat_le (by decide) (by omega)
  have hzero : ¬ (Text.ofNat o.toNat ≠ ['0'] ∧ (Text.ofNat o.toNat).head? = some '0') := by
    rintro ⟨hne, hhead⟩
    rcases Nat.eq_zero_or_pos o.toNat with h0 | hpos
    · exact hne (by rw [h0]; rfl)
    · exact Text.head?_ofNat hpos hhead
  rw [octet, if_neg (Text.ofNat_ne_nil _), hdigits, if_neg (by decide), if_neg (Nat.not_lt.mpr hlength), if_neg hzero,
    Text.value_ofNat, if_neg (by omega), UInt8.ofNat_toNat]

theorem octet_eq_ok {whole t : Text} {o : UInt8} (h : octet whole t = .ok o) : t = Text.ofNat o.toNat := by
  unfold octet at h
  split at h
  · cases h
  rename_i hne
  split at h
  · cases h
  rename_i hdigits
  split at h
  · cases h
  split at h
  · cases h
  rename_i hzero
  split at h
  · cases h
  rename_i hrange
  cases h
  have hall : ∀ c ∈ t, Text.isAsciiDigit c = true := by simpa using hdigits
  rw [UInt8.toNat_ofNat', Nat.mod_eq_of_lt (by omega)]
  exact (Text.ofNat_value hall hne fun hn hh => hzero ⟨hn, hh⟩).symm

theorem mem_text {a : Ipv4} {c : Char} (h : c ∈ a.text) : c = '.' ∨ Text.isAsciiDigit c = true := by
  simp only [text, toBytes, List.map_cons, List.map_nil, List.intercalate, List.intersperse, List.flatten_cons,
    List.flatten_nil, List.mem_append, List.mem_singleton, List.not_mem_nil, or_false] at h
  rcases h with h | h | h | h | h | h | h
  all_goals first | exact .inl h | exact .inr (Text.isAsciiDigit_ofNat _ c h)

theorem not_mem_text {a : Ipv4} {c : Char} (hc : c ≠ '.') (hd : Text.isAsciiDigit c = false) : c ∉ a.text := by
  intro h
  rcases mem_text h with h | h
  · exact hc h
  · rw [hd] at h
    cases h

theorem text_splitOn (a : Ipv4) : a.text.splitOn '.' = a.toBytes.map fun o => Text.ofNat o.toNat := by
  have hpoint : ∀ l ∈ a.toBytes.map fun o => Text.ofNat o.toNat, '.' ∉ l := by
    intro l hl hm
    obtain ⟨o, -, rfl⟩ := List.mem_map.mp hl
    exact absurd (Text.isAsciiDigit_ofNat _ '.' hm) (by decide)
  exact List.splitOn_intercalate '.' hpoint (by simp [toBytes])

theorem text_ne_nil (a : Ipv4) : a.text ≠ [] := by
  intro h
  have hparts := congrArg List.length (text_splitOn a)
  rw [h, List.length_map, length_toBytes] at hparts
  exact absurd hparts (by decide)

/-- An address is read back from its text. -/
theorem parseShown_text (shown : Text) (a : Ipv4) : parseShown shown a.text = .ok a := by
  rw [parseShown, if_neg (not_mem_text (by decide) (by decide)), if_neg a.text_ne_nil, text_splitOn]
  simp only [toBytes, List.map_cons, List.map_nil, octet_ofNat]
  rfl

/-- Only the quad of an address is read as this address. -/
theorem parseShown_eq_ok_iff {shown t : Text} {a : Ipv4} : parseShown shown t = .ok a ↔ t = a.text := by
  constructor
  · intro h
    unfold parseShown at h
    split at h
    · cases h
    split at h
    · cases h
    split at h
    · rename_i p q r s hs
      obtain ⟨o₁, h₁, h⟩ := Except.bind_eq_ok_iff.mp h
      obtain ⟨o₂, h₂, h⟩ := Except.bind_eq_ok_iff.mp h
      obtain ⟨o₃, h₃, h⟩ := Except.bind_eq_ok_iff.mp h
      obtain ⟨o₄, h₄, h⟩ := Except.bind_eq_ok_iff.mp h
      cases h
      calc
        t = ['.'].intercalate (t.splitOn '.') := (List.intercalate_splitOn '.').symm
        _ = text ⟨o₁, o₂, o₃, o₄⟩ := by rw [hs, octet_eq_ok h₁, octet_eq_ok h₂, octet_eq_ok h₃, octet_eq_ok h₄]; rfl
    · cases h
  · rintro rfl
    exact parseShown_text shown a

theorem parse?_eq_some_iff {t : Text} {a : Ipv4} : parse? t = some a ↔ t = a.text := by
  rw [← @parseShown_eq_ok_iff t.quoted]
  unfold parse? parse
  cases parseShown t.quoted t with
  | error e => exact ⟨nofun, nofun⟩
  | ok b => exact ⟨fun h => congrArg _ (Option.some.inj h), fun h => congrArg _ (Except.ok.inj h)⟩

theorem head?_text (a : Ipv4) : a.text.head? ≠ some '[' := by
  intro h
  exact not_mem_text (by decide) (by decide) (List.mem_of_head? h)

/-- One of the parts of broken text is broken, and no octet has a surrogate. -/
theorem parseBroken_isError (b : BrokenText) : ∃ e, parseBroken b = .error e := by
  cases h : parseBroken b with
  | error e => exact ⟨e, rfl⟩
  | ok a =>
    have hbroken : ∀ {w : BrokenText} {o : UInt8}, signOctet b.quoted w.signs ≠ .ok o := by
      intro w o ho
      simp [signOctet, w.isBroken] at ho
    obtain ⟨w, hw⟩ := Text.exists_broken_part b '.'
    unfold parseBroken at h
    split at h
    · cases h
    split at h
    · rename_i p q r s hs
      obtain ⟨o₁, h₁, h⟩ := Except.bind_eq_ok_iff.mp h
      obtain ⟨o₂, h₂, h⟩ := Except.bind_eq_ok_iff.mp h
      obtain ⟨o₃, h₃, h⟩ := Except.bind_eq_ok_iff.mp h
      obtain ⟨o₄, h₄, -⟩ := Except.bind_eq_ok_iff.mp h
      rw [hs] at hw
      simp only [List.mem_cons, List.not_mem_nil, or_false] at hw
      rcases hw with rfl | rfl | rfl | rfl
      · exact absurd h₁ hbroken
      · exact absurd h₂ hbroken
      · exact absurd h₃ hbroken
      · exact absurd h₄ hbroken
    · cases h

end SocksTunnel.Ipv4
