import SocksTunnel.Address.Ipv6
import SocksTunnel.Proofs.Address.Quad
import SocksTunnel.Proofs.Text.Cut

/-
  SocksTunnel.Proofs.Address.Literal — which texts are IPv6 addresses. An address is the text of
  its eight groups, perhaps with a percent sign and a scope behind it; a scope may be any text
  without a percent sign and a slash.

  Proved: these two forms are all there are (`isLiteral_iff`). The groups are written with
  hexadecimal digits, colons and points alone (`mem_groups`) and have a colon in them
  (`colon_mem_groups`), which no dotted quad has.
-/

namespace SocksTunnel.Ipv6

variable {c : Char} {t g s whole : Text}

/-! ## The characters of groups -/

/-- What groups are written with. -/
def IsHex (c : Char) : Prop := (hexDigit? c).isSome = true

theorem isHex_of_mem_group {n : UInt16} (h : group whole t = .ok n) : ∀ c ∈ t, IsHex c := by
  have hall : ∀ (u : Text) (ds : List Nat), u.mapM hexDigit? = some ds → ∀ c ∈ u, IsHex c := by
    intro u
    induction u with
    | nil => exact fun _ _ c hc => absurd hc List.not_mem_nil
    | cons d r ih =>
      intro ds hds c hc
      rw [List.mapM_cons] at hds
      obtain ⟨x, hx, hds⟩ := Option.bind_eq_some_iff.mp hds
      obtain ⟨xs, hxs, -⟩ := Option.bind_eq_some_iff.mp hds
      rcases List.mem_cons.mp hc with rfl | hc
      · exact Option.isSome_of_mem hx
      · exact ih xs hxs c hc
  unfold group at h
  split at h
  · cases h
  · rename_i ds hds
    exact hall t ds hds

theorem isHex_of_mem_groupsOf {parts : List Text} {n : List UInt16} (h : groupsOf whole parts = .ok n) :
    ∀ p ∈ parts, ∀ c ∈ p, IsHex c := by
  induction parts generalizing n with
  | nil => exact fun p hp => absurd hp List.not_mem_nil
  | cons q r ih =>
    obtain ⟨x, hx, h⟩ := Except.bind_eq_ok_iff.mp h
    obtain ⟨xs, hxs, -⟩ := Except.bind_eq_ok_iff.mp h
    intro p hp
    rcases List.mem_cons.mp hp with rfl | hp
    · exact isHex_of_mem_group hx
    · exact ih hxs p hp

/-- Only an empty part is left out at the end of a text. -/
theorem mem_of_side {e : AddressError} {atEnd : Option Text} {parts rest : List Text} (hend : ∀ q ∈ atEnd, q ∈ parts)
    (h : side e atEnd parts = .ok rest) : ∀ p ∈ parts, p = [] ∨ p ∈ rest := by
  intro p hp
  unfold side at h
  split at h
  · cases h
    exact .inr hp
  · rename_i hempty
    split at h
    · rename_i hone
      obtain ⟨q, rfl⟩ := List.length_eq_one_iff.mp hone
      have hq : [] = q := List.mem_singleton.mp (hend [] (not_not.mp hempty))
      exact .inl ((List.mem_singleton.mp hp).trans hq.symm)
    · cases h

theorem isHex_of_mem_aroundGap {before after : List Text} {n : List UInt16} (h : aroundGap whole before after = .ok n) :
    ∀ p, p ∈ before ∨ p ∈ after → ∀ c ∈ p, IsHex c := by
  obtain ⟨b, hb, h⟩ := Except.bind_eq_ok_iff.mp h
  obtain ⟨a, ha, h⟩ := Except.bind_eq_ok_iff.mp h
  dsimp only at h
  split at h
  · cases h
  obtain ⟨x, hx, h⟩ := Except.bind_eq_ok_iff.mp h
  obtain ⟨y, hy, -⟩ := Except.bind_eq_ok_iff.mp h
  intro p hp
  rcases hp with hp | hp
  · rcases mem_of_side (fun q hq => List.mem_of_head? hq) hb p hp with rfl | hp
    · exact fun c hc => absurd hc List.not_mem_nil
    · exact isHex_of_mem_groupsOf hx p hp
  · rcases mem_of_side (fun q hq => List.mem_of_getLast? hq) ha p hp with rfl | hp
    · exact fun c hc => absurd hc List.not_mem_nil
    · exact isHex_of_mem_groupsOf hy p hp

theorem isHex_of_mem_withoutGap {parts : List Text} {n : List UInt16} (h : withoutGap whole parts = .ok n) :
    ∀ p ∈ parts, ∀ c ∈ p, IsHex c := by
  unfold withoutGap at h
  split at h
  · cases h
  split at h
  · cases h
  split at h
  · cases h
  exact isHex_of_mem_groupsOf h

theorem getElem?_of_mem_gaps {parts : List Text} {i : Nat} (h : i ∈ gaps parts) : parts[i]? = some [] := by
  have hi := (List.mem_filter.mp h).2
  simp only [Bool.and_eq_true] at hi
  exact eq_of_beq hi.2

/-- The parts around a gap, and the gap, are all parts. -/
theorem mem_around {parts : List Text} {i : Nat} (h : parts[i]? = some []) {p : Text} (hp : p ∈ parts) :
    p = [] ∨ p ∈ parts.take i ∨ p ∈ parts.drop (i + 1) := by
  rw [← List.take_append_drop i parts, List.drop_eq_getElem?_toList_append, h] at hp
  simp only [Option.toList_some, List.mem_append, List.mem_singleton] at hp
  tauto

/-- A dotted quad at the end aside, the parts are those of the text. -/
theorem mem_withoutQuad {parts rest : List Text} (h : withoutQuad whole parts = .ok rest) {p : Text} (hp : p ∈ parts) :
    p ∈ rest ∨ ∃ a : Ipv4, p = a.text := by
  unfold withoutQuad at h
  split at h
  · cases h
    exact .inl hp
  rename_i q hq
  split at h
  · split at h
    · rename_i a ha
      cases h
      rw [← List.dropLast_append_getLast? q hq] at hp
      rcases List.mem_append.mp hp with hp | hp
      · exact .inl (List.mem_append_left _ hp)
      · exact .inr ⟨a, (List.mem_singleton.mp hp).trans (Ipv4.parseShown_eq_ok_iff.mp ha)⟩
    · cases h
  · cases h
    exact .inl hp

theorem isHex_of_isAsciiDigit (h : Text.isAsciiDigit c = true) : IsHex c := by
  have hc : '0' ≤ c ∧ c ≤ '9' := by simpa [Text.isAsciiDigit] using h
  simp [IsHex, hexDigit?, hc]

theorem exists_parts {n : List UInt16} (h : parseGroups t = .ok n) :
    3 ≤ (t.splitOn ':').length ∧ ∃ parts, withoutQuad t.quoted (t.splitOn ':') = .ok parts ∧ ∀ p ∈ parts, ∀ c ∈ p, IsHex c := by
  unfold parseGroups at h
  split at h
  · cases h
  split at h
  · cases h
  rename_i hlength
  refine ⟨by omega, ?_⟩
  obtain ⟨parts, hparts, h⟩ := Except.bind_eq_ok_iff.mp h
  refine ⟨parts, hparts, ?_⟩
  split at h
  · cases h
  split at h
  · exact isHex_of_mem_withoutGap h
  · rename_i i hi
    intro p hp
    have hgap : parts[i]? = some [] := getElem?_of_mem_gaps (hi ▸ List.mem_singleton_self i)
    rcases mem_around hgap hp with rfl | hp
    · exact fun c hc => absurd hc List.not_mem_nil
    · exact isHex_of_mem_aroundGap h p hp
  · cases h

theorem mem_parseGroups {n : List UInt16} (h : parseGroups t = .ok n) (hc : c ∈ t) : c = ':' ∨ c = '.' ∨ IsHex c := by
  obtain ⟨-, parts, hparts, hhex⟩ := exists_parts h
  have ht : t = [':'].intercalate (t.splitOn ':') := (List.intercalate_splitOn ':').symm
  rw [ht] at hc
  rcases Text.mem_intercalate hc with rfl | ⟨p, hp, hcp⟩
  · exact .inl rfl
  rcases mem_withoutQuad hparts hp with hp | ⟨a, rfl⟩
  · exact .inr (.inr (hhex p hp c hcp))
  · rcases Ipv4.mem_text hcp with hc | hc
    · exact .inr (.inl hc)
    · exact .inr (.inr (isHex_of_isAsciiDigit hc))

/-! ## Literals -/

/-- The text of an address. -/
def IsLiteral (t : Text) : Prop := ∃ a, parse? t = some a

/-- The text of an address without a scope. -/
def IsGroups (t : Text) : Prop := IsLiteral t ∧ '%' ∉ t

theorem parse?_eq_some_iff {a : Ipv6} : parse? t = some a ↔ parse t = .ok a := by
  unfold parse?
  cases parse t with
  | error e => exact ⟨nofun, nofun⟩
  | ok b => exact ⟨fun h => congrArg _ (Option.some.inj h), fun h => congrArg _ (Except.ok.inj h)⟩

theorem isLiteral_iff_parse : IsLiteral t ↔ ∃ a, parse t = .ok a :=
  exists_congr fun _ => parse?_eq_some_iff

theorem ofParts_isOk {n : List UInt16} {s : Option Text} :
    (∃ a, ofParts whole n s = .ok a) ↔ n.length = 8 ∧ ∀ u ∈ s, IsScope u := by
  cases s with
  | none =>
    by_cases hn : n.length = 8
    · simp [ofParts, hn]
    · simp [ofParts, hn]
  | some u =>
    by_cases hu : IsScope u <;> by_cases hn : n.length = 8 <;> simp [ofParts, hu, hn]

/-- Eight groups can be read from a text. -/
def HasGroups (t : Text) : Prop := ∃ n, parseGroups t = .ok n ∧ n.length = 8

theorem exists_parts_iff {s : Option Text} :
    (∃ a, (parseGroups t >>= fun n => ofParts whole n s) = .ok a) ↔ HasGroups t ∧ ∀ u ∈ s, IsScope u := by
  constructor
  · rintro ⟨a, h⟩
    obtain ⟨n, hn, h⟩ := Except.bind_eq_ok_iff.mp h
    obtain ⟨hlength, hs⟩ := ofParts_isOk.mp ⟨a, h⟩
    exact ⟨⟨n, hn, hlength⟩, hs⟩
  · rintro ⟨⟨n, hn, hlength⟩, hs⟩
    obtain ⟨a, ha⟩ := ofParts_isOk.mpr ⟨hlength, hs⟩
    exact ⟨a, Except.bind_eq_ok_iff.mpr ⟨n, hn, ha⟩⟩

/-- Without a percent sign, all of the text is read as groups. -/
theorem parse_eq_plain (h : '%' ∉ t) (hslash : '/' ∉ t) : parse t = parseGroups t >>= fun n => ofParts t.quoted n none := by
  have hd : t.dropWhile (· ≠ '%') = [] := by
    rw [List.dropWhile_eq_nil_iff]
    intro c hc
    simpa using fun he : c = '%' => h (he ▸ hc)
  unfold parse parseShown
  rw [if_neg hslash, hd]

/-- With one, what stands before it is read as groups, and what stands behind it is the scope. -/
theorem parse_eq_scoped (h : '%' ∉ g) (hslash : '/' ∉ g ++ '%' :: s) : parse (g ++ '%' :: s) =
    if s = [] ∨ '%' ∈ s then .error (.scope (g ++ '%' :: s).quoted)
    else parseGroups g >>= fun n => ofParts g.quoted n (some s) := by
  have hall : ∀ c ∈ g, decide (c ≠ '%') = true := by
    intro c hc
    simpa using fun he : c = '%' => h (he ▸ hc)
  have hd : (g ++ '%' :: s).dropWhile (· ≠ '%') = '%' :: s := by
    rw [List.dropWhile_append_of_pos hall]
    rfl
  have ht : (g ++ '%' :: s).takeWhile (· ≠ '%') = g := by
    rw [List.takeWhile_append_of_pos hall]
    exact List.append_nil g
  unfold parse parseShown
  rw [if_neg hslash, hd]
  dsimp only
  rw [ht]

/-- Without a percent sign, all of the text is groups. -/
theorem parse_plain (h : '%' ∉ t) : (∃ a, parse t = .ok a) ↔ '/' ∉ t ∧ HasGroups t := by
  by_cases hslash : '/' ∈ t
  · simp [parse, parseShown, hslash]
  · rw [parse_eq_plain h hslash, exists_parts_iff]
    simp [hslash]

/-- Groups in front of a percent sign, a scope behind it. -/
theorem parse_scoped (h : '%' ∉ g) : (∃ a, parse (g ++ '%' :: s) = .ok a) ↔ '/' ∉ g ∧ HasGroups g ∧ IsScope s := by
  by_cases hslash : '/' ∈ g ++ '%' :: s
  · have hm : '/' ∈ g ∨ '/' ∈ s := by simpa using hslash
    unfold parse parseShown
    rw [if_pos hslash]
    exact ⟨nofun, fun ⟨hg, _, hs⟩ => absurd hm (not_or.mpr ⟨hg, hs.2.2⟩)⟩
  rw [parse_eq_scoped h hslash]
  by_cases hscope : s = [] ∨ '%' ∈ s
  · rw [if_pos hscope]
    exact ⟨nofun, fun ⟨_, _, hs⟩ => absurd hscope (not_or.mpr ⟨hs.1, hs.2.1⟩)⟩
  · rw [if_neg hscope, exists_parts_iff]
    have hg : '/' ∉ g := fun hm => hslash (List.mem_append_left _ hm)
    simp [hg]

theorem isGroups_iff : IsGroups t ↔ '%' ∉ t ∧ '/' ∉ t ∧ HasGroups t := by
  constructor
  · rintro ⟨hliteral, hpercent⟩
    exact ⟨hpercent, (parse_plain hpercent).mp (isLiteral_iff_parse.mp hliteral)⟩
  · rintro ⟨hpercent, h⟩
    exact ⟨isLiteral_iff_parse.mpr ((parse_plain hpercent).mpr h), hpercent⟩

/-- An address is groups, and perhaps a scope behind a percent sign. -/
theorem isLiteral_iff : IsLiteral t ↔ IsGroups t ∨ ∃ g s, IsGroups g ∧ IsScope s ∧ t = g ++ '%' :: s := by
  constructor
  · intro h
    by_cases hpercent : '%' ∈ t
    · obtain ⟨g, s, rfl, hg⟩ := List.eq_append_cons_of_mem hpercent
      obtain ⟨hslash, hgroups, hs⟩ := (parse_scoped hg).mp (isLiteral_iff_parse.mp h)
      exact .inr ⟨g, s, isGroups_iff.mpr ⟨hg, hslash, hgroups⟩, hs, rfl⟩
    · exact .inl ⟨h, hpercent⟩
  · rintro (h | ⟨g, s, hg, hs, rfl⟩)
    · exact h.1
    · obtain ⟨hpercent, hslash, hgroups⟩ := isGroups_iff.mp hg
      exact isLiteral_iff_parse.mpr ((parse_scoped hpercent).mpr ⟨hslash, hgroups, hs⟩)

theorem isLiteral_scope (hg : IsGroups g) (hs : IsScope s) : IsLiteral (g ++ '%' :: s) :=
  isLiteral_iff.mpr (.inr ⟨g, s, hg, hs, rfl⟩)

theorem mem_groups (h : IsGroups t) (hc : c ∈ t) : c = ':' ∨ c = '.' ∨ IsHex c := by
  obtain ⟨-, -, n, hn, -⟩ := isGroups_iff.mp h
  exact mem_parseGroups hn hc

theorem colon_mem_groups (h : IsGroups t) : ':' ∈ t := by
  obtain ⟨-, -, n, hn, -⟩ := isGroups_iff.mp h
  by_contra hno
  have hlength := (exists_parts hn).1
  rw [List.splitOn_eq_singleton hno, List.length_singleton] at hlength
  omega

end SocksTunnel.Ipv6
