import SocksTunnel.Proofs.Address.Literal

/-
  SocksTunnel.Proofs.Address.Compressed — the text of an IPv6 address and what it is read as. Its
  groups are written in hexadecimal between colons; the longest run of zero groups, of several the
  first, is left out between two colons if it has at least two of them.

  Proved: this is what the text is (`isCompressed_groupsText`). Groups that are written so are read
  as themselves, whichever run is left out (`parseGroups_compressed`), and so is an address with its
  scope (`parse_text`).
-/

namespace SocksTunnel.Ipv6

/-! ## The longest run -/

section Run

variable {g l r : List UInt16} {n : Nat}

theorem le_zeroRun_iff : n ≤ zeroRun g ↔ ∃ r, g = List.replicate n 0 ++ r := by
  induction n generalizing g with
  | zero => exact ⟨fun _ => ⟨g, rfl⟩, fun _ => Nat.zero_le _⟩
  | succ n ih =>
    cases g with
    | nil => simp [zeroRun]
    | cons x g =>
      by_cases hx : x = 0
      · subst hx
        have hrun : zeroRun (0 :: g) = zeroRun g + 1 := rfl
        rw [hrun, Nat.add_le_add_iff_right, ih]
        simp [List.replicate_succ]
      · have hrun : zeroRun (x :: g) = 0 := by simp [zeroRun, hx]
        simp [hrun, List.replicate_succ, hx]

/-- A run of zeros with groups before and after it. -/
theorem le_zeroRun_drop (h : g = l ++ List.replicate n 0 ++ r) : n ≤ zeroRun (g.drop l.length) := by
  rw [le_zeroRun_iff, h, List.append_assoc, List.drop_left]
  exact ⟨r, rfl⟩

/-- Of the runs that start before `k`, this one is the longest, and the first of those. -/
structure IsLongest (g : List UInt16) (k : Nat) (best : Nat × Nat) : Prop where
  isRun : best.2 ≤ zeroRun (g.drop best.1)
  longest : ∀ j < k, zeroRun (g.drop j) ≤ best.2
  first : ∀ j < best.1, zeroRun (g.drop j) < best.2

/-- By induction on the starts that were looked at: a run takes the place of the best one only if it is longer. -/
theorem isLongest_fold (g : List UInt16) (k : Nat) : IsLongest g k ((List.range k).foldl
    (fun best i => if best.2 < zeroRun (g.drop i) then (i, zeroRun (g.drop i)) else best) (0, 0)) := by
  induction k with
  | zero => exact ⟨Nat.zero_le _, fun j hj => absurd hj (Nat.not_lt_zero j), fun j hj => absurd hj (Nat.not_lt_zero j)⟩
  | succ k ih =>
    rw [List.range_succ, List.foldl_append, List.foldl_cons, List.foldl_nil]
    obtain ⟨hrun, hlongest, hfirst⟩ := ih
    split
    · rename_i hbetter
      have hbefore : ∀ j < k, zeroRun (g.drop j) < zeroRun (g.drop k) := fun j hj =>
        Nat.lt_of_le_of_lt (hlongest j hj) hbetter
      refine ⟨Nat.le_refl _, fun j hj => ?_, hbefore⟩
      rcases Nat.lt_succ_iff_lt_or_eq.mp hj with hj | rfl
      · exact Nat.le_of_lt (hbefore j hj)
      · exact Nat.le_refl _
    · rename_i hbetter
      refine ⟨hrun, fun j hj => ?_, hfirst⟩
      rcases Nat.lt_succ_iff_lt_or_eq.mp hj with hj | rfl
      · exact hlongest j hj
      · exact Nat.not_lt.mp hbetter

theorem isLongest_longestRun (g : List UInt16) : IsLongest g g.length (longestRun g) := isLongest_fold g g.length

theorem IsLongest.le {best : Nat × Nat} (h : IsLongest g g.length best) (j : Nat) : zeroRun (g.drop j) ≤ best.2 := by
  rcases Nat.lt_or_ge j g.length with hj | hj
  · exact h.longest j hj
  · rw [List.drop_eq_nil_of_le hj]
    exact Nat.zero_le _

/-- The groups around the longest run. -/
theorem IsLongest.split {best : Nat × Nat} (h : IsLongest g g.length best) :
    g = g.take best.1 ++ List.replicate best.2 0 ++ g.drop (best.1 + best.2) := by
  obtain ⟨r, hr⟩ := le_zeroRun_iff.mp h.isRun
  have hrest : g.drop (best.1 + best.2) = r := by
    rw [← List.drop_drop, hr, List.drop_left' List.length_replicate]
  rw [hrest, List.append_assoc, ← hr, List.take_append_drop]

end Run

/-! ## The form of a text -/

/-- The text of groups: all of them where no two zeros stand together, and otherwise those around the longest run of
zeros, the first of several. -/
inductive IsCompressed (g : List UInt16) : Text → Prop
  | whole (hnone : ∀ l r, g ≠ l ++ 0 :: 0 :: r) : IsCompressed g (joined g)
  | gap {l r : List UInt16} {n : Nat} (hn : 2 ≤ n) (hg : g = l ++ List.replicate n 0 ++ r)
      (hlongest : ∀ l' m r', g = l' ++ List.replicate m 0 ++ r' → m ≤ n)
      (hfirst : ∀ l' r', g = l' ++ List.replicate n 0 ++ r' → l.length ≤ l'.length) :
      IsCompressed g (joined l ++ [':', ':'] ++ joined r)

theorem isCompressed_groupsText (g : List UInt16) : IsCompressed g (groupsText g) := by
  have hbest := isLongest_longestRun g
  unfold groupsText
  dsimp only
  split
  · rename_i hshort
    refine .whole fun l r hg => ?_
    have hrun : 2 ≤ zeroRun (g.drop l.length) := le_zeroRun_drop (n := 2) (r := r) (by simpa using hg)
    have hle := hbest.le l.length
    omega
  · rename_i hlong
    refine .gap (Nat.le_of_not_lt hlong) hbest.split (fun l' m r' hg => ?_) fun l' r' hg => ?_
    · exact Nat.le_trans (le_zeroRun_drop hg) (hbest.le l'.length)
    · have hrun : (longestRun g).2 ≤ zeroRun (g.drop l'.length) := le_zeroRun_drop hg
      by_contra hearlier
      have hbefore : l'.length < (longestRun g).1 := by
        rw [List.length_take] at hearlier
        omega
      exact absurd (hbest.first _ hbefore) (Nat.not_lt.mpr hrun)

/-! ## Groups in hexadecimal -/

theorem hexDigit?_digitChar {k : Nat} (h : k < 16) : hexDigit? k.digitChar = some k := by
  revert k
  decide

/-- The digits of a number are read, and have its value. -/
theorem mapM_toDigits (n : Nat) : ∃ ds, (Nat.toDigits 16 n).mapM hexDigit? = some ds ∧ ds.foldl (fun n d => 16 * n + d) 0 = n := by
  induction n using Nat.strongRecOn with
  | ind n ih =>
    by_cases hn : n < 16
    · refine ⟨[n], ?_, by simp⟩
      rw [Nat.toDigits_of_lt_base hn, List.mapM_cons, hexDigit?_digitChar hn]
      rfl
    · obtain ⟨ds, hds, hvalue⟩ := ih (n / 16) (Nat.div_lt_self (by omega) (by decide))
      refine ⟨ds ++ [n % 16], ?_, ?_⟩
      · rw [Nat.toDigits_of_base_le (by decide) (Nat.le_of_not_lt hn), List.mapM_append, hds, List.mapM_cons,
          hexDigit?_digitChar (Nat.mod_lt n (by decide))]
        rfl
      · rw [List.foldl_append, hvalue, List.foldl_cons, List.foldl_nil]
        omega

theorem group_groupText (whole : Text) (x : UInt16) : group whole (groupText x) = .ok x := by
  have hx := x.toNat_lt
  have hlength : (groupText x).length ≤ 4 := (Nat.length_toDigits_le_iff (by decide) (by decide)).mpr hx
  obtain ⟨ds, hds, hvalue⟩ := mapM_toDigits x.toNat
  rw [group, show (groupText x).mapM hexDigit? = some ds from hds]
  dsimp only
  rw [if_neg (Nat.not_lt.mpr hlength), hvalue, UInt16.ofNat_toNat]

theorem groupsOf_map (whole : Text) (g : List UInt16) : groupsOf whole (g.map groupText) = .ok g := by
  induction g with
  | nil => rfl
  | cons x g ih =>
    rw [List.map_cons, groupsOf, group_groupText, ih]
    rfl

theorem groupText_ne_nil (x : UInt16) : groupText x ≠ [] := Nat.toDigits_ne_nil

theorem not_mem_groupText {c : Char} (hc : hexDigit? c = none) (x : UInt16) : c ∉ groupText x := by
  intro hm
  have hhex : IsHex c := isHex_of_mem_group (group_groupText [] x) c hm
  rw [IsHex, hc] at hhex
  cases hhex

theorem mem_joined {c : Char} {g : List UInt16} (h : c ∈ joined g) : c = ':' ∨ IsHex c := by
  rcases Text.mem_intercalate h with hc | ⟨u, hu, hc⟩
  · exact .inl hc
  · obtain ⟨x, -, rfl⟩ := List.mem_map.mp hu
    exact .inr (isHex_of_mem_group (group_groupText [] x) c hc)

/-- The parts of joined groups: a text without any has an empty part. -/
def partsOf (g : List UInt16) : List Text := if g = [] then [[]] else g.map groupText

theorem joined_splitOn (g : List UInt16) : (joined g).splitOn ':' = partsOf g := by
  unfold partsOf
  split
  · rename_i h
    rw [h]
    rfl
  · rename_i h
    refine List.splitOn_intercalate ':' (fun u hu => ?_) (by simpa using h)
    obtain ⟨x, -, rfl⟩ := List.mem_map.mp hu
    exact not_mem_groupText (by decide) x

/-! ## Reading -/

variable {parts l r : List Text} {g : List UInt16} {whole : Text}

theorem withoutQuad_eq (h : ∀ p ∈ parts.getLast?, '.' ∉ p) : withoutQuad whole parts = .ok parts := by
  unfold withoutQuad
  split
  · rfl
  · rename_i p hp
    rw [if_neg (h p hp)]

theorem mem_gaps_iff {i : Nat} : i ∈ gaps parts ↔ 0 < i ∧ i + 1 < parts.length ∧ parts[i]? = some [] := by
  simp only [gaps, List.mem_filter, List.mem_range, Bool.and_eq_true, decide_eq_true_eq, beq_iff_eq]
  constructor
  · rintro ⟨-, ⟨h0, hl⟩, hi⟩
    exact ⟨h0, hl, hi⟩
  · rintro ⟨h0, hl, hi⟩
    exact ⟨Nat.lt_of_succ_lt hl, ⟨h0, hl⟩, hi⟩

theorem gaps_eq_nil (h : [] ∉ parts) : gaps parts = [] := by
  refine List.eq_nil_iff_forall_not_mem.mpr fun i hi => h ?_
  exact List.mem_of_getElem? (mem_gaps_iff.mp hi).2.2

/-- An empty part between others is the only gap if the others are empty at the ends of the text alone. -/
theorem gaps_append (hl : l ≠ []) (hr : r ≠ []) (hleft : ∀ i, 0 < i → l[i]? ≠ some [])
    (hright : ∀ i, i + 1 < r.length → r[i]? ≠ some []) : gaps (l ++ [] :: r) = [l.length] := by
  have hsame : ∀ i, i ∈ gaps (l ++ [] :: r) ↔ i ∈ [l.length] := by
    intro i
    rw [mem_gaps_iff, List.mem_singleton, List.length_append, List.length_cons]
    constructor
    · rintro ⟨h0, hlength, hi⟩
      by_contra hne
      rcases Nat.lt_or_gt_of_ne hne with hlt | hgt
      · rw [List.getElem?_append_left hlt] at hi
        exact hleft i h0 hi
      · obtain ⟨j, rfl⟩ := Nat.exists_eq_add_of_lt hgt
        rw [List.getElem?_append_right (by omega), show l.length + j + 1 - l.length = j + 1 by omega,
          List.getElem?_cons_succ] at hi
        exact hright j (by omega) hi
    · rintro rfl
      have hl' := List.length_pos_iff.mpr hl
      have hr' := List.length_pos_iff.mpr hr
      exact ⟨hl', by omega, by simp⟩
  have hnodup : (gaps (l ++ [] :: r)).Nodup := List.nodup_range.filter _
  exact List.perm_singleton.mp ((List.perm_ext_iff_of_nodup hnodup (by simp)).mpr hsame)

/-! ## The parts of a text -/

theorem empty_mem_partsOf_iff : [] ∈ partsOf g ↔ g = [] := by
  unfold partsOf
  split
  · simp [*]
  · simp [*, groupText_ne_nil]

theorem partsOf_ne_nil (g : List UInt16) : partsOf g ≠ [] := by
  unfold partsOf
  split
  · exact List.cons_ne_nil _ _
  · simpa

theorem length_partsOf_le (g : List UInt16) : (partsOf g).length ≤ g.length + 1 := by
  unfold partsOf
  split
  · exact Nat.le_add_left 1 _
  · rw [List.length_map]
    exact Nat.le_succ _

/-- Where a part is empty, it is the only one. -/
theorem partsOf_of_empty {i : Nat} (h : (partsOf g)[i]? = some []) : i = 0 ∧ (partsOf g).length = 1 := by
  have hg : g = [] := empty_mem_partsOf_iff.mp (List.mem_of_getElem? h)
  subst hg
  have hi : i < 1 := (List.getElem?_eq_some_iff.mp h).1
  exact ⟨Nat.lt_one_iff.mp hi, rfl⟩

theorem head?_partsOf_iff : (partsOf g).head? = some [] ↔ g = [] := by
  refine ⟨fun h => empty_mem_partsOf_iff.mp (List.mem_of_head? h), ?_⟩
  rintro rfl
  rfl

theorem getLast?_partsOf_iff : (partsOf g).getLast? = some [] ↔ g = [] := by
  refine ⟨fun h => empty_mem_partsOf_iff.mp (List.mem_of_getLast? h), ?_⟩
  rintro rfl
  rfl

theorem not_mem_partsOf {c : Char} (hc : hexDigit? c = none) {p : Text} (hp : p ∈ partsOf g) : c ∉ p := by
  unfold partsOf at hp
  split at hp
  · rw [List.mem_singleton.mp hp]
    exact List.not_mem_nil
  · obtain ⟨x, -, rfl⟩ := List.mem_map.mp hp
    exact not_mem_groupText hc x

theorem side_partsOf {e : AddressError} {atEnd : Option Text} (h : atEnd = some [] ↔ g = []) :
    side e atEnd (partsOf g) = .ok (g.map groupText) := by
  unfold side partsOf
  by_cases hg : g = []
  · subst hg
    rw [if_neg (not_not.mpr (h.mpr rfl))]
    rfl
  · rw [if_pos (mt h.mp hg), if_neg hg]

/-! ## Groups that are written -/

/-- Groups without a gap are read as themselves. -/
theorem parseGroups_joined (hg : g.length = 8) : parseGroups (joined g) = .ok g := by
  have hne : g ≠ [] := by
    rintro rfl
    cases hg
  have hempty : [] ∉ partsOf g := mt empty_mem_partsOf_iff.mp hne
  have hparts : partsOf g = g.map groupText := if_neg hne
  have hlength : (partsOf g).length = 8 := by rw [hparts, List.length_map, hg]
  have htext : joined g ≠ [] := by
    intro h
    rw [← joined_splitOn, h] at hlength
    cases hlength
  have hquad : withoutQuad (joined g).quoted (partsOf g) = .ok (partsOf g) :=
    withoutQuad_eq fun p hp => not_mem_partsOf (by decide) (List.mem_of_getLast? hp)
  rw [parseGroups, if_neg htext, joined_splitOn, hlength, if_neg (by decide), hquad]
  show (if 9 < (partsOf g).length then _ else _) = _
  rw [hlength, if_neg (by decide), gaps_eq_nil hempty]
  show withoutGap (joined g).quoted (partsOf g) = .ok g
  rw [withoutGap, hlength, if_neg (by decide), if_neg (mt head?_partsOf_iff.mp hne), if_neg (mt getLast?_partsOf_iff.mp hne),
    hparts, groupsOf_map]

section Gap

variable {b a : List UInt16} {n : Nat}

theorem gap_splitOn (b a : List UInt16) :
    (joined b ++ [':', ':'] ++ joined a).splitOn ':' = partsOf b ++ [] :: partsOf a := by
  have hshape : joined b ++ [':', ':'] ++ joined a = joined b ++ ':' :: ([] ++ ':' :: joined a) := by simp
  rw [hshape, List.splitOn_append_cons_self, List.splitOn_append_cons_self, joined_splitOn, joined_splitOn]
  rfl

theorem withoutQuad_gap (b a : List UInt16) :
    withoutQuad whole (partsOf b ++ [] :: partsOf a) = .ok (partsOf b ++ [] :: partsOf a) := by
  refine withoutQuad_eq fun p hp => ?_
  rcases List.mem_append.mp (List.mem_of_getLast? hp) with hp | hp
  · exact not_mem_partsOf (by decide) hp
  rcases List.mem_cons.mp hp with rfl | hp
  · exact List.not_mem_nil
  · exact not_mem_partsOf (by decide) hp

theorem gaps_partsOf (b a : List UInt16) : gaps (partsOf b ++ [] :: partsOf a) = [(partsOf b).length] := by
  refine gaps_append (partsOf_ne_nil b) (partsOf_ne_nil a) (fun i hi h => ?_) fun i hi h => ?_
  · exact absurd (partsOf_of_empty h).1 (Nat.pos_iff_ne_zero.mp hi)
  · have hone := partsOf_of_empty h
    omega

theorem aroundGap_partsOf (hn : 0 < n) (hsum : b.length + n + a.length = 8) :
    aroundGap whole (partsOf b) (partsOf a) = .ok (b ++ List.replicate n 0 ++ a) := by
  have hzeros : 8 - (b.length + a.length) = n := by omega
  rw [aroundGap, side_partsOf head?_partsOf_iff, side_partsOf getLast?_partsOf_iff]
  show (if 8 - ((b.map groupText).length + (a.map groupText).length) = 0 then _ else _) = _
  rw [List.length_map, List.length_map, hzeros, if_neg (Nat.pos_iff_ne_zero.mp hn), groupsOf_map, groupsOf_map]
  rfl

/-- Groups around a gap are read with zeros in its place. -/
theorem parseGroups_gap (hn : 2 ≤ n) (hsum : b.length + n + a.length = 8) :
    parseGroups (joined b ++ [':', ':'] ++ joined a) = .ok (b ++ List.replicate n 0 ++ a) := by
  have hcount : 3 ≤ (partsOf b ++ [] :: partsOf a).length ∧ (partsOf b ++ [] :: partsOf a).length ≤ 9 := by
    have hb := List.length_pos_iff.mpr (partsOf_ne_nil b)
    have ha := List.length_pos_iff.mpr (partsOf_ne_nil a)
    have hb' := length_partsOf_le b
    have ha' := length_partsOf_le a
    rw [List.length_append, List.length_cons]
    omega
  have hbefore : (partsOf b ++ [] :: partsOf a).take (partsOf b).length = partsOf b := List.take_left
  have hafter : (partsOf b ++ [] :: partsOf a).drop ((partsOf b).length + 1) = partsOf a := by simp
  rw [parseGroups, if_neg (by simp), gap_splitOn, if_neg (Nat.not_lt.mpr hcount.1), withoutQuad_gap]
  show (if 9 < (partsOf b ++ [] :: partsOf a).length then _ else _) = _
  rw [if_neg (Nat.not_lt.mpr hcount.2), gaps_partsOf]
  show aroundGap _ _ _ = _
  rw [hbefore, hafter, aroundGap_partsOf (by omega) hsum]

end Gap

/-- Eight groups are read from their compressed text. -/
theorem parseGroups_compressed {t : Text} (hg : g.length = 8) (h : IsCompressed g t) : parseGroups t = .ok g := by
  cases h with
  | whole => exact parseGroups_joined hg
  | gap hn heq =>
    subst heq
    exact parseGroups_gap hn (by simpa [Nat.add_assoc] using hg)

theorem mem_groupsText {c : Char} (h : c ∈ groupsText g) : c = ':' ∨ IsHex c := by
  have hform := isCompressed_groupsText g
  generalize groupsText g = t at h hform
  cases hform with
  | whole => exact mem_joined h
  | gap =>
    simp only [List.mem_append, List.mem_cons, List.not_mem_nil, or_false] at h
    rcases h with (h | h | h) | h
    · exact mem_joined h
    · exact .inl h
    · exact .inl h
    · exact mem_joined h

theorem not_mem_groupsText {c : Char} (hcolon : c ≠ ':') (hhex : hexDigit? c = none) : c ∉ groupsText g := by
  intro h
  rcases mem_groupsText h with h | h
  · exact hcolon h
  · rw [IsHex, hhex] at h
    cases h

theorem text_none {a : Ipv6} (h : a.scope = none) : a.text = groupsText a.groups := by
  simp [text, h]

theorem text_some {a : Ipv6} {s : Text} (h : a.scope = some s) : a.text = groupsText a.groups ++ '%' :: s := by
  simp [text, h]

/-- An address is read back from its text. -/
theorem parse_text (a : Ipv6) : parse a.text = .ok a := by
  obtain ⟨g, s, hg, hs⟩ := a
  have hpercent : '%' ∉ groupsText g := not_mem_groupsText (by decide) (by decide)
  have hslash : '/' ∉ groupsText g := not_mem_groupsText (by decide) (by decide)
  have hread : parseGroups (groupsText g) = .ok g := parseGroups_compressed hg (isCompressed_groupsText g)
  cases s with
  | none =>
    rw [text_none rfl, parse_eq_plain hpercent hslash, hread]
    exact dif_pos hg
  | some s =>
    obtain ⟨hne, hp, hsl⟩ := hs s rfl
    have hslash' : '/' ∉ groupsText g ++ '%' :: s := by simp [hslash, hsl]
    rw [text_some rfl, parse_eq_scoped hpercent hslash', if_neg (not_or.mpr ⟨hne, hp⟩), hread]
    exact (dif_pos (hs s rfl)).trans (dif_pos hg)

end SocksTunnel.Ipv6
