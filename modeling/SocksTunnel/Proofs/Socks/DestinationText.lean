import SocksTunnel.Proofs.Address.Literal
import SocksTunnel.Proofs.Socks.RequestCodec
import SocksTunnel.Setting.Address

/-
  SocksTunnel.Proofs.Socks.DestinationText — which destination a text is. By its grammar a text is
  an IPv4 address, an IPv6 address, perhaps in one pair of square brackets, or else the name of its
  UTF-8 octets. What is read is an address wherever one is left without the brackets at both ends,
  however many there are and of whatever kind.

  Proved: which texts are read as which address, and that all others are names as long as a name may
  be, and refused otherwise. The grammar is followed by all texts but these (`Misread`): a dotted
  quad with brackets, an IPv6 address in other brackets than one pair, and one whose scope is
  brackets alone (`read_by_grammar`).
-/

namespace SocksTunnel.Destination

open Ipv6 (IsGroups IsLiteral)

variable {t l l' g g' r s x x' : Text} {a : Ipv4}

/-- Square brackets, in any number and order. -/
def IsBrackets (t : Text) : Prop := ∀ c ∈ t, isBracket c = true

/-! ## The grammar -/

def IsIpv4Text (t : Text) : Prop := ∃ a, Ipv4.parse? t = some a

/-- An IPv6 address, perhaps in one pair of brackets. -/
def IsIpv6Text (t : Text) : Prop := IsLiteral t ∨ ∃ u, IsLiteral u ∧ t = '[' :: u ++ [']']

/-- A text is the name of its octets, or a bad value where a name may not have so many. -/
def IsNamed (t : Text) : Prop :=
  (∀ h, (Value.text t).toDestination = .ok (domain t.utf8 h)) ∧
  (¬ (1 ≤ t.utf8.length ∧ t.utf8.length ≤ 255) →
    ∃ f, (Value.text t).toDestination = .error f ∧ f.isBadValue = true)

/-- A text is read as what the grammar says that it is. -/
structure FollowsGrammar (t : Text) : Prop where
  ipv6 : (∃ a, (Value.text t).toDestination = .ok (ipv6 a)) ↔ IsIpv6Text t
  ipv4 : (∃ a, (Value.text t).toDestination = .ok (ipv4 a)) ↔ IsIpv4Text t
  named : ¬ IsIpv6Text t → ¬ IsIpv4Text t → IsNamed t

/-- The texts with brackets that are read as something else. -/
inductive Misread : Text → Prop
  /-- A dotted quad with brackets, by the grammar a name. -/
  | quad {l r : Text} (a : Ipv4) (hl : IsBrackets l) (hr : IsBrackets r) (hne : l ++ r ≠ []) :
      Misread (l ++ a.text ++ r)
  /-- An IPv6 address in anything but one pair of brackets, a name too. -/
  | groups {l g r : Text} (hl : IsBrackets l) (hg : IsGroups g) (hr : IsBrackets r) (hne : ¬ (l = [] ∧ r = []))
      (hpair : ¬ (l = ['['] ∧ r = [']'])) : Misread (l ++ g ++ r)
  /-- The same with a scope. It may end in brackets of its own, so those in front decide. -/
  | withScope {l g s : Text} (hl : IsBrackets l) (hg : IsGroups g) (hs : IsScope s) (hb : ¬ IsBrackets s) (hne : l ≠ [])
      (hpair : ¬ (l = ['['] ∧ s.getLast? = some ']')) : Misread (l ++ g ++ '%' :: s)
  /-- An address whose scope is brackets alone. Without them the scope is empty, and what is left no address. -/
  | scope {g s : Text} (hg : IsGroups g) (hs : IsBrackets s) (hne : s ≠ []) : Misread (g ++ '%' :: s)
  | scopeInPair {g s : Text} (hg : IsGroups g) (hs : IsBrackets s) (hne : s ≠ []) :
      Misread ('[' :: g ++ '%' :: s ++ [']'])

/-! ## Addresses between brackets -/

/-- What an address is without its brackets and its scope: neither begins in it. -/
def IsCore (g : Text) : Prop := g ≠ [] ∧ ∀ c ∈ g, isBracket c = false ∧ c ≠ '%'

theorem isBracket_iff {c : Char} : isBracket c = true ↔ c = '[' ∨ c = ']' := by
  simp only [isBracket, Bool.or_eq_true, beq_iff_eq]

theorem isCore_of {g : Text} (hne : g ≠ []) (hb : '[' ∉ g ∧ ']' ∉ g) (hp : '%' ∉ g) : IsCore g := by
  refine ⟨hne, fun c hc => ⟨?_, fun he => hp (he ▸ hc)⟩⟩
  rw [← Bool.not_eq_true, isBracket_iff]
  rintro (rfl | rfl)
  · exact hb.1 hc
  · exact hb.2 hc

theorem isCore_text (a : Ipv4) : IsCore a.text := by
  have hno : ∀ {c : Char}, c ≠ '.' → Text.isAsciiDigit c = false → c ∉ a.text := Ipv4.not_mem_text
  exact isCore_of a.text_ne_nil ⟨hno (by decide) (by decide), hno (by decide) (by decide)⟩ (hno (by decide) (by decide))

theorem isCore_groups (h : IsGroups g) : IsCore g := by
  have hno : ∀ {c : Char}, c ≠ ':' → c ≠ '.' → Ipv6.hexDigit? c = none → c ∉ g := by
    intro c hcolon hpoint hhex hc
    rcases Ipv6.mem_groups h hc with hd | hd | hd
    · exact hcolon hd
    · exact hpoint hd
    · rw [Ipv6.IsHex, hhex] at hd
      cases hd
  have hopen : '[' ∉ g := hno (by decide) (by decide) (by decide)
  have hclose : ']' ∉ g := hno (by decide) (by decide) (by decide)
  exact isCore_of (List.ne_nil_of_mem (Ipv6.colon_mem_groups h)) ⟨hopen, hclose⟩ h.2

/-- What may stand behind an address: brackets, or a scope. -/
def IsTail (x : Text) : Prop := ∀ c ∈ x.head?, isBracket c = true ∨ c = '%'

theorem isTail_brackets (h : IsBrackets r) : IsTail r := fun c hc => .inl (h c (List.mem_of_mem_head? hc))

theorem isTail_scope (s : Text) : IsTail ('%' :: s) := fun _ hc => .inr (Option.some.inj hc).symm

/-- Whether a character can be in an address without its scope. -/
def inCore (c : Char) : Bool := !isBracket c && c != '%'

theorem inCore_of_isCore (hg : IsCore g) : ∀ c ∈ g, inCore c = true := by
  intro c hc
  obtain ⟨hb, hp⟩ := hg.2 c hc
  simp [inCore, hb, hp]

theorem inCore_of_isTail (hx : IsTail x) : ∀ c ∈ x.head?, inCore c = false := by
  intro c hc
  rcases hx c hc with hb | rfl
  · simp [inCore, hb]
  · rfl

theorem head_of_isCore (h : IsCore g) (x : Text) : ∀ c ∈ (g ++ x).head?, isBracket c = false := by
  intro c hc
  rw [List.head?_append_of_ne_nil _ h.1] at hc
  exact (h.2 c (List.mem_of_mem_head? hc)).1

/-- A text has one address with brackets in front of it and something behind it. -/
theorem around_inj (hl : IsBrackets l) (hl' : IsBrackets l') (hg : IsCore g) (hg' : IsCore g') (hx : IsTail x)
    (hx' : IsTail x') (h : l ++ g ++ x = l' ++ g' ++ x') : l = l' ∧ g = g' ∧ x = x' := by
  rw [List.append_assoc, List.append_assoc] at h
  obtain ⟨rfl, hrest⟩ := Text.append_inj_of_class hl hl' (head_of_isCore hg x) (head_of_isCore hg' x') h
  exact ⟨rfl, Text.append_inj_of_class (inCore_of_isCore hg) (inCore_of_isCore hg') (inCore_of_isTail hx)
    (inCore_of_isTail hx') hrest⟩

theorem isBrackets_nil : IsBrackets [] := fun _ hc => absurd hc List.not_mem_nil

theorem isBrackets_pair : IsBrackets ['['] ∧ IsBrackets [']'] := by
  simp [IsBrackets, isBracket]

theorem isScope_append (hs : IsScope s) (hr : IsBrackets r) : IsScope (s ++ r) := by
  have hout : ∀ {c : Char}, isBracket c = false → c ∉ s → c ∉ s ++ r := by
    intro c hc hns hm
    rcases List.mem_append.mp hm with hm | hm
    · exact hns hm
    · exact absurd (hr c hm) (by simp [hc])
  exact ⟨by simp [hs.1], hout (by decide) hs.2.1, hout (by decide) hs.2.2⟩

theorem isScope_of_append (hne : s ≠ []) (h : IsScope (s ++ r)) : IsScope s :=
  ⟨hne, fun hm => h.2.1 (List.mem_append_left r hm), fun hm => h.2.2 (List.mem_append_left r hm)⟩

theorem isScope_brackets (hs : IsBrackets s) (hne : s ≠ []) : IsScope s := by
  have hout : ∀ {c : Char}, isBracket c = false → c ∉ s := fun hc hm => absurd (hs _ hm) (by simp [hc])
  exact ⟨hne, hout (by decide), hout (by decide)⟩

/-! ## What is read -/

/-- The texts that are read as an IPv6 address: what is left without the brackets is one. -/
inductive IsReadIpv6 : Text → Prop
  | groups {l g r : Text} (hl : IsBrackets l) (hg : IsGroups g) (hr : IsBrackets r) : IsReadIpv6 (l ++ g ++ r)
  | withScope {l g s : Text} (hl : IsBrackets l) (hg : IsGroups g) (hs : IsScope s) (hb : ¬ IsBrackets s) :
      IsReadIpv6 (l ++ g ++ '%' :: s)

theorem strip_core (hl : IsBrackets l) (hg : IsCore g) (hr : IsBrackets r) : (l ++ g ++ r).strip isBracket = g := by
  refine Text.strip_append hl hr hg.1 ?_ fun c hc => (hg.2 c (List.mem_of_mem_getLast? hc)).1
  have hhead := head_of_isCore hg []
  rwa [List.append_nil] at hhead

/-- With a scope that is more than brackets, only the brackets at its end are taken. -/
theorem strip_scoped (hl : IsBrackets l) (hg : IsCore g) (hr : IsBrackets r) (hs : ∀ c ∈ s.getLast?, isBracket c = false) :
    (l ++ g ++ '%' :: (s ++ r)).strip isBracket = g ++ '%' :: s := by
  have hlast : ∀ c ∈ (g ++ '%' :: s).getLast?, isBracket c = false := by
    intro c hc
    rw [List.getLast?_append_of_ne_nil _ (List.cons_ne_nil _ _)] at hc
    cases s with
    | nil => exact Option.some.inj hc ▸ rfl
    | cons d s => exact hs c (by rwa [List.getLast?_cons_cons] at hc)
  have hshape : l ++ g ++ '%' :: (s ++ r) = l ++ (g ++ '%' :: s) ++ r := by simp
  rw [hshape]
  exact Text.strip_append hl hr (by simp) (head_of_isCore hg _) hlast

theorem isReadIpv6_iff : IsReadIpv6 t ↔ IsLiteral (t.strip isBracket) := by
  constructor
  · intro h
    cases h with
    | groups hl hg hr =>
      rw [strip_core hl (isCore_groups hg) hr]
      exact hg.1
    | @withScope l g s hl hg hs hb =>
      -- the scope without the brackets at its end
      have hparts := List.rdropWhile_append_rtakeWhile (p := isBracket) (l := s)
      have hne : s.rdropWhile isBracket ≠ [] := fun h => hb (List.rdropWhile_eq_nil_iff.mp h)
      have hlast : ∀ c ∈ (s.rdropWhile isBracket).getLast?, isBracket c = false := by
        intro c hc
        rw [List.getLast?_eq_some_getLast hne] at hc
        exact Bool.eq_false_iff.mpr (Option.some.inj hc ▸ List.rdropWhile_last_not _ _ hne)
      have hr : IsBrackets (s.rtakeWhile isBracket) := fun c => List.mem_rtakeWhile_imp
      have hs' : IsScope (s.rdropWhile isBracket) := isScope_of_append hne (hparts.symm ▸ hs)
      rw [← hparts, strip_scoped hl (isCore_groups hg) hr hlast]
      exact Ipv6.isLiteral_iff.mpr (.inr ⟨g, _, hg, hs', rfl⟩)
  · intro h
    obtain ⟨l, r, hl, hr, ht, hlast⟩ := Text.exists_strip isBracket t
    rw [ht]
    rcases Ipv6.isLiteral_iff.mp h with hg | ⟨g, s, hg, hs, hstrip⟩
    · exact .groups hl hg hr
    · rw [hstrip] at hlast ⊢
      have hshape : l ++ (g ++ '%' :: s) ++ r = l ++ g ++ '%' :: (s ++ r) := by simp
      rw [hshape]
      refine .withScope hl hg (isScope_append hs hr) fun hb => ?_
      -- the scope ends in a character that is no bracket
      have hmem := List.getLast_mem hs.1
      have hend : (s.getLast hs.1) ∈ (g ++ '%' :: s).getLast? := by
        rw [List.getLast?_append_of_ne_nil _ (List.cons_ne_nil _ _), List.getLast?_cons_of_ne_nil hs.1,
          List.getLast?_eq_some_getLast hs.1]
        rfl
      exact absurd (hb _ (List.mem_append_left _ hmem)) (by simp [hlast _ hend])

/-- No text is an address of both families. -/
theorem not_isLiteral_text (a : Ipv4) : ¬ IsLiteral a.text := by
  have hno : ∀ {c : Char}, c ≠ '.' → Text.isAsciiDigit c = false → c ∉ a.text := Ipv4.not_mem_text
  intro h
  rcases Ipv6.isLiteral_iff.mp h with hg | ⟨g, s, -, -, ht⟩
  · exact hno (by decide) (by decide) (Ipv6.colon_mem_groups hg)
  · exact hno (c := '%') (by decide) (by decide) (by simp [ht])

theorem toDestination_eq_ok_iff {d : Destination} : (Value.text t).toDestination = .ok d ↔ ofText t = .ok d := by
  rw [Value.toDestination_text, Except.mapError_eq_ok_iff]

theorem ofText_of_text (h : t.strip isBracket = a.text) : ofText t = .ok (ipv4 a) := by
  simp only [ofText, address?, Ipv4.parse?_eq_some_iff.mpr h]

theorem ofText_of_isLiteral {b : Ipv6} (h : Ipv6.parse? (t.strip isBracket) = some b) : ofText t = .ok (ipv6 b) := by
  have h4 : Ipv4.parse? (t.strip isBracket) = none := by
    rw [Option.eq_none_iff_forall_ne_some]
    intro a ha
    exact not_isLiteral_text a (Ipv4.parse?_eq_some_iff.mp ha ▸ ⟨b, h⟩)
  simp only [ofText, address?, h4, h, Option.map_some]

theorem ofText_of_no_address (h4 : ∀ a : Ipv4, t.strip isBracket ≠ a.text) (h6 : ¬ IsLiteral (t.strip isBracket)) :
    ofText t = ofName t.utf8 := by
  have h4' : Ipv4.parse? (t.strip isBracket) = none := by
    rw [Option.eq_none_iff_forall_ne_some]
    exact fun a ha => h4 a (Ipv4.parse?_eq_some_iff.mp ha)
  have h6' : Ipv6.parse? (t.strip isBracket) = none := by
    rw [Option.eq_none_iff_forall_ne_some]
    exact fun b hb => h6 ⟨b, hb⟩
  simp only [ofText, address?, h4', h6', Option.map_none]

/-- What is left without the brackets decides, and each text falls in one class. -/
theorem ofText_cases (t : Text) :
    (∃ a : Ipv4, t.strip isBracket = a.text ∧ ofText t = .ok (ipv4 a)) ∨
    (∃ b, Ipv6.parse? (t.strip isBracket) = some b ∧ ofText t = .ok (ipv6 b)) ∨
    (∀ a : Ipv4, t.strip isBracket ≠ a.text) ∧ ¬ IsLiteral (t.strip isBracket) ∧ ofText t = ofName t.utf8 := by
  by_cases h4 : ∃ a : Ipv4, t.strip isBracket = a.text
  · obtain ⟨a, ha⟩ := h4
    exact .inl ⟨a, ha, ofText_of_text ha⟩
  by_cases h6 : IsLiteral (t.strip isBracket)
  · obtain ⟨b, hb⟩ := h6
    exact .inr (.inl ⟨b, hb, ofText_of_isLiteral hb⟩)
  · have h4' := not_exists.mp h4
    exact .inr (.inr ⟨h4', h6, ofText_of_no_address h4' h6⟩)

theorem strip_eq_text_iff : t.strip isBracket = a.text ↔ ∃ l r, IsBrackets l ∧ IsBrackets r ∧ t = l ++ a.text ++ r := by
  constructor
  · intro h
    obtain ⟨l, r, hl, hr, ht, -⟩ := Text.exists_strip isBracket t
    exact ⟨l, r, hl, hr, h ▸ ht⟩
  · rintro ⟨l, r, hl, hr, rfl⟩
    exact strip_core hl (isCore_text a) hr

theorem reads_ipv4_iff : (Value.text t).toDestination = .ok (ipv4 a) ↔
    ∃ l r, IsBrackets l ∧ IsBrackets r ∧ t = l ++ a.text ++ r := by
  rw [← strip_eq_text_iff, toDestination_eq_ok_iff]
  refine ⟨fun h => ?_, ofText_of_text⟩
  rcases ofText_cases t with ⟨b, hb, ht⟩ | ⟨b, -, ht⟩ | ⟨-, -, ht⟩
  · cases h.symm.trans ht
    exact hb
  · cases h.symm.trans ht
  · obtain ⟨_, hd⟩ := ofName_eq_ok_iff.mp (ht.symm.trans h)
    cases hd

theorem reads_ipv6_iff {b : Ipv6} : (Value.text t).toDestination = .ok (ipv6 b) ↔ Ipv6.parse? (t.strip isBracket) = some b := by
  rw [toDestination_eq_ok_iff]
  refine ⟨fun h => ?_, ofText_of_isLiteral⟩
  rcases ofText_cases t with ⟨a, -, ht⟩ | ⟨c, hc, ht⟩ | ⟨-, -, ht⟩
  · cases h.symm.trans ht
  · cases h.symm.trans ht
    exact hc
  · obtain ⟨_, hd⟩ := ofName_eq_ok_iff.mp (ht.symm.trans h)
    cases hd

theorem reads_some_ipv6_iff : (∃ b, (Value.text t).toDestination = .ok (ipv6 b)) ↔ IsReadIpv6 t := by
  rw [isReadIpv6_iff]
  exact exists_congr fun _ => reads_ipv6_iff

theorem isNamed_of_no_address (h4 : ¬ ∃ a, (Value.text t).toDestination = .ok (ipv4 a))
    (h6 : ¬ ∃ b, (Value.text t).toDestination = .ok (ipv6 b)) : IsNamed t := by
  have hname : (Value.text t).toDestination = (ofName t.utf8).mapError .destination := by
    rcases ofText_cases t with ⟨a, ha, ht⟩ | ⟨b, hb, ht⟩ | ⟨-, -, ht⟩
    · exact absurd ⟨a, toDestination_eq_ok_iff.mpr ht⟩ h4
    · exact absurd ⟨b, toDestination_eq_ok_iff.mpr ht⟩ h6
    · rw [Value.toDestination_text, ht]
  constructor
  · intro h
    rw [hname, Except.mapError_eq_ok_iff, ofName_eq_ok_iff]
    exact ⟨h, rfl⟩
  · intro h
    rw [hname, ofName, dif_neg h]
    exact ⟨_, rfl, Fault.isBadValue_destination _⟩

/-! ## Where the grammar is followed -/

/-- What the grammar lets stand around groups: nothing, a pair of brackets, a scope, or a scope in the pair. -/
inductive Encloses : Text → Text → Prop
  | nothing : Encloses [] []
  | pair : Encloses ['['] [']']
  | scope {s : Text} (hs : IsScope s) : Encloses [] ('%' :: s)
  | scopeInPair {s : Text} (hs : IsScope s) : Encloses ['['] ('%' :: (s ++ [']']))

theorem Encloses.ends (h : Encloses l x) : IsBrackets l ∧ IsTail x := by
  cases h with
  | nothing => exact ⟨isBrackets_nil, isTail_brackets isBrackets_nil⟩
  | pair => exact ⟨isBrackets_pair.1, isTail_brackets isBrackets_pair.2⟩
  | scope => exact ⟨isBrackets_nil, isTail_scope _⟩
  | scopeInPair => exact ⟨isBrackets_pair.1, isTail_scope _⟩

theorem isIpv6Text_iff : IsIpv6Text t ↔ ∃ l g x, IsGroups g ∧ Encloses l x ∧ t = l ++ g ++ x := by
  constructor
  · rintro (h | ⟨u, h, rfl⟩)
    · rcases Ipv6.isLiteral_iff.mp h with hg | ⟨g, s, hg, hs, rfl⟩
      · exact ⟨[], t, [], hg, .nothing, by simp⟩
      · exact ⟨[], g, _, hg, .scope hs, by simp⟩
    · rcases Ipv6.isLiteral_iff.mp h with hg | ⟨g, s, hg, hs, rfl⟩
      · exact ⟨['['], u, _, hg, .pair, by simp⟩
      · exact ⟨['['], g, _, hg, .scopeInPair hs, by simp⟩
  · rintro ⟨l, g, x, hg, h, rfl⟩
    cases h with
    | nothing => exact .inl (by simpa using hg.1)
    | pair => exact .inr ⟨g, hg.1, by simp⟩
    | scope hs => exact .inl (by simpa using Ipv6.isLiteral_scope hg hs)
    | scopeInPair hs => exact .inr ⟨_, Ipv6.isLiteral_scope hg hs, by simp⟩

/-- What is read as an IPv6 address is one by the grammar, or misread. -/
theorem isIpv6Text_of_isRead (h : IsReadIpv6 t) (hm : ¬ Misread t) : IsIpv6Text t := by
  rw [isIpv6Text_iff]
  cases h with
  | @groups l g r hl hg hr =>
    by_cases hne : l = [] ∧ r = []
    · obtain ⟨rfl, rfl⟩ := hne
      exact ⟨[], g, [], hg, .nothing, rfl⟩
    by_cases hpair : l = ['['] ∧ r = [']']
    · obtain ⟨rfl, rfl⟩ := hpair
      exact ⟨['['], g, [']'], hg, .pair, rfl⟩
    · exact absurd (.groups hl hg hr hne hpair) hm
  | @withScope l g s hl hg hs hb =>
    by_cases hne : l = []
    · exact ⟨l, g, _, hg, hne ▸ .scope hs, rfl⟩
    by_cases hpair : l = ['['] ∧ s.getLast? = some ']'
    · obtain ⟨rfl, hlast⟩ := hpair
      obtain ⟨u, rfl⟩ := List.getLast?_eq_some_iff.mp hlast
      have hu : u ≠ [] := by
        rintro rfl
        exact hb isBrackets_pair.2
      exact ⟨['['], g, _, hg, .scopeInPair (isScope_of_append hu hs), rfl⟩
    · exact absurd (.withScope hl hg hs hb hne hpair) hm

/-- An IPv6 address by the grammar is read as one, or misread. -/
theorem isRead_of_isIpv6Text (h : IsIpv6Text t) (hm : ¬ Misread t) : IsReadIpv6 t := by
  obtain ⟨l, g, x, hg, henc, rfl⟩ := isIpv6Text_iff.mp h
  cases henc with
  | nothing => exact .groups isBrackets_nil hg isBrackets_nil
  | pair => exact .groups isBrackets_pair.1 hg isBrackets_pair.2
  | @scope s hs =>
    by_cases hb : IsBrackets s
    · exact absurd (.scope hg hb hs.1) hm
    · exact .withScope isBrackets_nil hg hs hb
  | @scopeInPair s hs =>
    by_cases hb : IsBrackets s
    · exact absurd (by simpa using Misread.scopeInPair hg hb hs.1) hm
    · exact .withScope isBrackets_pair.1 hg (isScope_append hs isBrackets_pair.2) fun h =>
        hb fun c hc => h c (List.mem_append_left _ hc)

theorem followsGrammar_of_not_misread (hm : ¬ Misread t) : FollowsGrammar t := by
  have h6 : (∃ b, (Value.text t).toDestination = .ok (ipv6 b)) ↔ IsIpv6Text t := by
    rw [reads_some_ipv6_iff]
    exact ⟨fun h => isIpv6Text_of_isRead h hm, fun h => isRead_of_isIpv6Text h hm⟩
  have h4 : (∃ a, (Value.text t).toDestination = .ok (ipv4 a)) ↔ IsIpv4Text t := by
    constructor
    · rintro ⟨a, ha⟩
      obtain ⟨l, r, hl, hr, rfl⟩ := reads_ipv4_iff.mp ha
      by_cases hne : l ++ r = []
      · obtain ⟨rfl, rfl⟩ := List.append_eq_nil_iff.mp hne
        exact ⟨a, Ipv4.parse?_eq_some_iff.mpr (by simp)⟩
      · exact absurd (.quad a hl hr hne) hm
    · rintro ⟨a, ha⟩
      rw [Ipv4.parse?_eq_some_iff] at ha
      exact ⟨a, reads_ipv4_iff.mpr ⟨[], [], isBrackets_nil, isBrackets_nil, by simpa using ha⟩⟩
  exact ⟨h6, h4, fun h6' h4' => isNamed_of_no_address (mt h4.mp h4') (mt h6.mp h6')⟩

theorem encloses_of_isIpv6Text (hl : IsBrackets l) (hg : IsGroups g) (hx : IsTail x) (h : IsIpv6Text (l ++ g ++ x)) :
    Encloses l x := by
  obtain ⟨l', g', x', hg', henc, heq⟩ := isIpv6Text_iff.mp h
  obtain ⟨rfl, -, rfl⟩ := around_inj hl henc.ends.1 (isCore_groups hg) (isCore_groups hg') hx henc.ends.2 heq
  exact henc

/-- Without its brackets a scope of brackets is empty. -/
theorem not_isRead_of_scope (hl : IsBrackets l) (hg : IsGroups g) (hs : IsBrackets s) : ¬ IsReadIpv6 (l ++ g ++ '%' :: s) := by
  intro h
  generalize ht : l ++ g ++ '%' :: s = t at h
  cases h with
  | groups hl' hg' hr =>
    obtain ⟨-, -, rfl⟩ :=
      around_inj hl hl' (isCore_groups hg) (isCore_groups hg') (isTail_scope s) (isTail_brackets hr) ht
    exact absurd (hr '%' List.mem_cons_self) (by decide)
  | withScope hl' hg' hs' hb =>
    obtain ⟨-, -, htail⟩ := around_inj hl hl' (isCore_groups hg) (isCore_groups hg') (isTail_scope s) (isTail_scope _) ht
    cases htail
    exact hb hs

theorem not_followsGrammar_of_misread (hm : Misread t) : ¬ FollowsGrammar t := by
  intro h
  cases hm with
  | @quad l r a hl hr hne =>
    obtain ⟨b, hb⟩ := h.ipv4.mp ⟨a, reads_ipv4_iff.mpr ⟨l, r, hl, hr, rfl⟩⟩
    have heq : l ++ a.text ++ r = [] ++ b.text ++ [] := by simpa using Ipv4.parse?_eq_some_iff.mp hb
    have hnil : IsTail [] := isTail_brackets isBrackets_nil
    obtain ⟨rfl, -, rfl⟩ :=
      around_inj hl isBrackets_nil (isCore_text a) (isCore_text b) (isTail_brackets hr) hnil heq
    exact hne rfl
  | @groups l g r hl hg hr hne hpair =>
    have h6 := h.ipv6.mp (reads_some_ipv6_iff.mpr (.groups hl hg hr))
    cases encloses_of_isIpv6Text hl hg (isTail_brackets hr) h6 with
    | nothing => exact hne ⟨rfl, rfl⟩
    | pair => exact hpair ⟨rfl, rfl⟩
    | scope => exact absurd (hr '%' List.mem_cons_self) (by decide)
    | scopeInPair => exact absurd (hr '%' List.mem_cons_self) (by decide)
  | @withScope l g s hl hg hs hb hne hpair =>
    have h6 := h.ipv6.mp (reads_some_ipv6_iff.mpr (.withScope hl hg hs hb))
    cases encloses_of_isIpv6Text hl hg (isTail_scope s) h6 with
    | scope => exact hne rfl
    | scopeInPair => exact hpair ⟨rfl, List.getLast?_concat⟩
  | @scope g s hg hs hne =>
    have h6 : IsIpv6Text (g ++ '%' :: s) := .inl (Ipv6.isLiteral_scope hg (isScope_brackets hs hne))
    have hread : IsReadIpv6 ([] ++ g ++ '%' :: s) := reads_some_ipv6_iff.mp (h.ipv6.mpr h6)
    exact not_isRead_of_scope isBrackets_nil hg hs hread
  | @scopeInPair g s hg hs hne =>
    have h6 : IsIpv6Text ('[' :: g ++ '%' :: s ++ [']']) :=
      .inr ⟨_, Ipv6.isLiteral_scope hg (isScope_brackets hs hne), by simp⟩
    have hread : IsReadIpv6 (['['] ++ g ++ '%' :: (s ++ [']'])) := by simpa using reads_some_ipv6_iff.mp (h.ipv6.mpr h6)
    have hs' : IsBrackets (s ++ [']']) := fun c hc => (List.mem_append.mp hc).elim (hs c) (isBrackets_pair.2 c)
    exact not_isRead_of_scope isBrackets_pair.1 hg hs' hread

/-- A text is read as an IPv4 address exactly if it is a dotted quad with brackets, or none, at its ends, as an IPv6
address exactly if one is left without them, and otherwise as a name. That is the grammar for all texts but the
misread ones. -/
theorem read_by_grammar (t : Text) :
    (∀ a : Ipv4, (Value.text t).toDestination = .ok (ipv4 a) ↔
      ∃ l r, IsBrackets l ∧ IsBrackets r ∧ t = l ++ a.text ++ r) ∧
    (∀ b : Ipv6, (Value.text t).toDestination = .ok (ipv6 b) ↔ Ipv6.parse? (t.strip isBracket) = some b) ∧
    ((∃ b : Ipv6, (Value.text t).toDestination = .ok (ipv6 b)) ↔ IsReadIpv6 t) ∧
    ((¬ ∃ a, (Value.text t).toDestination = .ok (ipv4 a)) → (¬ ∃ b, (Value.text t).toDestination = .ok (ipv6 b)) →
      IsNamed t) ∧
    (FollowsGrammar t ↔ ¬ Misread t) := by
  refine ⟨fun a => reads_ipv4_iff, fun b => reads_ipv6_iff, reads_some_ipv6_iff, isNamed_of_no_address, ?_⟩
  exact ⟨fun h hm => not_followsGrammar_of_misread hm h, followsGrammar_of_not_misread⟩

/-- A name between brackets is a name with brackets. -/
theorem read_by_grammar_name :
    let t : Text := .lit "[a.b]"
    (¬ ∃ a, (Value.text t).toDestination = .ok (ipv4 a)) ∧ (¬ ∃ b, (Value.text t).toDestination = .ok (ipv6 b)) ∧
      (Value.text t).toDestination = .ok (domain (Text.utf8 (.lit "[a.b]")) (by decide)) := by
  intro t
  have hname : (Value.text t).toDestination = .ok (domain (Text.utf8 (.lit "[a.b]")) (by decide)) := by
    rw [toDestination_eq_ok_iff]
    decide +kernel
  have h4 : ¬ ∃ a, (Value.text t).toDestination = .ok (ipv4 a) := by
    rintro ⟨a, ha⟩
    cases hname.symm.trans ha
  have h6 : ¬ ∃ b, (Value.text t).toDestination = .ok (ipv6 b) := by
    rintro ⟨b, hb⟩
    cases hname.symm.trans hb
  obtain ⟨-, -, -, hnamed, -⟩ := read_by_grammar t
  exact ⟨h4, h6, (hnamed h4 h6).1 _⟩

/-- A dotted quad between brackets is no address by the grammar, and is read as one; an address whose scope is a bracket
is one, and is read as a name. -/
theorem read_bracketed_quad :
    let quad : Text := .lit "[1.2.3.4]"
    let zone : Text := .lit "fe80::1%]"
    ((Value.text quad).toDestination = .ok (ipv4 ⟨1, 2, 3, 4⟩) ∧ ¬ IsIpv4Text quad ∧ ¬ FollowsGrammar quad) ∧
      (Value.text zone).toDestination = .ok (domain zone.utf8 (by decide)) ∧ IsIpv6Text zone ∧ ¬ FollowsGrammar zone := by
  intro quad zone
  have hquad : (Value.text quad).toDestination = .ok (ipv4 ⟨1, 2, 3, 4⟩) := by
    rw [toDestination_eq_ok_iff]
    decide +kernel
  have hno : ¬ IsIpv4Text quad := by
    rintro ⟨a, ha⟩
    rw [show Ipv4.parse? quad = none by decide +kernel] at ha
    cases ha
  have hzone : (Value.text zone).toDestination = .ok (domain zone.utf8 (by decide)) := by
    rw [toDestination_eq_ok_iff]
    decide +kernel
  have h6 : IsIpv6Text zone := .inl (Option.isSome_iff_exists.mp (by decide +kernel))
  refine ⟨⟨hquad, hno, fun h => hno (h.ipv4.mp ⟨_, hquad⟩)⟩, hzone, h6, fun h => ?_⟩
  obtain ⟨b, hb⟩ := h.ipv6.mpr h6
  cases hzone.symm.trans hb

end SocksTunnel.Destination
