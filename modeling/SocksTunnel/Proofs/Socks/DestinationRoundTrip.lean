import SocksTunnel.Proofs.Address.Compressed
import SocksTunnel.Proofs.Socks.DestinationCodec
import SocksTunnel.Proofs.Socks.DestinationText
import SocksTunnel.Proofs.Text.Utf8

/-
  SocksTunnel.Proofs.Socks.DestinationRoundTrip — a destination that is written as text and read
  again. A quad is written bare, an IPv6 address in its short form between brackets, with its scope
  if it has one, and a name as the text of its octets.

  Proved: whatever a text is read as, its own text is read as the same (`text_read_back`). That
  holds of the destinations that some text stands for, and of no others: not of a name that looks
  like an address, nor of a name that is no UTF-8, nor of an address whose scope ends in a bracket.
-/

namespace SocksTunnel

namespace Ipv6

variable {t s : Text} {a : Ipv6}

/-- The groups of an address, written without its scope. -/
theorem isGroups_groupsText (a : Ipv6) : IsGroups (groupsText a.groups) := by
  have h := parse_text a.unscoped
  rw [text_none rfl] at h
  exact ⟨⟨a.unscoped, parse?_eq_some_iff.mpr h⟩, not_mem_groupsText (by decide) (by decide)⟩

/-- A scope is what stands behind the first percent sign. -/
theorem scope_of_parse (h : parse t = .ok a) :
    (a.scope = none ∧ '%' ∉ t) ∨ ∃ g s, a.scope = some s ∧ '%' ∉ g ∧ t = g ++ '%' :: s := by
  have hpercent := scope_of_parseShown h
  by_cases hp : '%' ∈ t
  · obtain ⟨g, s, rfl, hg⟩ := List.eq_append_cons_of_mem hp
    have hslash : '/' ∉ g ++ '%' :: s := by
      intro hm
      rw [parse, parseShown, if_pos hm] at h
      cases h
    rw [parse_eq_scoped hg hslash] at h
    split at h
    · cases h
    · obtain ⟨n, -, h⟩ := Except.bind_eq_ok_iff.mp h
      exact .inr ⟨g, s, scope_ofParts h, hg, rfl⟩
  · exact .inl ⟨Option.not_isSome_iff_eq_none.mp (mt hpercent.mp hp), hp⟩

end Ipv6

namespace Destination

variable {t : Text} {d : Destination}

/-- The destinations that some text stands for. -/
inductive IsWritable : Destination → Prop
  | ipv4 (a : Ipv4) : IsWritable (ipv4 a)
  | ipv6 {a : Ipv6} (h : ∀ s ∈ a.scope, ∀ c ∈ s.getLast?, isBracket c = false) : IsWritable (ipv6 a)
  /-- A name in UTF-8, unless an address is left of it without brackets. -/
  | name {t : Text} {h : 1 ≤ t.utf8.length ∧ t.utf8.length ≤ 255} (h4 : ∀ a : Ipv4, t.strip isBracket ≠ a.text)
      (h6 : ¬ Ipv6.IsLiteral (t.strip isBracket)) : IsWritable (domain t.utf8 h)

/-- What the destination of a text is written as. -/
inductive Prints (t : Text) : Destination → Text → Prop
  | ipv4 {a : Ipv4} (ht : t.strip isBracket = a.text) : Prints t (ipv4 a) a.text
  | ipv6 {a : Ipv6} {g : Text} (hg : Ipv6.IsCompressed a.groups g) (hs : '%' ∉ t) : Prints t (ipv6 a) ('[' :: g ++ [']'])
  | withScope {a : Ipv6} {g u s : Text} (hg : Ipv6.IsCompressed a.groups g) (hu : '%' ∉ u)
      (hs : t.strip isBracket = u ++ '%' :: s) : Prints t (ipv6 a) ('[' :: g ++ '%' :: s ++ [']'])
  | name (h : 1 ≤ t.utf8.length ∧ t.utf8.length ≤ 255) : Prints t (domain t.utf8 h) t

/-- The last character that is left of a text without brackets is none. -/
theorem not_isBracket_of_strip {c : Char} (h : c ∈ (t.strip isBracket).getLast?) : isBracket c = false := by
  obtain ⟨-, -, -, -, -, hlast⟩ := Text.exists_strip isBracket t
  exact hlast c h

/-- Brackets are no percent signs. -/
theorem not_percent_of_strip (h : '%' ∉ t.strip isBracket) : '%' ∉ t := by
  obtain ⟨l, r, hl, hr, ht, -⟩ := Text.exists_strip isBracket t
  intro hm
  rw [ht, List.mem_append, List.mem_append] at hm
  rcases hm with (hm | hm) | hm
  · exact absurd (hl _ hm) (by decide)
  · exact h hm
  · exact absurd (hr _ hm) (by decide)

theorem isWritable_of_ofText (h : ofText t = .ok d) : IsWritable d := by
  rcases ofText_cases t with ⟨a, -, ht⟩ | ⟨a, ha, ht⟩ | ⟨h4, h6, ht⟩
  · cases h.symm.trans ht
    exact .ipv4 a
  · cases h.symm.trans ht
    refine .ipv6 fun s hs c hc => ?_
    rcases Ipv6.scope_of_parse (Ipv6.parse?_eq_some_iff.mp ha) with ⟨hnone, -⟩ | ⟨g, s', hscope, -, heq⟩
    · rw [hnone] at hs
      cases hs
    · rw [hscope] at hs
      cases hs
      refine not_isBracket_of_strip (t := t) ?_
      cases s with
      | nil => cases hc
      | cons x s => rwa [heq, List.getLast?_append_of_ne_nil _ (List.cons_ne_nil _ _), List.getLast?_cons_cons]
  · obtain ⟨_, rfl⟩ := ofName_eq_ok_iff.mp (ht.symm.trans h)
    exact .name h4 h6

/-- Between its brackets an address is found again. -/
theorem strip_text_ipv6 {a : Ipv6} (h : ∀ s ∈ a.scope, ∀ c ∈ s.getLast?, isBracket c = false) :
    (ipv6 a).text.strip isBracket = a.text := by
  have hcore : IsCore (Ipv6.groupsText a.groups) := isCore_groups (Ipv6.isGroups_groupsText a)
  cases hs : a.scope with
  | none =>
    rw [Ipv6.text_none hs, text, Ipv6.text_none hs]
    exact strip_core isBrackets_pair.1 hcore isBrackets_pair.2
  | some s =>
    rw [Ipv6.text_some hs, text, Ipv6.text_some hs]
    have hshape : '[' :: (Ipv6.groupsText a.groups ++ '%' :: s) ++ [']'] =
        ['['] ++ Ipv6.groupsText a.groups ++ '%' :: (s ++ [']']) := by simp
    rw [hshape]
    exact strip_scoped isBrackets_pair.1 hcore isBrackets_pair.2 (h s hs)

theorem ofText_text (h : IsWritable d) : ofText d.text = .ok d := by
  cases h with
  | ipv4 a =>
    have h := strip_core isBrackets_nil (isCore_text a) isBrackets_nil
    rw [List.nil_append, List.append_nil] at h
    exact ofText_of_text h
  | @ipv6 a h =>
    refine ofText_of_isLiteral ?_
    rw [strip_text_ipv6 h, Ipv6.parse?_eq_some_iff]
    exact Ipv6.parse_text a
  | @name t h h4 h6 =>
    have htext : (domain t.utf8 h).text = t := Text.decodeLossy_utf8 t
    rw [htext, ofText_of_no_address h4 h6]
    exact dif_pos h

theorem prints_of_ofText (h : ofText t = .ok d) : Prints t d d.text := by
  rcases ofText_cases t with ⟨a, ha, ht⟩ | ⟨a, ha, ht⟩ | ⟨-, -, ht⟩
  · cases h.symm.trans ht
    exact .ipv4 ha
  · cases h.symm.trans ht
    have hg := Ipv6.isCompressed_groupsText a.groups
    rcases Ipv6.scope_of_parse (Ipv6.parse?_eq_some_iff.mp ha) with ⟨hnone, hno⟩ | ⟨u, s, hscope, hu, heq⟩
    · rw [text, Ipv6.text_none hnone]
      exact .ipv6 hg (not_percent_of_strip hno)
    · rw [text, Ipv6.text_some hscope]
      simpa using Prints.withScope hg hu heq
  · obtain ⟨hn, rfl⟩ := ofName_eq_ok_iff.mp (ht.symm.trans h)
    have htext : (domain t.utf8 hn).text = t := Text.decodeLossy_utf8 t
    rw [htext]
    exact .name hn

/-- What a text is read as, its own text is read as too: the address it is, with its scope, or the name it is. The same
holds of every destination that some text stands for, and of no other. -/
theorem text_read_back (d : Destination) :
    (∀ t, (Value.text t).toDestination = .ok d → (Value.text d.text).toDestination = .ok d ∧ Prints t d d.text) ∧
    ((Value.text d.text).toDestination = .ok d ↔ IsWritable d) := by
  simp only [toDestination_eq_ok_iff]
  refine ⟨fun t ht => ⟨ofText_text (isWritable_of_ofText ht), prints_of_ofText ht⟩, isWritable_of_ofText, ofText_text⟩

/-- A scope keeps the bracket it begins with, and the first of two runs of zeros is left out. -/
theorem text_read_back_scope :
    let t : Text := .lit "[2001:db8:0:0:1:0:0:1%]x"
    let d : Destination := ipv6 ⟨[0x2001, 0xdb8, 0, 0, 1, 0, 0, 1], some (.lit "]x"), rfl, by decide⟩
    (Value.text t).toDestination = .ok d ∧ d.text = .lit "[2001:db8::1:0:0:1%]x]" ∧
      (Value.text d.text).toDestination = .ok d ∧ Prints t d d.text := by
  intro t d
  have hread : (Value.text t).toDestination = .ok d := by
    rw [toDestination_eq_ok_iff]
    decide +kernel
  exact ⟨hread, by decide +kernel, (text_read_back d).1 t hread⟩

end Destination

end SocksTunnel
