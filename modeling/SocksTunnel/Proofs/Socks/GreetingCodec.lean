import SocksTunnel.Proofs.Failure.Chain
import SocksTunnel.Proofs.Socks.RequestCodec

/-
  SocksTunnel.Proofs.Socks.GreetingCodec — the greeting of SOCKS5 as octets: version 5, the
  number of methods, and the methods. Writing asks for at least one method, while reading
  asks only that there are as many as the number says.

  Proved: which drafts are written and as what (`write_eq_ok_iff`), and which octets are read
  and as what (`fields_eq_ok_iff`). Reading accepts what some draft is written as, and one
  greeting more, the one without a method; that one is not written again
  (`greeting_read_write`, `read_no_methods`).
-/

namespace SocksTunnel

/-! ## Octets -/

namespace Value

theorem octet_int_eq_ok_iff {n : Int} {o : UInt8} : (int n).octet = .ok o ↔ n = o.toNat := by
  constructor
  · intro h
    simp only [octet, whole?] at h
    split at h
    · rename_i hn
      cases h
      rw [UInt8.toNat_ofNat']
      omega
    · cases h
  · rintro rfl
    exact octet_ofOctet o

theorem octetsOf_cons_eq_ok_iff {v : Value} {r : List Value} {b : Bytes} :
    octetsOf (v :: r) = .ok b ↔ ∃ o os, v.octet = .ok o ∧ octetsOf r = .ok os ∧ b = o :: os := by
  rw [octetsOf]
  simp only [Except.bind_eq_ok_iff, Except.ok.injEq]
  constructor
  · rintro ⟨o, ho, os, hos, rfl⟩
    exact ⟨o, os, ho, hos, rfl⟩
  · rintro ⟨o, os, ho, hos, rfl⟩
    exact ⟨o, ho, os, hos, rfl⟩

theorem length_of_octetsOf {items : List Value} {b : Bytes} (h : octetsOf items = .ok b) : b.length = items.length := by
  induction items generalizing b with
  | nil =>
    cases h
    rfl
  | cons v r ih =>
    obtain ⟨o, os, -, hos, rfl⟩ := octetsOf_cons_eq_ok_iff.mp h
    rw [List.length_cons, List.length_cons, ih hos]

/-- Whole numbers are octets exactly if all of them are in range. -/
theorem octetsOf_ints {codes : List Int} (h : ∀ c ∈ codes, 0 ≤ c ∧ c ≤ 255) :
    ∃ b : Bytes, codes.map int = b.map ofOctet ∧ octetsOf (codes.map int) = .ok b := by
  suffices hb : ∃ b : Bytes, codes.map int = b.map ofOctet by
    obtain ⟨b, hb⟩ := hb
    exact ⟨b, hb, by rw [hb, octetsOf_map]⟩
  refine ⟨codes.map fun c => UInt8.ofNat c.toNat, ?_⟩
  rw [List.map_map]
  refine List.map_congr_left fun c hc => ?_
  have := h c hc
  rw [Function.comp_apply, ofOctet, UInt8.toNat_ofNat', int.injEq]
  omega

theorem forall_of_octetsOf_ints {codes : List Int} {b : Bytes} (h : octetsOf (codes.map int) = .ok b) :
    ∀ c ∈ codes, 0 ≤ c ∧ c ≤ 255 := by
  induction codes generalizing b with
  | nil => exact fun c hc => absurd hc List.not_mem_nil
  | cons n r ih =>
    obtain ⟨o, os, ho, hos, -⟩ := octetsOf_cons_eq_ok_iff.mp h
    have hn := octet_int_eq_ok_iff.mp ho
    have := o.toNat_lt
    exact List.forall_mem_cons.mpr ⟨by omega, ih hos⟩

end Value

namespace GreetingDraft

variable {d : GreetingDraft} {raw : Bytes} {codes : List Int}

/-- A list is what a new draft offers, even one without methods. -/
theorem offering_list (items : List Value) : offering (.list items) = ⟨.int 5, .list items⟩ := by
  cases items <;> rfl

/-! ## Writing -/

/-- A draft is written if its methods are a list of 1 to 255 octets. -/
theorem write_eq_ok_iff : d.write = .ok raw ↔ ∃ items v methods, d.methods = .list items ∧ d.version.octet = .ok v ∧
    Value.octetsOf items = .ok methods ∧ (1 ≤ methods.length ∧ methods.length ≤ 255) ∧
    raw = v :: UInt8.ofNat methods.length :: methods := by
  constructor
  · intro h
    unfold write at h
    obtain ⟨n, hn, h⟩ := Except.bind_eq_ok_iff.mp h
    split at h
    · cases h
    rename_i hcount
    split at h
    · rename_i items hitems
      obtain ⟨v, _, hv, hrest, rfl⟩ := Value.octetsOf_cons_eq_ok_iff.mp h
      obtain ⟨c, methods, hc, hmethods, rfl⟩ := Value.octetsOf_cons_eq_ok_iff.mp hrest
      rw [hitems] at hn
      obtain rfl : items.length = n := Except.ok.inj hn
      have hlength := Value.length_of_octetsOf hmethods
      have hc := Value.octet_int_eq_ok_iff.mp hc
      refine ⟨items, v, methods, hitems, hv, hmethods, by omega, ?_⟩
      rw [hlength, Int.ofNat_inj.mp hc, UInt8.ofNat_toNat]
    · cases h
  · rintro ⟨items, v, methods, hitems, hv, hmethods, hcount, rfl⟩
    have hlength := Value.length_of_octetsOf hmethods
    have hn : d.methods.size = .ok items.length := by rw [hitems]; rfl
    have hc : (Value.int items.length).octet = .ok (UInt8.ofNat methods.length) := by
      rw [Value.octet_int_eq_ok_iff, Destination.toNat_ofNat_length hcount.2, hlength]
    unfold write
    refine Except.bind_eq_ok_iff.mpr ⟨_, hn, ?_⟩
    rw [if_neg (by omega)]
    simp only [hitems]
    exact Value.octetsOf_cons_eq_ok_iff.mpr ⟨v, _, hv, Value.octetsOf_cons_eq_ok_iff.mpr ⟨_, methods, hc, hmethods, rfl⟩, rfl⟩

theorem write_offering_eq_ok_iff : (∃ methods, (offering methods).write = .ok raw) ↔
    ∃ methods : Bytes, (1 ≤ methods.length ∧ methods.length ≤ 255) ∧ raw = greeting methods := by
  constructor
  · rintro ⟨offered, h⟩
    obtain ⟨items, v, methods, -, hv, -, hcount, rfl⟩ := write_eq_ok_iff.mp h
    obtain rfl : v = 5 := (Except.ok.inj (hv.symm.trans rfl) : v = 5)
    exact ⟨methods, hcount, rfl⟩
  · rintro ⟨methods, hcount, rfl⟩
    refine ⟨.list (methods.map .ofOctet), write_eq_ok_iff.mpr ?_⟩
    rw [offering_list]
    exact ⟨_, 5, methods, rfl, rfl, Value.octetsOf_map methods, hcount, rfl⟩

/-! ## Reading -/

/-- What is read as a greeting has as many methods as its number says. -/
theorem fields_eq_ok_iff : fields raw = .ok d ↔ ∃ methods : Bytes, methods.length ≤ 255 ∧ raw = greeting methods ∧
    d = offering (.list (methods.map .ofOctet)) := by
  simp only [offering_list]
  constructor
  · intro h
    unfold fields at h
    split at h
    · rename_i v n r
      split at h
      · rename_i hv
        obtain ⟨rfl, hn⟩ := hv
        have := n.toNat_lt
        refine ⟨r, by omega, by rw [greeting, hn, UInt8.ofNat_toNat], (Except.ok.inj h).symm⟩
      · cases h
    · cases h
  · rintro ⟨methods, hcount, rfl, rfl⟩
    have hn : methods.length = (UInt8.ofNat methods.length).toNat := (Destination.toNat_ofNat_length hcount).symm
    simp only [greeting, fields, ← hn, and_self, if_true]
    rfl

theorem read_greeting (d : GreetingDraft) {methods : Bytes} (h : methods.length ≤ 255) :
    d.read (greeting methods) = (offering (.list (methods.map .ofOctet)), .ok ()) := by
  rw [read, fields_eq_ok_iff.mpr ⟨methods, h, rfl, rfl⟩]
  rfl

theorem read_ok_iff : (d.read raw).2 = .ok () ↔ ∃ methods : Bytes, methods.length ≤ 255 ∧ raw = greeting methods := by
  constructor
  · intro h
    cases hf : fields raw with
    | error e =>
      rw [read, hf] at h
      cases h
    | ok g =>
      obtain ⟨methods, hcount, hraw, -⟩ := fields_eq_ok_iff.mp hf
      exact ⟨methods, hcount, hraw⟩
  · rintro ⟨methods, hcount, rfl⟩
    rw [read_greeting d hcount]

theorem eq_nil_of_greeting {methods : Bytes} (h : methods.length ≤ 255) : greeting methods = [5, 0] ↔ methods = [] := by
  constructor
  · intro hg
    have hlast := congrArg List.length hg
    simp only [greeting, List.length_cons, List.length_nil] at hlast
    exact List.length_eq_zero_iff.mp (by omega)
  · rintro rfl
    rfl

/-! ## Both -/

/-- Methods that can be offered: 1 to 255 of them, each an octet. -/
structure IsOffer (codes : List Int) : Prop where
  some : 1 ≤ codes.length
  few : codes.length ≤ 255
  octets : ∀ c ∈ codes, 0 ≤ c ∧ c ≤ 255

theorem IsOffer.write_read (h : IsOffer codes) (d : GreetingDraft) :
    ∃ out, (offering (.list (codes.map .int))).write = .ok out ∧
      d.read out = (offering (.list (codes.map .int)), .ok ()) := by
  obtain ⟨b, hb, hoctets⟩ := Value.octetsOf_ints h.octets
  have hlength : b.length = codes.length := by
    rw [Value.length_of_octetsOf hoctets, List.length_map]
  have hcount : 1 ≤ b.length ∧ b.length ≤ 255 := by
    rw [hlength]
    exact ⟨h.some, h.few⟩
  refine ⟨greeting b, write_eq_ok_iff.mpr ?_, by rw [read_greeting d hcount.2, hb]⟩
  rw [offering_list]
  exact ⟨_, 5, b, rfl, rfl, hoctets, hcount, rfl⟩

theorem isOffer_of_write (h : (offering (.list (codes.map .int))).write = .ok raw) : IsOffer codes := by
  rw [offering_list] at h
  obtain ⟨items, v, methods, hitems, -, hmethods, hcount, -⟩ := write_eq_ok_iff.mp h
  obtain rfl : codes.map Value.int = items := Value.list.inj hitems
  rw [Value.length_of_octetsOf hmethods, List.length_map] at hcount
  exact ⟨hcount.1, hcount.2, Value.forall_of_octetsOf_ints hmethods⟩

/-- Reading accepts exactly the octets that a draft with some methods is written as, and those of no method, which a draft
that has read them refuses to write; all else that is read is written back octet by octet. What any draft is written as is
accepted exactly if its version is 5. Methods that can be offered are written and read back, and others are not written. -/
theorem greeting_read_write (d : GreetingDraft) (raw : Bytes) (codes : List Int) :
    ((d.read raw).2 = .ok () ↔ raw = [5, 0] ∨ ∃ methods, (offering methods).write = .ok raw) ∧
    ((d.read raw).2 = .ok () → (d.read raw).1.write = if raw = [5, 0] then .error .unmet else .ok raw) ∧
    (∀ e : GreetingDraft, e.write = .ok raw → ((d.read raw).2 = .ok () ↔ raw.octet 0 = 5)) ∧
    (IsOffer codes → ∃ out, (offering (.list (codes.map .int))).write = .ok out ∧
      d.read out = (offering (.list (codes.map .int)), .ok ())) ∧
    (¬ IsOffer codes → ∃ f, (offering (.list (codes.map .int))).write = .error f) := by
  refine ⟨?_, fun h => ?_, fun e he => ?_, fun h => h.write_read d, fun h => ?_⟩
  · rw [read_ok_iff, write_offering_eq_ok_iff]
    constructor
    · rintro ⟨methods, hcount, rfl⟩
      rcases Nat.eq_zero_or_pos methods.length with h0 | hpos
      · exact .inl ((eq_nil_of_greeting hcount).mpr (List.length_eq_zero_iff.mp h0))
      · exact .inr ⟨methods, ⟨hpos, hcount⟩, rfl⟩
    · rintro (rfl | ⟨methods, hcount, rfl⟩)
      · exact ⟨[], by decide, rfl⟩
      · exact ⟨methods, hcount.2, rfl⟩
  · obtain ⟨methods, hcount, rfl⟩ := read_ok_iff.mp h
    rw [read_greeting d hcount]
    by_cases hm : methods = []
    · rw [if_pos ((eq_nil_of_greeting hcount).mpr hm), hm]
      rfl
    · rw [if_neg (mt (eq_nil_of_greeting hcount).mp hm), offering_list]
      have hpos := List.length_pos_iff.mpr hm
      exact write_eq_ok_iff.mpr ⟨_, 5, methods, rfl, rfl, Value.octetsOf_map methods, ⟨hpos, hcount⟩, rfl⟩
  · obtain ⟨items, v, methods, -, -, -, hcount, rfl⟩ := write_eq_ok_iff.mp he
    rw [read_ok_iff]
    constructor
    · rintro ⟨_, -, h⟩
      exact (List.cons.inj h).1
    · intro hv
      obtain rfl : v = 5 := hv
      exact ⟨methods, hcount.2, rfl⟩
  · cases hw : (offering (.list (codes.map .int))).write with
    | error f => exact ⟨f, rfl⟩
    | ok raw => exact absurd (isOffer_of_write hw) h

/-- As many methods as there can be, and the same with one that is no octet. -/
theorem greeting_read_write_full :
    let codes : List Int := (List.range 255).map Int.ofNat
    (IsOffer codes ∧ ∃ raw, (offering (.list (codes.map .int))).write = .ok raw ∧
      ((offering .nothing).read raw).2 = .ok () ∧ raw.octet 0 = 5) ∧
    (¬ IsOffer (256 :: codes.tail) ∧ ∃ f, (offering (.list ((256 :: codes.tail).map .int))).write = .error f) ∧
    ((offering .nothing).read [5, 2, 0, 2]).2 = .ok () ∧
      ((offering .nothing).read [5, 2, 0, 2]).1.write = .ok [5, 2, 0, 2] := by
  intro codes
  have h : IsOffer codes := by
    have hlength : codes.length = 255 := by rw [List.length_map, List.length_range]
    refine ⟨by omega, by omega, fun c hc => ?_⟩
    obtain ⟨n, hn, rfl⟩ := List.mem_map.mp hc
    have := List.mem_range.mp hn
    exact ⟨Int.natCast_nonneg n, by simp only [Int.ofNat_eq_natCast]; omega⟩
  have hno : ¬ IsOffer (256 :: codes.tail) := fun h => absurd (h.octets 256 List.mem_cons_self) (by decide)
  obtain ⟨-, -, -, hoffer, -⟩ := greeting_read_write (offering .nothing) [] codes
  obtain ⟨raw, hw, hr⟩ := hoffer h
  have hok : ((offering .nothing).read raw).2 = .ok () := congrArg Prod.snd hr
  obtain ⟨-, -, hversion, -, hfails⟩ := greeting_read_write (offering .nothing) raw (256 :: codes.tail)
  have htwo : ((offering .nothing).read [5, 2, 0, 2]).2 = .ok () := rfl
  obtain ⟨-, hback, -, -, -⟩ := greeting_read_write (offering .nothing) [5, 2, 0, 2] []
  exact ⟨⟨h, raw, hw, hok, (hversion _ hw).mp hok⟩, ⟨hno, hfails hno⟩, htwo, hback htwo⟩

/-- No draft is written as a greeting without methods, but one is read. -/
theorem read_no_methods :
    ((offering .nothing).read [5, 0]).2 = .ok () ∧ ((offering .nothing).read [5, 0]).1.write = .error .unmet ∧
      ¬ ∃ e : GreetingDraft, e.write = .ok [5, 0] := by
  refine ⟨rfl, rfl, ?_⟩
  rintro ⟨e, he⟩
  obtain ⟨items, v, methods, -, -, -, hcount, hraw⟩ := write_eq_ok_iff.mp he
  obtain rfl : [] = methods := (List.cons.inj (List.cons.inj hraw).2).2
  exact absurd hcount.1 (by decide)

end GreetingDraft

end SocksTunnel
