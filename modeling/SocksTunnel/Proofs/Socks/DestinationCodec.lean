import Mathlib.Data.List.TakeWhile
import SocksTunnel.Proofs.Failure.Chain
import SocksTunnel.Proofs.Socks.RequestCodec
import SocksTunnel.Proofs.Text.Cut

/-
  SocksTunnel.Proofs.Socks.DestinationCodec — what the octets of a destination tell of it. The
  type and the address are sent, the scope of an IPv6 address is not; yet two addresses with
  different scopes are two destinations.

  Proved: decoding an encoding gives the destination without its scope, so it gives back exactly
  the destinations that have none, and two destinations are one exactly if encoding and scope
  are the same (`unpack_encode`). Names and decoded octets have no scope, and text has one only
  behind a percent sign (`scope_of_toName`, `scope_of_unpack`, `mem_of_scope`). Two destinations
  that differ in their scope are sent as one (`encode_two_scopes`).
-/

namespace SocksTunnel

namespace Destination

variable {d e : Destination}

/-- The scope of an IPv6 address, if it has one. -/
def scope : Destination → Option Text
  | ipv6 a => a.scope
  | _ => none

theorem unscoped_eq_iff : d.unscoped = d ↔ d.scope = none := by
  cases d with
  | ipv4 a => exact ⟨fun _ => rfl, fun _ => rfl⟩
  | domain name h => exact ⟨fun _ => rfl, fun _ => rfl⟩
  | ipv6 a =>
    obtain ⟨g, s, hg, hs⟩ := a
    simp only [unscoped, Ipv6.unscoped, scope, ipv6.injEq, Ipv6.mk.injEq, true_and]
    exact eq_comm

/-- Without its scope a destination has the same octets. -/
theorem encode_unscoped (d : Destination) : d.unscoped.encode = d.encode := by
  cases d <;> rfl

theorem unscoped_unscoped (d : Destination) : d.unscoped.unscoped = d.unscoped := by
  cases d <;> rfl

/-- Encodings are those of one destination up to the scope. -/
theorem encode_eq_encode_iff : d.encode = e.encode ↔ d.unscoped = e.unscoped := by
  constructor
  · intro h
    -- both are what the octets that they share are decoded to
    have hd := decodeCode_eq_ok_iff.mpr ⟨unscoped_unscoped d, encode_unscoped d⟩
    have he := decodeCode_eq_ok_iff.mpr ⟨unscoped_unscoped e, (encode_unscoped e).trans h.symm⟩
    exact Except.ok.inj (hd.symm.trans he)
  · intro h
    rw [← encode_unscoped d, h, encode_unscoped]

/-- A destination is its address and its scope. -/
theorem eq_iff_unscoped : d = e ↔ d.unscoped = e.unscoped ∧ d.scope = e.scope := by
  constructor
  · rintro rfl
    exact ⟨rfl, rfl⟩
  · rintro ⟨hu, hs⟩
    cases d <;> cases e <;> simp_all [unscoped, scope, Ipv6.unscoped]
    rename_i a b
    obtain ⟨g, s, hg, hsc⟩ := a
    obtain ⟨g', s', hg', hsc'⟩ := b
    simp_all

/-! ## Where scopes come from -/

theorem scope_of_ofName {name : Bytes} (h : ofName name = .ok d) : d.scope = none := by
  obtain ⟨_, rfl⟩ := ofName_eq_ok_iff.mp h
  rfl

theorem scope_of_decode {t : AddressType} {b : Bytes} (h : decode t b = .ok d) : d.scope = none :=
  unscoped_eq_iff.mp (decode_eq_ok_iff.mp h).2.1

end Destination

namespace Value

variable {d : Destination}

/-- A name has no scope, even one that looks like an address with one. -/
theorem scope_of_toName {v : Value} (h : v.toName = .ok d) : d.scope = none := by
  obtain ⟨u, -, h⟩ := Except.bind_eq_ok_iff.mp h
  split at h
  · exact Destination.scope_of_ofName (Except.mapError_eq_ok_iff.mp h)
  · cases h

theorem scope_of_rawIpv6 {b : Bytes} {a : Ipv6} (h : rawIpv6 (.bytes b) = .ok a) : a.scope = none := by
  cases hb : Ipv6.ofBytes? b with
  | none => simp [rawIpv6, hb] at h
  | some c =>
    simp only [rawIpv6, hb, Except.ok.injEq] at h
    obtain ⟨hu, -⟩ := Ipv6.ofBytes?_eq_some_iff.mp hb
    exact h ▸ congrArg Ipv6.scope hu.symm

/-- Octets have no scope, whatever their address type. -/
theorem scope_of_unpack {type : Value} {b : Bytes} (h : unpack type (.bytes b) = .ok d) : d.scope = none := by
  unfold unpack at h
  split at h
  · obtain ⟨a, -, rfl⟩ := Except.map_eq_ok_iff.mp h
    rfl
  split at h
  · obtain ⟨a, ha, rfl⟩ := Except.map_eq_ok_iff.mp h
    exact scope_of_rawIpv6 ha
  split at h
  · exact Destination.scope_of_decode (Except.mapError_eq_ok_iff.mp h)
  · split at h <;> cases h

end Value

namespace Ipv6

theorem scope_ofParts {whole : Text} {g : List UInt16} {s : Option Text} {a : Ipv6} (h : ofParts whole g s = .ok a) :
    a.scope = s := by
  unfold ofParts at h
  split at h
  · split at h
    · cases h
      rfl
    · cases h
  · split at h
    · split at h
      · cases h
        rfl
      · cases h
    · cases h

/-- What is read from a text has a scope exactly if there is a percent sign in the text. -/
theorem scope_of_parseShown {shown t : Text} {a : Ipv6} (h : parseShown shown t = .ok a) : a.scope.isSome = true ↔ '%' ∈ t := by
  unfold parseShown at h
  split at h
  · cases h
  split at h
  · rename_i hd
    obtain ⟨g, -, h⟩ := Except.bind_eq_ok_iff.mp h
    rw [scope_ofParts h]
    have hno : '%' ∉ t := fun hm => by simpa using List.dropWhile_eq_nil_iff.mp hd '%' hm
    exact ⟨nofun, fun hm => absurd hm hno⟩
  · rename_i c s hd
    split at h
    · cases h
    · obtain ⟨g, -, h⟩ := Except.bind_eq_ok_iff.mp h
      rw [scope_ofParts h]
      have hc : c = '%' := by
        have hh := List.head?_dropWhile_not (fun x => decide (x ≠ '%')) t
        rw [hd] at hh
        simpa using hh
      exact ⟨fun _ => hc ▸ (List.dropWhile_sublist _).mem (hd ▸ List.mem_cons_self), fun _ => rfl⟩

end Ipv6

namespace Destination

variable {d e : Destination}

/-- A text has a scope only behind a percent sign. -/
theorem mem_of_scope {t : Text} (h : ofText t = .ok d) (hs : d.scope ≠ none) : '%' ∈ t := by
  unfold ofText at h
  split at h
  · rename_i a ha
    cases h
    unfold address? at ha
    dsimp only at ha
    split at ha
    · cases ha
      exact absurd rfl hs
    · obtain ⟨a, ha, rfl⟩ := Option.map_eq_some_iff.mp ha
      have hp : Ipv6.parse (t.strip isBracket) = .ok a := by
        unfold Ipv6.parse? at ha
        cases hp : Ipv6.parse (t.strip isBracket) with
        | error _ => rw [hp] at ha; cases ha
        | ok b => rw [hp] at ha; cases ha; rfl
      exact Text.mem_of_mem_strip ((Ipv6.scope_of_parseShown hp).mp (Option.isSome_iff_ne_none.mpr hs))
  · exact absurd (scope_of_ofName h) hs

/-- What is sent of a destination is all but its scope: the encoding is decoded, to the destination without its scope,
and destinations are one exactly if both encoding and scope are. Names and decoded octets have no scope, and text has
one only behind a percent sign. -/
theorem unpack_encode (d e : Destination) :
    (∃ c r, d.encode = c :: r ∧ Value.unpack (.ofOctet c) (.bytes r) = .ok d.unscoped) ∧
    (d.unscoped = d ↔ d.scope = none) ∧
    ((Value.destination d).same (.destination e) = true ↔ d.encode = e.encode ∧ d.scope = e.scope) ∧
    (∀ v : Value, v.toName = .ok d → d.scope = none) ∧
    (∀ (type : Value) (b : Bytes), Value.unpack type (.bytes b) = .ok d → d.scope = none) ∧
    ∀ t : Text, (Value.text t).toDestination = .ok d → d.scope ≠ none → '%' ∈ t := by
  refine ⟨⟨_, _, rfl, ?_⟩, unscoped_eq_iff, ?_, fun v => Value.scope_of_toName, fun type b => Value.scope_of_unpack, ?_⟩
  · exact Value.unpack_eq_ok_iff.mpr ⟨unscoped_unscoped d, encode_unscoped d⟩
  · rw [encode_eq_encode_iff, ← eq_iff_unscoped]
    exact beq_iff_eq
  · intro t ht
    exact mem_of_scope (Except.mapError_eq_ok_iff.mp ht)

/-- The text of an address with a zone, and the same text as a name. -/
theorem unpack_encode_zone :
    let zone : Text := .lit "fe80::1%eth0"
    let d := ipv6 ⟨[0xfe80, 0, 0, 0, 0, 0, 0, 1], some (.lit "eth0"), rfl, by decide⟩
    let name := domain zone.utf8 (by decide)
    ((Value.text zone).toDestination = .ok d ∧ d.scope ≠ none ∧ '%' ∈ zone ∧ d.unscoped ≠ d) ∧
    ((Value.text zone).toName = .ok name ∧ Value.unpack (.ofOctet 3) (.bytes name.payload) = .ok name ∧
      name.scope = none ∧ (Value.destination d).same (.destination name) = false) := by
  intro zone d name
  have hd : (Value.text zone).toDestination = .ok d := by
    rw [Value.toDestination_text, show ofText zone = .ok d by decide +kernel]
    rfl
  have hname : (Value.text zone).toName = .ok name := rfl
  obtain ⟨-, hlost, hsame, -, -, hpercent⟩ := unpack_encode d name
  obtain ⟨⟨_, _, hc, hback⟩, -, -, hnamed, hdecoded, -⟩ := unpack_encode name d
  obtain ⟨rfl, rfl⟩ := List.cons.inj hc
  have hscope : d.scope ≠ none := nofun
  refine ⟨⟨hd, hscope, hpercent zone hd hscope, mt hlost.mp hscope⟩, hname, hback, hnamed _ hname, ?_⟩
  rw [Bool.eq_false_iff]
  exact fun h => hscope ((hsame.mp h).2.trans (hdecoded _ _ hback))

/-- One address in two zones: two destinations, and one request for both. -/
theorem encode_two_scopes :
    let groups : List UInt16 := [0xfe80, 0, 0, 0, 0, 0, 0, 1]
    let d := ipv6 ⟨groups, some (.lit "eth0"), rfl, by decide⟩
    let e := ipv6 ⟨groups, none, rfl, by decide⟩
    (Value.text (.lit "fe80::1%eth0")).toDestination = .ok d ∧ (Value.text (.lit "fe80::1")).toDestination = .ok e ∧
      d ≠ e ∧ d.encode = e.encode ∧ Value.unpack (.ofOctet 4) (.bytes d.payload) = .ok e := by
  intro groups d e
  have hd : ofText (.lit "fe80::1%eth0") = .ok d := by decide +kernel
  have he : ofText (.lit "fe80::1") = .ok e := by decide +kernel
  refine ⟨by rw [Value.toDestination_text, hd]; rfl, by rw [Value.toDestination_text, he]; rfl, by decide, rfl, ?_⟩
  exact Value.unpack_eq_ok_iff.mpr ⟨rfl, rfl⟩

end Destination

end SocksTunnel
