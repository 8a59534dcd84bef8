import SocksTunnel.Proofs.Handshake.Drafts

/-
  SocksTunnel.Proofs.Socks.RequestCodec — SOCKS5 requests as octets. A request is cut from
  both ends: four octets in front say what is asked and how the destination is laid out, the
  last two are the port, and everything between is the destination.

  Proved: what is read as a destination is what a destination without a scope is written as
  (`Destination.decode_eq_ok_iff`), and these are the encodings of the grammar
  (`Destination.isEncoding_iff`). Reading accepts exactly the octets of a request, writing
  gives back what was read, and reading gives back what was written
  (`request_read_write`).
-/

namespace SocksTunnel

/-! ## Addresses -/

namespace Ipv6

theorem flatMap_pairs {b : Bytes} (h : b.length % 2 = 0) : (pairs b).flatMap Bytes.ofUInt16 = b := by
  fun_induction pairs b with
  | case1 high low r ih =>
    have hr : r.length % 2 = 0 := by
      simp only [List.length_cons] at h
      omega
    rw [List.flatMap_cons, ih hr, Bytes.ofUInt16_toUInt16]
    rfl
  | case2 b hb =>
    cases b with
    | nil => rfl
    | cons p b =>
      cases b with
      | nil => cases h
      | cons q r => exact absurd rfl (hb p q r)

/-- Sixteen octets are an address without a scope, and that one alone. -/
theorem ofBytes?_eq_some_iff {b : Bytes} {a : Ipv6} : ofBytes? b = some a ↔ a.unscoped = a ∧ a.toBytes = b := by
  constructor
  · intro h
    unfold ofBytes? at h
    split at h
    · rename_i hl
      unfold ofGroups? at h
      split at h
      · cases h
        exact ⟨rfl, flatMap_pairs (by rw [hl])⟩
      · cases h
    · cases h
  · rintro ⟨hu, rfl⟩
    rw [← hu]
    exact ofBytes?_toBytes a.unscoped rfl

end Ipv6

/-! ## Destinations -/

namespace Destination

/-- The encodings of destinations: the code of a type and the address, which is four octets, sixteen, or a name of 1
to 255 octets with its length in front. -/
inductive IsEncoding : Bytes → Prop
  | ipv4 {a : Bytes} : a.length = 4 → IsEncoding (1 :: a)
  | ipv6 {a : Bytes} : a.length = 16 → IsEncoding (4 :: a)
  | name {n : UInt8} {a : Bytes} : 1 ≤ n.toNat → a.length = n.toNat → IsEncoding (3 :: n :: a)

variable {t : AddressType} {b : Bytes} {d : Destination}

theorem ofName_eq_ok_iff {name : Bytes} : ofName name = .ok d ↔ ∃ h, d = domain name h := by
  unfold ofName
  split
  · rename_i h
    constructor
    · intro hd
      exact ⟨h, (Except.ok.inj hd).symm⟩
    · rintro ⟨_, rfl⟩
      rfl
  · rename_i h
    constructor
    · intro hd
      cases hd
    · rintro ⟨hb, -⟩
      exact absurd hb h

/-- A payload is read as a destination exactly if that destination, without a scope, has the payload. -/
theorem decode_eq_ok_iff : decode t b = .ok d ↔ d.type = t ∧ d.unscoped = d ∧ d.payload = b := by
  constructor
  · intro h
    unfold decode at h
    split at h
    · split at h
      · rename_i a ha
        cases h
        exact ⟨rfl, rfl, (Ipv4.ofBytes?_eq_some_iff.mp ha).symm⟩
      · cases h
    · split at h
      · rename_i a ha
        cases h
        obtain ⟨hu, hb⟩ := Ipv6.ofBytes?_eq_some_iff.mp ha
        exact ⟨rfl, congrArg ipv6 hu, hb⟩
      · cases h
    · cases h
    · split at h
      · rename_i n name hn
        obtain ⟨hb, rfl⟩ := ofName_eq_ok_iff.mp h
        exact ⟨rfl, rfl, by rw [payload, ← hn, UInt8.ofNat_toNat]⟩
      · cases h
  · rintro ⟨rfl, hu, rfl⟩
    rw [decode_payload, hu]

theorem toNat_ofNat_length {name : Bytes} (h : name.length ≤ 255) : (UInt8.ofNat name.length).toNat = name.length := by
  rw [UInt8.toNat_ofNat']
  omega

/-- The encodings of the grammar are those of the destinations without a scope. -/
theorem isEncoding_iff : IsEncoding b ↔ ∃ d : Destination, d.unscoped = d ∧ d.encode = b := by
  constructor
  · intro h
    cases h with
    | ipv4 hl =>
      obtain ⟨a, ha⟩ := Ipv4.exists_ofBytes? hl
      exact ⟨ipv4 a, rfl, by rw [Ipv4.ofBytes?_eq_some_iff.mp ha]; rfl⟩
    | ipv6 hl =>
      obtain ⟨a, ha⟩ := Ipv6.exists_ofBytes? hl
      obtain ⟨hu, rfl⟩ := Ipv6.ofBytes?_eq_some_iff.mp ha
      exact ⟨ipv6 a, congrArg Destination.ipv6 hu, rfl⟩
    | @name n a hn hl =>
      have hb : 1 ≤ a.length ∧ a.length ≤ 255 := by
        have := n.toNat_lt
        omega
      exact ⟨domain a hb, rfl, by rw [encode, payload, hl, UInt8.ofNat_toNat]; rfl⟩
  · rintro ⟨d, hu, rfl⟩
    cases d with
    | ipv4 a => exact .ipv4 a.length_toBytes
    | ipv6 a => exact .ipv6 a.length_toBytes
    | domain name h =>
      have hn := toNat_ofNat_length h.2
      exact .name (by omega) hn.symm

end Destination

namespace Value

theorem unpack_error {t : AddressType} {b : Bytes} {e : DestinationError} (h : Destination.decode t b = .error e) :
    ∃ f, unpack (.ofOctet t.code) (.bytes b) = .error f ∧ f.isBadValue = true := by
  cases t with
  | ipv4 =>
    show ∃ f, (rawIpv4 (.bytes b)).map Destination.ipv4 = .error f ∧ f.isBadValue = true
    cases ha : Ipv4.ofBytes? b with
    | some a => simp [Destination.decode, ha] at h
    | none => exact ⟨_, by rw [rawIpv4, ha]; rfl, rfl⟩
  | ipv6 =>
    show ∃ f, (rawIpv6 (.bytes b)).map Destination.ipv6 = .error f ∧ f.isBadValue = true
    cases ha : Ipv6.ofBytes? b with
    | some a => simp [Destination.decode, ha] at h
    | none => exact ⟨_, by rw [rawIpv6, ha]; rfl, rfl⟩
  | domain =>
    show ∃ f, (Destination.decode .domain b).mapError Fault.destination = .error f ∧ f.isBadValue = true
    rw [h]
    exact ⟨_, rfl, Fault.isBadValue_destination e⟩

theorem unpack_unknown {c : UInt8} (h : AddressType.ofCode? c.toNat = none) (b : Bytes) :
    unpack (.ofOctet c) (.bytes b) = .error (.addressType (.ofOctet c)) := by
  have hne : ∀ t : AddressType, ¬ sameWhole t.code.toNat (.ofOctet c) = true := by
    intro t ht
    rw [← Steps.sameWhole_ofOctet.mp ht, AddressType.ofCode?_code] at h
    cases h
  have h1 : ¬ sameWhole 1 (.ofOctet c) = true := hne .ipv4
  have h4 : ¬ sameWhole 4 (.ofOctet c) = true := hne .ipv6
  have h3 : ¬ sameWhole 3 (.ofOctet c) = true := hne .domain
  unfold unpack
  rw [if_neg h1, if_neg h4, if_neg h3]
  rfl

/-- Octets behind the code of a type are unpacked as they are decoded, and they are a bad value where they are no
destination. -/
theorem unpack_ofOctet (c : UInt8) (b : Bytes) :
    match Destination.decodeCode c.toNat b with
    | .ok d => unpack (.ofOctet c) (.bytes b) = .ok d
    | .error _ => ∃ f, unpack (.ofOctet c) (.bytes b) = .error f ∧ f.isBadValue = true := by
  unfold Destination.decodeCode
  cases ht : AddressType.ofCode? c.toNat with
  | none => exact ⟨_, unpack_unknown ht b, rfl⟩
  | some t =>
    obtain rfl := AddressType.ofCode?_eq_some ht
    dsimp only
    cases hd : Destination.decode t b with
    | ok d => exact Steps.unpack_of_decode hd
    | error e => exact unpack_error hd

end Value

namespace Destination

theorem decodeCode_eq_ok_iff {c : UInt8} {b : Bytes} {d : Destination} :
    decodeCode c.toNat b = .ok d ↔ d.unscoped = d ∧ d.encode = c :: b := by
  constructor
  · intro h
    unfold decodeCode at h
    split at h
    · rename_i t ht
      obtain rfl := AddressType.ofCode?_eq_some ht
      obtain ⟨rfl, hu, rfl⟩ := decode_eq_ok_iff.mp h
      exact ⟨hu, rfl⟩
    · cases h
  · rintro ⟨hu, he⟩
    obtain ⟨rfl, rfl⟩ := List.cons.inj he
    rw [decodeCode, AddressType.ofCode?_code]
    exact decode_eq_ok_iff.mpr ⟨rfl, hu, rfl⟩

end Destination

/-- Octets are unpacked as the destination that they are behind the code of its type. -/
theorem Value.unpack_eq_ok_iff {c : UInt8} {b : Bytes} {d : Destination} :
    unpack (.ofOctet c) (.bytes b) = .ok d ↔ d.unscoped = d ∧ d.encode = c :: b := by
  have hx := unpack_ofOctet c b
  rw [← Destination.decodeCode_eq_ok_iff]
  cases hd : Destination.decodeCode c.toNat b with
  | ok a =>
    rw [hd] at hx
    rw [show unpack (.ofOctet c) (.bytes b) = .ok a from hx, Except.ok.injEq, Except.ok.injEq]
  | error e =>
    rw [hd] at hx
    obtain ⟨f, hf, -⟩ := hx
    rw [hf]
    exact ⟨nofun, nofun⟩

/-! ## Requests -/

namespace Socks5RequestDraft

/-- The octets of a request: at least seven, with version 5 in front, and one encoding of a destination between the
header and the port. -/
structure IsRequest (raw : Bytes) : Prop where
  length : 7 ≤ raw.length
  version : raw.octet 0 = 5
  destination : Destination.IsEncoding ((raw.take (raw.length - 2)).drop 3)

/-- A request with all its fields. -/
def full (command reserved : UInt8) (dest : Destination) (port : Port) : Socks5RequestDraft :=
  ⟨.int 5, .ofOctet command, .ofOctet reserved, .destination dest, .int port.toNat⟩

theorem write_full (command reserved : UInt8) (dest : Destination) (port : Port) :
    (full command reserved dest port).write =
      .ok (5 :: command :: reserved :: (dest.encode ++ Bytes.ofUInt16 port)) := by
  have hh : Value.octetsOf [.int 5, .ofOctet command, .ofOctet reserved] = .ok [5, command, reserved] :=
    Value.octetsOf_map [5, command, reserved]
  simp only [write, full, hh, Value.layoutWord_port]
  rfl

/-- A request that is long enough, in its parts. -/
theorem read_parts (d : Socks5RequestDraft) (command reserved c p q : UInt8) {address : Bytes} (ha : address ≠ []) :
    d.read (5 :: command :: reserved :: c :: (address ++ [p, q])) =
      match Value.unpack (.ofOctet c) (.bytes address) with
      | .ok dest => (full command reserved dest (Bytes.toUInt16 p q), .ok ())
      | .error f => ({ d with version := .int 5, command := .ofOctet command, reserved := .ofOctet reserved },
          .error (.fault f)) := by
  have hl : (address ++ [p, q]).length - 2 = address.length := by simp
  have h7 : ¬ ((5 :: command :: reserved :: c :: (address ++ [p, q])).length < 7 ∨ (5 : UInt8) ≠ 5) := by
    have := List.length_pos_iff.mpr ha
    refine not_or.mpr ⟨?_, fun h => h rfl⟩
    simp only [List.length_cons, List.length_append, List.length_nil]
    omega
  unfold read
  simp only [if_neg h7, hl, List.take_left, List.drop_left]
  cases Value.unpack (.ofOctet c) (.bytes address) <;> rfl

/-- Octets that begin like a request and are long enough, in their parts. -/
theorem exists_parts {raw : Bytes} (hl : 7 ≤ raw.length) (hv : raw.octet 0 = 5) :
    ∃ command reserved c p q, ∃ address : Bytes, address ≠ [] ∧
      raw = 5 :: command :: reserved :: c :: (address ++ [p, q]) := by
  match raw, hl, hv with
  | v :: command :: reserved :: c :: rest, hl, hv =>
    simp only [List.length_cons] at hl
    obtain rfl : v = 5 := hv
    have hp : (rest.drop (rest.length - 2)).length = 2 := by
      rw [List.length_drop]
      omega
    obtain ⟨p, q, hpq⟩ := List.length_eq_two.mp hp
    refine ⟨command, reserved, c, p, q, rest.take (rest.length - 2), fun h => ?_, ?_⟩
    · have := congrArg List.length h
      rw [List.length_take, List.length_nil] at this
      omega
    · rw [← hpq, List.take_append_drop]

/-- The octets of a request, in their parts. -/
theorem isRequest_parts (command reserved c p q : UInt8) {address : Bytes} (ha : address ≠ []) :
    IsRequest (5 :: command :: reserved :: c :: (address ++ [p, q])) ↔ Destination.IsEncoding (c :: address) := by
  have hd : ((5 :: command :: reserved :: c :: (address ++ [p, q])).take
      ((5 :: command :: reserved :: c :: (address ++ [p, q])).length - 2)).drop 3 = c :: address := by
    have hl : (5 :: command :: reserved :: c :: (address ++ [p, q])).length - 2 =
        (5 :: command :: reserved :: c :: address).length := by simp
    rw [hl]
    show ((5 :: command :: reserved :: c :: address ++ [p, q]).take _).drop 3 = _
    rw [List.take_left]
    rfl
  refine ⟨fun h => hd ▸ h.destination, fun h => ⟨?_, rfl, hd.symm ▸ h⟩⟩
  have := List.length_pos_iff.mpr ha
  simp only [List.length_cons, List.length_append, List.length_nil]
  omega

/-- Octets with such a destination are read as that request, whatever the draft held. -/
theorem read_encode (d : Socks5RequestDraft) (command reserved : UInt8) {dest : Destination} (hu : dest.unscoped = dest)
    (port : Port) : d.read (5 :: command :: reserved :: (dest.encode ++ Bytes.ofUInt16 port)) =
      (full command reserved dest port, .ok ()) := by
  have hne : dest.payload ≠ [] := by
    cases dest with
    | ipv4 a => exact fun h => absurd (congrArg List.length h) (by rw [Destination.payload, a.length_toBytes]; decide)
    | ipv6 a => exact fun h => absurd (congrArg List.length h) (by rw [Destination.payload, a.length_toBytes]; decide)
    | domain name h => exact List.cons_ne_nil _ _
  have hx : Value.unpack (.ofOctet dest.type.code) (.bytes dest.payload) = .ok dest :=
    Value.unpack_eq_ok_iff.mpr ⟨hu, rfl⟩
  rw [Destination.encode, List.cons_append, Bytes.ofUInt16, read_parts d command reserved _ _ _ hne, hx,
    Bytes.toUInt16_ofNat]

/-- Octets that are too few or begin otherwise leave the draft as it was. -/
theorem read_unstarted (d : Socks5RequestDraft) {raw : Bytes} (h : ¬ (7 ≤ raw.length ∧ raw.octet 0 = 5)) :
    d.read raw = (d, .error (.fault (.request .socks5Request))) := by
  unfold read
  split
  · rename_i v _ _ _ _
    rw [if_pos]
    rcases not_and_or.mp h with hl | hv
    · exact .inl (Nat.lt_of_not_le hl)
    · exact .inr hv
  · rfl

/-- What is not a request is refused with a bad value. -/
theorem read_error (d : Socks5RequestDraft) {raw : Bytes} (h : ¬ IsRequest raw) :
    ∃ f : Fault, (d.read raw).2 = .error (.fault f) ∧ f.isBadValue = true := by
  by_cases hl : 7 ≤ raw.length ∧ raw.octet 0 = 5
  · obtain ⟨command, reserved, c, p, q, address, ha, rfl⟩ := exists_parts hl.1 hl.2
    rw [isRequest_parts command reserved c p q ha, Destination.isEncoding_iff] at h
    have hx := Value.unpack_ofOctet c address
    rw [read_parts d command reserved c p q ha]
    cases hd : Destination.decodeCode c.toNat address with
    | ok dest => exact absurd ⟨dest, Destination.decodeCode_eq_ok_iff.mp hd⟩ h
    | error e =>
      rw [hd] at hx
      obtain ⟨f, hf, hb⟩ := hx
      exact ⟨f, by rw [hf], hb⟩
  · exact ⟨_, congrArg Prod.snd (d.read_unstarted hl), rfl⟩

/-- What is a request is the encoding of a destination without a scope, with all else around it. -/
theorem IsRequest.exists_full {raw : Bytes} (h : IsRequest raw) :
    ∃ command reserved dest port, dest.unscoped = dest ∧ (full command reserved dest port).write = .ok raw ∧
      ∀ d : Socks5RequestDraft, d.read raw = (full command reserved dest port, .ok ()) := by
  obtain ⟨command, reserved, c, p, q, address, ha, rfl⟩ := exists_parts h.length h.version
  obtain ⟨dest, hu, he⟩ := Destination.isEncoding_iff.mp ((isRequest_parts command reserved c p q ha).mp h)
  refine ⟨command, reserved, dest, Bytes.toUInt16 p q, hu, ?_, fun d => ?_⟩
  · rw [write_full, he, Bytes.ofUInt16_toUInt16, List.cons_append]
  · rw [← read_encode d command reserved hu, he, Bytes.ofUInt16_toUInt16, List.cons_append]

theorem full_inj {command reserved command' reserved' : UInt8} {dest dest' : Destination} {port port' : Port}
    (h : full command reserved dest port = full command' reserved' dest' port') : dest = dest' ∧ port = port' := by
  simp only [full, mk.injEq, Value.destination.injEq, Value.int.injEq, Int.ofNat_inj] at h
  exact ⟨h.2.2.2.1, UInt16.toNat_inj.mp h.2.2.2.2⟩

/-- Reading accepts exactly the octets of a request, and refuses others with a bad value; what it accepts is written back
octet by octet. A request with any command, reserved octet, destination without a scope and port is written, and read
back as it was: so requests to different destinations or ports have different octets. -/
theorem request_read_write :
    (∀ (d : Socks5RequestDraft) (raw : Bytes),
      ((d.read raw).2 = .ok () ↔ IsRequest raw) ∧
      (¬ IsRequest raw → ∃ f : Fault, (d.read raw).2 = .error (.fault f) ∧ f.isBadValue = true) ∧
      (IsRequest raw → (d.read raw).1.write = .ok raw)) ∧
    (∀ (command reserved : UInt8) (dest : Destination) (port : Port), dest.unscoped = dest →
      ∃ raw, (full command reserved dest port).write = .ok raw ∧
        ∀ d : Socks5RequestDraft, d.read raw = (full command reserved dest port, .ok ())) ∧
    (∀ (command reserved command' reserved' : UInt8) (dest dest' : Destination) (port port' : Port),
      dest.unscoped = dest → dest'.unscoped = dest' →
      (full command reserved dest port).write = (full command' reserved' dest' port').write → dest = dest' ∧ port = port') := by
  refine ⟨fun d raw => ?_, fun command reserved dest port hu => ?_, ?_⟩
  · by_cases h : IsRequest raw
    · obtain ⟨command, reserved, dest, port, -, hw, hr⟩ := h.exists_full
      rw [hr d]
      exact ⟨⟨fun _ => h, fun _ => rfl⟩, fun hn => absurd h hn, fun _ => hw⟩
    · obtain ⟨f, hf, hb⟩ := read_error d h
      have hno : (d.read raw).2 ≠ .ok () := fun hok => nomatch hf.symm.trans hok
      exact ⟨⟨fun hok => absurd hok hno, fun hr => absurd hr h⟩, fun _ => ⟨f, hf, hb⟩, fun hr => absurd hr h⟩
  · exact ⟨_, write_full command reserved dest port, fun d => read_encode d command reserved hu port⟩
  · intro command reserved command' reserved' dest dest' port port' hu hu' hw
    rw [write_full, write_full] at hw
    -- one draft reads the octets of both
    have hr := read_encode (full command reserved dest port) command reserved hu port
    rw [Except.ok.inj hw, read_encode _ command' reserved' hu' port'] at hr
    exact full_inj (congrArg Prod.fst hr.symm)

/-- A name spelled like an address stays a name, its octets are not those of the address, and an address that is cut short
is refused. -/
theorem request_read_write_spelled_address :
    (∀ d : Socks5RequestDraft, d.read [5, 1, 0, 3, 7, 49, 46, 50, 46, 51, 46, 52, 0, 80] =
      (full 1 0 (.domain [49, 46, 50, 46, 51, 46, 52] (by decide)) 80, .ok ())) ∧
    IsRequest [5, 1, 0, 3, 7, 49, 46, 50, 46, 51, 46, 52, 0, 80] ∧
    (full 1 0 (.domain [49, 46, 50, 46, 51, 46, 52] (by decide)) 80).write ≠ (full 1 0 (.ipv4 ⟨1, 2, 3, 4⟩) 80).write ∧
    ∃ f : Fault, ((full 1 0 (.ipv4 ⟨1, 2, 3, 4⟩) 80).read [5, 1, 0, 1, 1, 2, 3, 0, 80]).2 = .error (.fault f) ∧
      f.isBadValue = true := by
  obtain ⟨hcodec, hback, hinj⟩ := request_read_write
  obtain ⟨raw, hw, hr⟩ := hback 1 0 (.domain [49, 46, 50, 46, 51, 46, 52] (by decide)) 80 rfl
  obtain rfl : raw = [5, 1, 0, 3, 7, 49, 46, 50, 46, 51, 46, 52, 0, 80] := Except.ok.inj (hw.symm.trans rfl)
  refine ⟨hr, (hcodec (full 1 0 (.ipv4 ⟨1, 2, 3, 4⟩) 80) _).1.mp (congrArg Prod.snd (hr _)), fun h => ?_,
    (hcodec _ _).2.1 fun h => ?_⟩
  · exact absurd (hinj 1 0 1 0 _ _ 80 80 rfl rfl h).1 nofun
  · cases h.destination with
    | ipv4 hl => exact absurd hl (by decide)

end Socks5RequestDraft

end SocksTunnel
