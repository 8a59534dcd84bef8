import SocksTunnel.Proofs.Failure.Chain
import SocksTunnel.Proofs.Socks.ReplyGrammar
import SocksTunnel.Socks.Draft

/-
  SocksTunnel.Proofs.Socks.Socks4Codec — the messages of SOCKS4 as octets. Everything in a
  request but the user stands at a fixed place. The user is all that is left up to the last
  octet, so that a reader who has the whole request takes zeros within the user as they are.
  A reply has eight octets, and a draft of one may leave any field out.

  Proved: the octets that are read as a request are those of its layout
  (`fields_eq_ok_iff`), and the octets that are read as a reply those of its encoding
  (`Socks4Reply.decode_eq_ok_iff`). Fields that are left out are written as zeros
  (`write_packet` of both drafts). So reading accepts exactly the octets of a message, writing
  gives back what was read, and reading gives back what was written (`socks4_read_write`).
-/

namespace SocksTunnel

/-! ## Requests -/

namespace Socks4RequestDraft

/-- The octets of a request: at least nine, the first of them 4 and the last one zero. -/
structure IsRequest (raw : Bytes) : Prop where
  length : 9 ≤ raw.length
  version : raw.octet 0 = 4
  closed : raw.getLast? = some 0

/-- A request with or without a user. -/
def packet (command : UInt8) (port : Port) (address : Ipv4) (user : Option Bytes) : Socks4RequestDraft :=
  ⟨.int 4, .ofOctet command, .int port.toNat, .bytes address.toBytes, (user.map Value.bytes).getD .nothing⟩

/-- Version, command, port, address, and the user closed by a zero octet. -/
def layout (command : UInt8) (port : Port) (address : Ipv4) (user : Bytes) : Bytes :=
  4 :: command :: (Bytes.ofUInt16 port ++ address.toBytes ++ (user ++ [0]))

variable {command : UInt8} {port : Port} {address : Ipv4} {raw : Bytes}

theorem write_packet (command : UInt8) (port : Port) (address : Ipv4) (user : Option Bytes) :
    (packet command port address user).write = .ok (layout command port address (user.getD [])) := by
  have hu : ((user.map Value.bytes).getD .nothing).orElse (.bytes []) = .bytes (user.getD []) := by
    refine Value.orElse_getD Value.bytes [] (fun b hb => ?_) user
    obtain rfl : b = [] := by simpa [Value.isGiven] using hb
    rfl
  rw [packet, write_fields command port address hu, layout]
  simp only [List.cons_append, List.nil_append, List.append_assoc]

theorem fields_layout (command : UInt8) (port : Port) (address : Ipv4) (user : Bytes) :
    fields (layout command port address user) = .ok (packet command port address (some user)) := by
  have hport : Value.ofWord (UInt8.ofNat (port.toNat / 256)) (UInt8.ofNat port.toNat) = .int port.toNat := by
    rw [Value.ofWord, Bytes.toUInt16_ofNat]
  -- the octet that the reader asks for behind the address is the first of the user, or the zero
  obtain ⟨o, r, hr⟩ : ∃ o r, user ++ [0] = o :: r := List.exists_cons_of_ne_nil (by simp)
  have hfields : fields (layout command port address user) =
      if (o :: r).getLast? ≠ some 0 then .error .socks4Terminator
      else .ok ⟨.int 4, .ofOctet command, .ofWord (UInt8.ofNat (port.toNat / 256)) (UInt8.ofNat port.toNat),
        .bytes address.toBytes, .bytes (o :: r).dropLast⟩ := by
    rw [layout, hr]
    rfl
  rw [hfields, ← hr, List.getLast?_concat, if_neg (not_not_intro rfl), List.dropLast_concat, hport]
  rfl

/-- What is read as a request has its layout. -/
theorem fields_eq_ok_iff {d : Socks4RequestDraft} : fields raw = .ok d ↔
    ∃ command port address user, raw = layout command port address user ∧ d = packet command port address (some user) := by
  constructor
  · intro h
    unfold fields at h
    split at h
    · rename_i v c p q w x y z u r
      split at h
      · cases h
      rename_i hv
      split at h
      · cases h
      rename_i hlast
      obtain ⟨user, hu⟩ := List.getLast?_eq_some_iff.mp (not_not.mp hlast)
      have hraw : v :: c :: p :: q :: w :: x :: y :: z :: u :: r = layout c (Bytes.toUInt16 p q) ⟨w, x, y, z⟩ user := by
        rw [layout, Bytes.ofUInt16_toUInt16, ← hu, not_not.mp hv]
        rfl
      refine ⟨c, Bytes.toUInt16 p q, ⟨w, x, y, z⟩, user, hraw, ?_⟩
      rw [hu, List.dropLast_concat, not_not.mp hv] at h
      exact (Except.ok.inj h).symm
    · cases h
  · rintro ⟨command, port, address, user, rfl, rfl⟩
    exact fields_layout command port address user

theorem isRequest_iff : IsRequest raw ↔ ∃ command port address user, raw = layout command port address user := by
  constructor
  · rintro ⟨hlength, hversion, hclosed⟩
    match raw, hlength with
    | v :: c :: p :: q :: w :: x :: y :: z :: o :: r, _ =>
      obtain rfl : v = 4 := hversion
      have hlast : (o :: r).getLast? = some 0 := hclosed
      obtain ⟨user, hu⟩ := List.getLast?_eq_some_iff.mp hlast
      refine ⟨c, Bytes.toUInt16 p q, ⟨w, x, y, z⟩, user, ?_⟩
      rw [layout, Bytes.ofUInt16_toUInt16, hu]
      rfl
  · rintro ⟨command, port, address, user, rfl⟩
    refine ⟨?_, rfl, ?_⟩
    · simp only [layout, List.length_cons, List.length_append, Bytes.length_ofUInt16, Ipv4.length_toBytes, List.length_nil]
      omega
    · rw [layout, ← List.append_assoc, ← List.cons_append, ← List.cons_append, List.getLast?_concat]

theorem read_layout (d : Socks4RequestDraft) (command : UInt8) (port : Port) (address : Ipv4) (user : Bytes) :
    d.read (layout command port address user) = (packet command port address (some user), .ok ()) := by
  rw [read, fields_layout]
  rfl

/-- What is not a request is refused with a bad value. -/
theorem read_refused (d : Socks4RequestDraft) (h : ¬ IsRequest raw) :
    ∃ f : Fault, (d.read raw).2 = .error (.fault f) ∧ f.isBadValue = true := by
  cases hf : fields raw with
  | error e => exact ⟨.request e, by rw [read, hf]; rfl, rfl⟩
  | ok p =>
    obtain ⟨command, port, address, user, hraw, -⟩ := fields_eq_ok_iff.mp hf
    exact absurd (isRequest_iff.mpr ⟨command, port, address, user, hraw⟩) h

end Socks4RequestDraft

/-! ## Replies -/

theorem Socks4Reply.decode_eq_ok_iff {raw : Bytes} {r : Socks4Reply} : decode raw = .ok r ↔ raw = r.encode := by
  constructor
  · intro h
    unfold decode at h
    split at h
    · rename_i v status p q a b c d
      split at h
      · rename_i hv
        cases h
        rw [encode, Bytes.ofUInt16_toUInt16, hv]
        rfl
      · cases h
    · cases h
  · rintro rfl
    exact decode_encode r

namespace Socks4ReplyDraft

/-- The octets of a reply: eight, the first of them zero. -/
structure IsReply (raw : Bytes) : Prop where
  length : raw.length = 8
  version : raw.octet 0 = 0

/-- A reply with or without each of its fields. -/
def packet (version : Value) (status : Option UInt8) (port : Option Port) (address : Option Ipv4) : Socks4ReplyDraft :=
  ⟨version, (status.map Value.ofOctet).getD .nothing, (port.map fun p => Value.int p.toNat).getD .nothing,
    (address.map fun a => Value.bytes a.toBytes).getD .nothing⟩

variable {raw : Bytes}

theorem write_packet {version : Value} (hv : version = .nothing ∨ version = .int 0) (status : Option UInt8)
    (port : Option Port) (address : Option Ipv4) : (packet version status port address).write =
      .ok (Socks4Reply.encode ⟨status.getD 0, port.getD 0, address.getD .zero⟩) := by
  have hstatus : ((status.map Value.ofOctet).getD .nothing).orElse (.int 0) = .ofOctet (status.getD 0) := by
    refine Value.orElse_getD Value.ofOctet 0 (fun o ho => ?_) status
    obtain rfl : o = 0 := UInt8.toNat_inj.mp (by simpa [Value.isGiven, Value.ofOctet] using ho)
    rfl
  have haddress : ((address.map fun a => Value.bytes a.toBytes).getD .nothing).orElse (.bytes [0, 0, 0, 0]) =
      .bytes (address.getD .zero).toBytes :=
    Value.orElse_getD (fun a : Ipv4 => Value.bytes a.toBytes) .zero (fun a ha => by cases ha) address
  have hblock : (Value.bytes (address.getD .zero).toBytes).layoutBlock 4 = .ok (address.getD .zero).toBytes :=
    Value.layoutBlock_bytes (address.getD .zero).toBytes
  rcases hv with rfl | rfl
  all_goals
    simp only [write, packet, hstatus, Value.orElse_port, haddress, hblock, Value.layoutOctet_ofOctet, Value.layoutWord_port]
    rfl

theorem isReply_iff : IsReply raw ↔ ∃ r : Socks4Reply, raw = r.encode := by
  constructor
  · rintro ⟨hlength, hversion⟩
    match raw, hlength with
    | [v, status, p, q, w, x, y, z], _ =>
      obtain rfl : v = 0 := hversion
      exact ⟨⟨status, Bytes.toUInt16 p q, ⟨w, x, y, z⟩⟩, by rw [Socks4Reply.encode, Bytes.ofUInt16_toUInt16]; rfl⟩
  · rintro ⟨r, rfl⟩
    exact ⟨rfl, rfl⟩

theorem read_encode (d : Socks4ReplyDraft) (r : Socks4Reply) :
    d.read r.encode = (packet (.int 0) (some r.status) (some r.port) (some r.address), .ok ()) := by
  rw [read, Socks4Reply.decode_encode]
  rfl

/-- What is not a reply is refused as a malformed one. -/
theorem read_refused (d : Socks4ReplyDraft) (h : ¬ IsReply raw) :
    ∃ e : ReplyDefect, (d.read raw).2 = .error (.handshake (.malformed e)) := by
  cases hr : Socks4Reply.decode raw with
  | error e => exact ⟨e, by rw [read, hr]; rfl⟩
  | ok r => exact absurd (isReply_iff.mpr ⟨r, Socks4Reply.decode_eq_ok_iff.mp hr⟩) h

end Socks4ReplyDraft

/-! ## Both -/

/-- Reading a request accepts exactly its octets and refuses others with a bad value; reading a reply accepts exactly its
octets and refuses others as malformed. What is accepted is written back octet by octet. A request with any command, port,
address and user is written and read back, no user as an empty one; so is a reply with any fields, and those that it leaves
out are read as zeros. -/
theorem socks4_read_write :
    (∀ (d : Socks4RequestDraft) (raw : Bytes),
      ((d.read raw).2 = .ok () ↔ Socks4RequestDraft.IsRequest raw) ∧
      (¬ Socks4RequestDraft.IsRequest raw → ∃ f : Fault, (d.read raw).2 = .error (.fault f) ∧ f.isBadValue = true) ∧
      (Socks4RequestDraft.IsRequest raw → (d.read raw).1.write = .ok raw)) ∧
    (∀ (command : UInt8) (port : Port) (address : Ipv4) (user : Option Bytes),
      ∃ raw, (Socks4RequestDraft.packet command port address user).write = .ok raw ∧
        ∀ d : Socks4RequestDraft, d.read raw = (.packet command port address (some (user.getD [])), .ok ())) ∧
    (∀ (d : Socks4ReplyDraft) (raw : Bytes),
      ((d.read raw).2 = .ok () ↔ Socks4ReplyDraft.IsReply raw) ∧
      (¬ Socks4ReplyDraft.IsReply raw → ∃ e : ReplyDefect, (d.read raw).2 = .error (.handshake (.malformed e))) ∧
      (Socks4ReplyDraft.IsReply raw → (d.read raw).1.write = .ok raw)) ∧
    (∀ (version : Value) (status : Option UInt8) (port : Option Port) (address : Option Ipv4),
      version = .nothing ∨ version = .int 0 →
      ∃ raw, (Socks4ReplyDraft.packet version status port address).write = .ok raw ∧
        ∀ d : Socks4ReplyDraft, d.read raw =
          (.packet (.int 0) (some (status.getD 0)) (some (port.getD 0)) (some (address.getD .zero)), .ok ())) := by
  refine ⟨fun d raw => ?_, fun command port address user => ?_, fun d raw => ?_, fun version status port address hv => ?_⟩
  · have haccepts : Socks4RequestDraft.IsRequest raw → (d.read raw).2 = .ok () ∧ (d.read raw).1.write = .ok raw := by
      intro h
      obtain ⟨command, port, address, user, rfl⟩ := Socks4RequestDraft.isRequest_iff.mp h
      rw [Socks4RequestDraft.read_layout]
      exact ⟨rfl, Socks4RequestDraft.write_packet _ _ _ (some user)⟩
    refine ⟨Except.eq_ok_iff_of (fun h => (haccepts h).1) fun h => ?_, d.read_refused, fun h => (haccepts h).2⟩
    obtain ⟨f, hf, -⟩ := d.read_refused h
    exact ⟨_, hf⟩
  · exact ⟨_, Socks4RequestDraft.write_packet command port address user, fun d => d.read_layout command port address _⟩
  · have haccepts : Socks4ReplyDraft.IsReply raw → (d.read raw).2 = .ok () ∧ (d.read raw).1.write = .ok raw := by
      intro h
      obtain ⟨r, rfl⟩ := Socks4ReplyDraft.isReply_iff.mp h
      rw [Socks4ReplyDraft.read_encode]
      exact ⟨rfl, Socks4ReplyDraft.write_packet (.inr rfl) (some r.status) (some r.port) (some r.address)⟩
    refine ⟨Except.eq_ok_iff_of (fun h => (haccepts h).1) fun h => ?_, d.read_refused, fun h => (haccepts h).2⟩
    obtain ⟨e, he⟩ := d.read_refused h
    exact ⟨_, he⟩
  · exact ⟨_, Socks4ReplyDraft.write_packet hv status port address, fun d => d.read_encode ⟨_, _, _⟩⟩

/-- A user with a zero in it and a request that is not closed; a reply of zeros, one with another version, and one that
leaves out all but the port. -/
theorem socks4_read_write_zeros :
    (Socks4RequestDraft.IsRequest [4, 2, 0, 0, 0, 0, 0, 0, 97, 0, 98, 0] ∧
      ∀ d : Socks4RequestDraft, (d.read [4, 2, 0, 0, 0, 0, 0, 0, 97, 0, 98, 0]).1.write =
        .ok [4, 2, 0, 0, 0, 0, 0, 0, 97, 0, 98, 0]) ∧
    (¬ Socks4RequestDraft.IsRequest [4, 1, 0, 80, 1, 2, 3, 4, 97] ∧
      ∃ f : Fault, (Socks4RequestDraft.blank.read [4, 1, 0, 80, 1, 2, 3, 4, 97]).2 = .error (.fault f)) ∧
    (Socks4ReplyDraft.IsReply [0, 0, 0, 0, 0, 0, 0, 0] ∧
      ∀ d : Socks4ReplyDraft, (d.read [0, 0, 0, 0, 0, 0, 0, 0]).1.write = .ok [0, 0, 0, 0, 0, 0, 0, 0]) ∧
    (¬ Socks4ReplyDraft.IsReply [4, 0x5a, 0, 0, 0, 0, 0, 0] ∧
      ∃ e, (Socks4ReplyDraft.blank.read [4, 0x5a, 0, 0, 0, 0, 0, 0]).2 = .error (.handshake (.malformed e))) ∧
    ∃ raw, (Socks4ReplyDraft.packet .nothing none (some 80) none).write = .ok raw ∧
      ∀ d : Socks4ReplyDraft, d.read raw = (.packet (.int 0) (some 0) (some 80) (some .zero), .ok ()) := by
  obtain ⟨hrequest, -, hreply, hfields⟩ := socks4_read_write
  have hzeros : Socks4RequestDraft.IsRequest [4, 2, 0, 0, 0, 0, 0, 0, 97, 0, 98, 0] := ⟨by decide, rfl, rfl⟩
  have hopen : ¬ Socks4RequestDraft.IsRequest [4, 1, 0, 80, 1, 2, 3, 4, 97] := fun h => absurd h.closed (by decide)
  have hnone : Socks4ReplyDraft.IsReply [0, 0, 0, 0, 0, 0, 0, 0] := ⟨rfl, rfl⟩
  have hother : ¬ Socks4ReplyDraft.IsReply [4, 0x5a, 0, 0, 0, 0, 0, 0] := fun h => absurd h.version (by decide)
  obtain ⟨f, hf, -⟩ := (hrequest .blank _).2.1 hopen
  exact ⟨⟨hzeros, fun d => (hrequest d _).2.2 hzeros⟩, ⟨hopen, f, hf⟩, ⟨hnone, fun d => (hreply d _).2.2 hnone⟩,
    ⟨hother, (hreply .blank _).2.1 hother⟩, hfields .nothing none (some 80) none (.inl rfl)⟩

end SocksTunnel
