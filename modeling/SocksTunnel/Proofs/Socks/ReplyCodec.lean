import SocksTunnel.Proofs.Script.Prompt
import SocksTunnel.Proofs.Socks.RequestCodec

/-
  SocksTunnel.Proofs.Socks.ReplyCodec — SOCKS5 replies read part by part from octets. How
  many octets are taken next depends on what the draft holds by then, while writing looks
  at the bound address and port alone.

  Proved: which octets are read, what they fill and what is left of them
  (`readReply_eq_ok_iff`). So a reply that is written is read back with all of its octets,
  and one that is read is written as it came, but for a name that is empty
  (`reply_write_read`). Over a prompt stream the reply to a request is read like this
  (`request_reads`).
-/

namespace SocksTunnel

/-! ## Reading from octets -/

/-- A reader of octets, which leaves those it does not take. -/
abbrev Wire (α : Type) := StateT Bytes (Except Failure) α

namespace Wire

variable {α β : Type} {b rest : Bytes}

/-- Something that may be at fault. -/
def check (e : Except Fault α) : Wire α := fun b => match e with
  | .ok a => .ok (a, b)
  | .error f => .error (.fault f)

/-- A draft that is filled by a reading. -/
def fill (r : Reading α) : Wire α := fun b => match r with
  | (a, .ok _) => .ok (a, b)
  | (_, .error f) => .error f

/-- As many octets as a setting says. -/
def take (n : Value) : Wire Bytes := do
  let n ← check n.index
  fun b => if (b.length : Int) < n then .error (.handshake (.endOfStream n b.length)) else .ok (b.splitAt n.toNat)

/-- A name of this length; an empty one takes nothing. -/
def takeName (n : Value) : Wire Bytes := if n.isGiven then take n else pure []

/-- As many octets as the draft says. -/
def readPayload (reply : Socks5ReplyDraft) : Wire Socks5ReplyDraft := do
  let n ← check reply.addressLength
  fill (reply.readAddress (← takeName n))

/-- The address behind a header, for a name its length first. -/
def readAddress (reply : Socks5ReplyDraft) : Wire Socks5ReplyDraft := do
  let reply ←
    if reply.isType .domain then do
      fill (reply.readAddressLength (← take (← check reply.addressLength)))
    else pure reply
  readPayload reply

/-- A reply, from the header to the port. -/
def readReply : Wire Socks5ReplyDraft := do
  let reply ← fill (Socks5ReplyDraft.blank.readHeader (← take (.int ReplyHeader.length)))
  let reply ← readAddress reply
  fill (reply.readPort (← take (.int 2)))

theorem bind_eq_ok_iff {m : Wire α} {k : α → Wire β} {x : β} :
    (m >>= k).run b = .ok (x, rest) ↔ ∃ a left, m.run b = .ok (a, left) ∧ (k a).run left = .ok (x, rest) := by
  rw [StateT.run_bind]
  cases h : m.run b with
  | error f => exact ⟨nofun, fun ⟨_, _, h, _⟩ => nomatch h⟩
  | ok p => exact ⟨fun hk => ⟨p.1, p.2, rfl, hk⟩, fun ⟨_, _, h, hk⟩ => by cases h; exact hk⟩

theorem check_ok (a : α) : (check (.ok a) : Wire α) = pure a := rfl

theorem fill_eq_ok_iff {r : Reading α} {x : α} : (fill r).run b = .ok (x, rest) ↔ r = (x, .ok ()) ∧ rest = b := by
  obtain ⟨a, o⟩ := r
  cases o with
  | error f => exact ⟨nofun, fun h => nomatch h.1⟩
  | ok u =>
    constructor
    · intro h
      cases h
      exact ⟨rfl, rfl⟩
    · rintro ⟨h, rfl⟩
      cases h
      rfl

theorem take_eq_ok_iff {n : Nat} {x : Bytes} : (take (.int n)).run b = .ok (x, rest) ↔ x.length = n ∧ b = x ++ rest := by
  have hrun : (take (.int n)).run b =
      if (b.length : Int) < n then .error (.handshake (.endOfStream n b.length)) else .ok (b.splitAt n) := rfl
  rw [hrun, List.splitAt_eq]
  constructor
  · intro h
    split at h
    · cases h
    · rename_i hn
      cases h
      exact ⟨List.length_take_of_le (by omega), (List.take_append_drop n b).symm⟩
  · rintro ⟨hl, rfl⟩
    rw [if_neg (by rw [List.length_append]; omega), ← hl, List.take_left, List.drop_left]

end Wire

/-! ## What octets fill -/

theorem Reading.fill_map_eq_ok_iff {α β ε : Type} {old d : α} {e : Except ε β} {f : β → α} {g : ε → Failure} :
    Reading.fill old ((e.map f).mapError g) = (d, .ok ()) ↔ ∃ a, e = .ok a ∧ d = f a := by
  cases e with
  | error x => exact ⟨nofun, fun ⟨_, h, _⟩ => nomatch h⟩
  | ok a =>
    constructor
    · intro h
      cases h
      exact ⟨a, rfl, rfl⟩
    · rintro ⟨a', h, rfl⟩
      cases h
      rfl

theorem ReplyHeader.decode_eq_ok_iff {b : Bytes} {h : ReplyHeader} :
    decode b = .ok h ↔ b = [5, h.status, h.reserved, h.type.code] := by
  refine ⟨decode_eq_ok, ?_⟩
  rintro rfl
  simp only [decode, if_true, AddressType.ofCode?_code]

theorem boundPort_eq_ok_iff {b : Bytes} {p : Port} : boundPort b = .ok p ↔ b = Bytes.ofUInt16 p := by
  constructor
  · intro h
    unfold boundPort at h
    split at h
    · cases h
      rw [Bytes.ofUInt16_toUInt16]
    · cases h
  · rintro rfl
    exact congrArg Except.ok (Bytes.toUInt16_ofNat p)

theorem Destination.encode_eq_cons_iff {a : Destination} {t : AddressType} {b : Bytes} :
    a.encode = t.code :: b ↔ a.type = t ∧ a.payload = b := by
  have hcode : a.type.code = t.code ↔ a.type = t := by cases a.type <;> cases t <;> decide
  rw [encode, List.cons.injEq, hcode]

theorem Destination.ofNat_length_ne_zero {name : Bytes} (h : 1 ≤ name.length ∧ name.length ≤ 255) :
    UInt8.ofNat name.length ≠ 0 := by
  intro hz
  have hl := toNat_ofNat_length h.2
  rw [hz, UInt8.toNat_zero] at hl
  omega

namespace Socks5ReplyDraft

variable {d d' : Socks5ReplyDraft} {t : AddressType} {b : Bytes}

theorem readHeader_eq_ok_iff : d.readHeader b = (d', .ok ()) ↔ ∃ h : ReplyHeader,
    b = [5, h.status, h.reserved, h.type.code] ∧ d' = { d with
      version := .int 5, status := .ofOctet h.status, reserved := .ofOctet h.reserved, type := .ofOctet h.type.code } := by
  simp only [readHeader, Reading.fill_map_eq_ok_iff, ReplyHeader.decode_eq_ok_iff]

theorem readPort_eq_ok_iff : d.readPort b = (d', .ok ()) ↔
    ∃ p : Port, b = Bytes.ofUInt16 p ∧ d' = { d with port := .int p.toNat } := by
  simp only [readPort, Reading.fill_map_eq_ok_iff, boundPort_eq_ok_iff]

theorem readUnpacked_eq_ok_iff (ht : d.type = .ofOctet t.code) : d.readUnpacked (.bytes b) = (d', .ok ()) ↔
    ∃ a : Destination, a.unscoped = a ∧ a.type = t ∧ a.payload = b ∧ d' = { d with address := .destination a } := by
  have hunpack : ∀ a, Value.unpack (.ofOctet t.code) (.bytes b) = .ok a ↔ a.unscoped = a ∧ a.type = t ∧ a.payload = b :=
    fun a => by rw [Value.unpack_eq_ok_iff, Destination.encode_eq_cons_iff]
  simp only [readUnpacked, ht, ← and_assoc]
  simp only [and_assoc, ← hunpack]
  cases Value.unpack (.ofOctet t.code) (.bytes b) with
  | error f =>
    constructor
    · intro h
      cases h
    · rintro ⟨_, h, -⟩
      cases h
  | ok a =>
    constructor
    · intro h
      cases h
      exact ⟨a, rfl, rfl⟩
    · rintro ⟨a', h, rfl⟩
      cases h
      rfl

/-! ## Replies -/

/-- The length in front of a name, which other addresses have not. -/
def lengthOf : Destination → Value
  | .domain name _ => .ofOctet (UInt8.ofNat name.length)
  | _ => .nothing

/-- A draft that holds a header and what was read behind it, but no port. -/
def addressed (h : ReplyHeader) (address nameLength : Value) : Socks5ReplyDraft :=
  ⟨.int 5, .ofOctet h.status, .ofOctet h.reserved, .ofOctet h.type.code, address, .nothing, nameLength⟩

/-- What a reply with this address fills. -/
def received (status reserved : UInt8) (a : Destination) (p : Port) : Socks5ReplyDraft :=
  { addressed ⟨status, reserved, a.type⟩ (.destination a) (lengthOf a) with port := .int p.toNat }

/-- What a reply with an empty name fills. -/
def nameless (status reserved : UInt8) (p : Port) : Socks5ReplyDraft :=
  { addressed ⟨status, reserved, .domain⟩ .nothing (.ofOctet 0) with port := .int p.toNat }

theorem payload_named {status reserved n : UInt8} (hn : n ≠ 0) (raw : Bytes) :
    (addressed ⟨status, reserved, .domain⟩ .nothing (.ofOctet n)).payload raw = .ok (some ([n] ++ raw)) := by
  have h0 : ¬ Value.sameWhole 0 (.ofOctet n) = true := fun h => hn (Steps.sameWhole_ofOctet (m := 0).mp h).symm
  show (if Value.sameWhole 0 (.ofOctet n) then (.ok none : Except Fault (Option Bytes))
    else (Value.ofOctet n).octet >>= fun o => .ok (some (o :: raw))) = _
  rw [if_neg h0, Value.octet_ofOctet]
  rfl

end Socks5ReplyDraft

namespace Wire

open Socks5ReplyDraft

variable {b rest : Bytes} {d : Socks5ReplyDraft}

/-- A payload, of which some octets are there already, is read where an address of its size stands in front. -/
theorem readPayload_eq_ok_iff {h : ReplyHeader} (nameLength : Value) (front : Bytes) {n : Nat}
    (hp : ∀ raw, (addressed h .nothing nameLength).payload raw = .ok (some (front ++ raw))) :
    (take (.int n) >>= fun raw => fill ((addressed h .nothing nameLength).readAddress raw)).run b = .ok (d, rest) ↔
      ∃ a : Destination, a.unscoped = a ∧ a.type = h.type ∧ a.payload.length = front.length + n ∧
        front ++ b = a.payload ++ rest ∧ d = addressed h (.destination a) nameLength := by
  have hread : ∀ raw, (addressed h .nothing nameLength).readAddress raw =
      (addressed h .nothing nameLength).readUnpacked (.bytes (front ++ raw)) := by
    intro raw
    rw [Socks5ReplyDraft.readAddress, hp]
  have hfill : ∀ raw d, (addressed h .nothing nameLength).readUnpacked (.bytes (front ++ raw)) = (d, .ok ()) ↔
      ∃ a : Destination, a.unscoped = a ∧ a.type = h.type ∧ a.payload = front ++ raw ∧
        d = addressed h (.destination a) nameLength := fun _ _ => readUnpacked_eq_ok_iff rfl
  simp only [bind_eq_ok_iff, take_eq_ok_iff, fill_eq_ok_iff, hread, hfill]
  constructor
  · rintro ⟨raw, left, ⟨hl, rfl⟩, ⟨a, hu, ht, hpay, rfl⟩, rfl⟩
    refine ⟨a, hu, ht, ?_, ?_, rfl⟩
    · rw [hpay, List.length_append, hl]
    · rw [hpay, List.append_assoc]
  · rintro ⟨a, hu, ht, hl, hb, rfl⟩
    obtain ⟨raw, hraw⟩ : front <+: a.payload := List.prefix_of_prefix_length_le ⟨b, hb⟩ ⟨rest, rfl⟩ (by omega)
    refine ⟨raw, rest, ⟨?_, ?_⟩, ⟨a, hu, ht, hraw.symm, rfl⟩, rfl⟩
    · rw [← hraw, List.length_append] at hl
      omega
    · rw [← hraw, List.append_assoc] at hb
      exact List.append_cancel_left hb

/-- An address whose size its type says. -/
theorem readSized_eq_ok_iff {h : ReplyHeader} {n : Nat}
    (hn : ∀ a : Destination, a.type = h.type → a.payload.length = n ∧ lengthOf a = .nothing)
    (hp : ∀ raw, (Steps.headed h).payload raw = .ok (some raw)) :
    (take (.int n) >>= fun raw => fill ((Steps.headed h).readAddress raw)).run b = .ok (d, rest) ↔
      ∃ a : Destination, a.unscoped = a ∧ a.type = h.type ∧ b = a.payload ++ rest ∧
        d = addressed h (.destination a) (lengthOf a) := by
  refine (readPayload_eq_ok_iff .nothing [] hp).trans (exists_congr fun a => ?_)
  constructor
  · rintro ⟨hu, ht, -, hb, rfl⟩
    exact ⟨hu, ht, hb, by rw [(hn a ht).2]⟩
  · rintro ⟨hu, ht, hb, rfl⟩
    exact ⟨hu, ht, by simp [(hn a ht).1], hb, by rw [(hn a ht).2]⟩

/-- A name behind its length; there is none if that is zero. -/
theorem readName_eq_ok_iff {status reserved n : UInt8} :
    (readPayload (addressed ⟨status, reserved, .domain⟩ .nothing (.ofOctet n))).run b = .ok (d, rest) ↔
      (∃ a : Destination, a.unscoped = a ∧ a.type = .domain ∧ n :: b = a.payload ++ rest ∧
        d = addressed ⟨status, reserved, .domain⟩ (.destination a) (lengthOf a)) ∨
      (n = 0 ∧ b = rest ∧ d = addressed ⟨status, reserved, .domain⟩ .nothing (.ofOctet 0)) := by
  have hname : ∀ a : Destination, a.type = .domain → n :: b = a.payload ++ rest →
      n ≠ 0 ∧ lengthOf a = .ofOctet n ∧ a.payload.length = [n].length + n.toNat := by
    intro a ha hb
    cases a with
    | ipv4 | ipv6 => cases ha
    | domain name hl =>
      obtain ⟨rfl, -⟩ := List.cons.inj hb
      refine ⟨Destination.ofNat_length_ne_zero hl, rfl, ?_⟩
      rw [Destination.toNat_ofNat_length hl.2, Destination.payload, List.length_cons, List.length_singleton, Nat.add_comm]
  by_cases hn : n = 0
  · subst hn
    have hz : (readPayload (addressed ⟨status, reserved, .domain⟩ .nothing (.ofOctet 0))).run b =
        .ok (addressed ⟨status, reserved, .domain⟩ .nothing (.ofOctet 0), b) := rfl
    rw [hz]
    constructor
    · intro h
      cases h
      exact .inr ⟨rfl, rfl, rfl⟩
    · rintro (⟨a, -, ha, hb, -⟩ | ⟨-, rfl, rfl⟩)
      · exact absurd rfl (hname a ha hb).1
      · rfl
  · have hg : (Value.ofOctet n).isGiven = true := by
      have hz : n.toNat ≠ 0 := fun h => hn (UInt8.toNat_inj.mp h)
      simpa [Value.ofOctet, Value.isGiven] using hz
    have he : (addressed ⟨status, reserved, .domain⟩ .nothing (.ofOctet n)).addressLength = .ok (.ofOctet n) := rfl
    rw [readPayload, he, check_ok, pure_bind, takeName, if_pos hg]
    refine (readPayload_eq_ok_iff (h := ⟨status, reserved, .domain⟩) (.ofOctet n) [n] (payload_named hn)).trans ?_
    constructor
    · rintro ⟨a, hu, ha, -, hb, rfl⟩
      exact .inl ⟨a, hu, ha, hb, by rw [(hname a ha hb).2.1]⟩
    · rintro (⟨a, hu, ha, hb, rfl⟩ | ⟨h0, -, -⟩)
      · obtain ⟨-, hlength, hl⟩ := hname a ha hb
        exact ⟨a, hu, ha, hl, hb, by rw [hlength]⟩
      · exact absurd h0 hn

theorem readLength_eq_ok_iff {status reserved : UInt8} :
    (readAddress (Steps.headed ⟨status, reserved, .domain⟩)).run b = .ok (d, rest) ↔
      ∃ n left, b = n :: left ∧
        (readPayload (addressed ⟨status, reserved, .domain⟩ .nothing (.ofOctet n))).run left = .ok (d, rest) := by
  have he : readAddress (Steps.headed ⟨status, reserved, .domain⟩) = (take (.int 1) >>= fun raw =>
      fill ((Steps.headed ⟨status, reserved, .domain⟩).readAddressLength raw) >>= readPayload) := by
    have hd : (Steps.headed ⟨status, reserved, .domain⟩).isType .domain = true := rfl
    have hl : (Steps.headed ⟨status, reserved, .domain⟩).addressLength = .ok (.int 1) := rfl
    rw [readAddress, if_pos hd, hl, check_ok, pure_bind]
  have hone : ∀ {x left : Bytes}, (take (.int 1)).run b = .ok (x, left) ↔ x.length = 1 ∧ b = x ++ left :=
    take_eq_ok_iff (n := 1)
  simp only [he, bind_eq_ok_iff, hone, fill_eq_ok_iff]
  constructor
  · rintro ⟨raw, left, ⟨hl, rfl⟩, reply, _, ⟨hr, rfl⟩, hn⟩
    obtain ⟨n, rfl⟩ := List.length_eq_one_iff.mp hl
    cases hr
    exact ⟨n, _, rfl, hn⟩
  · rintro ⟨n, left, rfl, hn⟩
    exact ⟨[n], left, ⟨rfl, rfl⟩, _, left, ⟨rfl, rfl⟩, hn⟩

/-- An address is read where one stands in front, or a name of no octets. -/
theorem readAddress_eq_ok_iff {h : ReplyHeader} :
    (readAddress (Steps.headed h)).run b = .ok (d, rest) ↔
      (∃ a : Destination, a.unscoped = a ∧ a.type = h.type ∧ b = a.payload ++ rest ∧
        d = addressed h (.destination a) (lengthOf a)) ∨
      (h.type = .domain ∧ b = 0 :: rest ∧ d = addressed h .nothing (.ofOctet 0)) := by
  obtain ⟨status, reserved, type⟩ := h
  cases type with
  | ipv4 =>
    refine Iff.trans ?_ (or_iff_left nofun).symm
    refine readSized_eq_ok_iff (h := ⟨status, reserved, .ipv4⟩) (n := 4) (fun a ha => ?_) fun _ => rfl
    cases a with
    | ipv4 a => exact ⟨a.length_toBytes, rfl⟩
    | ipv6 | domain => cases ha
  | ipv6 =>
    refine Iff.trans ?_ (or_iff_left nofun).symm
    refine readSized_eq_ok_iff (h := ⟨status, reserved, .ipv6⟩) (n := 16) (fun a ha => ?_) fun _ => rfl
    cases a with
    | ipv6 a => exact ⟨a.length_toBytes, rfl⟩
    | ipv4 | domain => cases ha
  | domain =>
    rw [readLength_eq_ok_iff]
    constructor
    · rintro ⟨n, left, rfl, hn⟩
      rcases readName_eq_ok_iff.mp hn with ⟨a, hu, ht, hb, rfl⟩ | ⟨rfl, rfl, rfl⟩
      · exact .inl ⟨a, hu, ht, hb, rfl⟩
      · exact .inr ⟨rfl, rfl, rfl⟩
    · rintro (⟨a, hu, ht, rfl, rfl⟩ | ⟨-, rfl, rfl⟩)
      · cases a with
        | ipv4 | ipv6 => cases ht
        | domain name hl => exact ⟨_, name ++ rest, rfl, readName_eq_ok_iff.mpr (.inl ⟨.domain name hl, hu, rfl, rfl, rfl⟩)⟩
      · exact ⟨0, rest, rfl, readName_eq_ok_iff.mpr (.inr ⟨rfl, rfl, rfl⟩)⟩

/-- A reply is read as a header, then an address behind it, then a port. -/
theorem readParts_eq_ok_iff : readReply.run b = .ok (d, rest) ↔
    ∃ h p reply left, (readAddress (Steps.headed h)).run left = .ok (reply, Bytes.ofUInt16 p ++ rest) ∧
      b = 5 :: h.status :: h.reserved :: h.type.code :: left ∧ d = { reply with port := .int p.toNat } := by
  have hhead : ∀ {x : Bytes} {left : Bytes}, (take (.int ReplyHeader.length)).run b = .ok (x, left) ↔
      x.length = 4 ∧ b = x ++ left := take_eq_ok_iff (n := 4)
  have hport : ∀ {b x left : Bytes}, (take (.int 2)).run b = .ok (x, left) ↔ x.length = 2 ∧ b = x ++ left :=
    take_eq_ok_iff (n := 2)
  simp only [readReply, bind_eq_ok_iff, hhead, hport, fill_eq_ok_iff, readHeader_eq_ok_iff, readPort_eq_ok_iff]
  constructor
  · rintro ⟨_, left, ⟨-, rfl⟩, _, _, ⟨⟨h, rfl, rfl⟩, rfl⟩, reply, _, ha, _, _, ⟨-, rfl⟩, ⟨p, rfl, rfl⟩, rfl⟩
    exact ⟨h, p, reply, _, ha, rfl, rfl⟩
  · rintro ⟨h, p, reply, left, ha, rfl, rfl⟩
    exact ⟨_, left, ⟨rfl, rfl⟩, _, _, ⟨⟨h, rfl, rfl⟩, rfl⟩, reply, _, ha, _, _, ⟨rfl, rfl⟩, ⟨p, rfl, rfl⟩, rfl⟩

/-- The octets that are read as a reply, what they fill and what is left. -/
theorem readReply_eq_ok_iff : readReply.run b = .ok (d, rest) ↔
    ∃ status reserved p,
      (∃ a : Destination, a.unscoped = a ∧ d = received status reserved a p ∧
        b = 5 :: status :: reserved :: (a.encode ++ Bytes.ofUInt16 p ++ rest)) ∨
      (d = nameless status reserved p ∧ b = 5 :: status :: reserved :: 3 :: 0 :: (Bytes.ofUInt16 p ++ rest)) := by
  simp only [readParts_eq_ok_iff, readAddress_eq_ok_iff]
  constructor
  · rintro ⟨⟨status, reserved, t⟩, p, _, _, ⟨a, hu, rfl, rfl, rfl⟩ | ⟨rfl, rfl, rfl⟩, rfl, rfl⟩
    · exact ⟨status, reserved, p, .inl ⟨a, hu, rfl, by rw [Destination.encode, List.append_assoc]; rfl⟩⟩
    · exact ⟨status, reserved, p, .inr ⟨rfl, rfl⟩⟩
  · rintro ⟨status, reserved, p, ⟨a, hu, rfl, rfl⟩ | ⟨rfl, rfl⟩⟩
    · exact ⟨⟨status, reserved, a.type⟩, p, _, _, .inl ⟨a, hu, rfl, rfl, rfl⟩, by
        rw [Destination.encode, List.append_assoc]; rfl, rfl⟩
    · exact ⟨⟨status, reserved, .domain⟩, p, _, _, .inr ⟨rfl, rfl, rfl⟩, rfl, rfl⟩

end Wire

/-! ## Writing -/

namespace Socks5ReplyDraft

/-- A reply with or without a bound address and a bound port, whatever else it holds. -/
def packet (status reserved : UInt8) (type : Value) (a : Option Destination) (p : Option Port) (nameLength : Value) :
    Socks5ReplyDraft :=
  ⟨.int 5, .ofOctet status, .ofOctet reserved, type, (a.map Value.destination).getD .nothing,
    (p.map fun p => Value.int p.toNat).getD .nothing, nameLength⟩

theorem write_packet (status reserved : UInt8) (type : Value) (a : Option Destination) (p : Option Port) (nameLength : Value) :
    (packet status reserved type a p nameLength).write =
      .ok (5 :: status :: reserved :: ((a.getD .unspecified).encode ++ Bytes.ofUInt16 (p.getD 0))) := by
  have hhead : Value.octetsOf [.int 5, .ofOctet status, .ofOctet reserved] = .ok [5, status, reserved] :=
    Value.octetsOf_map [5, status, reserved]
  have haddress : ((a.map Value.destination).getD .nothing).orElse (.destination .unspecified) =
      .destination (a.getD .unspecified) :=
    Value.orElse_getD Value.destination .unspecified (fun _ h => nomatch h) a
  simp only [write, packet, hhead, haddress, Value.orElse_port, Value.layoutWord_port]
  rfl

/-- Any reply that is written is read back with all of its octets, without an address as the unspecified one and without a
port as port zero. A reply that is read with all of its octets is written as it came, unless it had an empty name: then it
is written with the unspecified address in its place. -/
theorem reply_write_read :
    (∀ (status reserved : UInt8) (type : Value) (a : Option Destination) (p : Option Port) (nameLength : Value),
      (∀ d ∈ a, d.unscoped = d) → ∃ raw, (packet status reserved type a p nameLength).write = .ok raw ∧
        Wire.readReply.run raw = .ok (received status reserved (a.getD .unspecified) (p.getD 0), [])) ∧
    (∀ (raw : Bytes) (reply : Socks5ReplyDraft), Wire.readReply.run raw = .ok (reply, []) →
      (reply.write = .ok raw ↔ ¬ (raw.octet 3 = 3 ∧ raw.octet 4 = 0)) ∧
      (raw.octet 3 = 3 ∧ raw.octet 4 = 0 → reply.write = .ok (raw.take 3 ++ [1, 0, 0, 0, 0] ++ raw.drop 5))) := by
  constructor
  · intro status reserved type a p nameLength ha
    refine ⟨_, write_packet status reserved type a p nameLength, ?_⟩
    refine Wire.readReply_eq_ok_iff.mpr ⟨status, reserved, p.getD 0, .inl ⟨a.getD .unspecified, ?_, rfl, ?_⟩⟩
    · cases a with
      | none => rfl
      | some d => exact ha d rfl
    · rw [List.append_nil]
  · intro raw reply h
    obtain ⟨status, reserved, p, ⟨a, hu, rfl, rfl⟩ | ⟨rfl, rfl⟩⟩ := Wire.readReply_eq_ok_iff.mp h
    · have hno : ¬ (Bytes.octet (5 :: status :: reserved :: (a.encode ++ Bytes.ofUInt16 p ++ [])) 3 = 3 ∧
          Bytes.octet (5 :: status :: reserved :: (a.encode ++ Bytes.ofUInt16 p ++ [])) 4 = 0) := by
        cases a with
        | ipv4 a => exact fun h => absurd h.1 (show ¬ (1 : UInt8) = 3 by decide)
        | ipv6 a => exact fun h => absurd h.1 (show ¬ (4 : UInt8) = 3 by decide)
        | domain name hl => exact fun h => Destination.ofNat_length_ne_zero hl h.2
      have hw : (received status reserved a p).write = .ok (5 :: status :: reserved :: (a.encode ++ Bytes.ofUInt16 p ++ [])) := by
        rw [List.append_nil]
        exact write_packet status reserved (.ofOctet a.type.code) (some a) (some p) (lengthOf a)
      exact ⟨⟨fun _ => hno, fun _ => hw⟩, fun h => absurd h hno⟩
    · have hw : (nameless status reserved p).write = .ok (5 :: status :: reserved :: ([1, 0, 0, 0, 0] ++ Bytes.ofUInt16 p)) :=
        write_packet status reserved (.ofOctet 3) none (some p) (.ofOctet 0)
      refine ⟨⟨fun h => ?_, fun h => absurd ⟨rfl, rfl⟩ h⟩, fun _ => ?_⟩
      · rw [hw] at h
        exact absurd (congrArg (Bytes.octet · 3) (Except.ok.inj h)) (show ¬ (1 : UInt8) = 3 by decide)
      · rw [hw, List.append_nil]
        rfl

/-- A reply with a name is read back, and one with an empty name is written with the unspecified address. -/
theorem reply_write_read_names :
    (∃ raw, (packet 0 7 .nothing (some (.domain [97] (by decide))) none .nothing).write = .ok raw ∧
      Wire.readReply.run raw = .ok (received 0 7 (.domain [97] (by decide)) 0, [])) ∧
    Wire.readReply.run [5, 0, 7, 3, 0, 0, 80] = .ok (nameless 0 7 80, []) ∧
    (nameless 0 7 80).write = .ok [5, 0, 7, 1, 0, 0, 0, 0, 0, 80] := by
  have hread : Wire.readReply.run [5, 0, 7, 3, 0, 0, 80] = .ok (nameless 0 7 80, []) :=
    Wire.readReply_eq_ok_iff.mpr ⟨0, 7, 80, .inr ⟨rfl, rfl⟩⟩
  refine ⟨reply_write_read.1 0 7 .nothing (some (.domain [97] (by decide))) none .nothing ?_, hread,
    (reply_write_read.2 _ _ hread).2 ⟨rfl, rfl⟩⟩
  intro d hd
  cases hd
  rfl

end Socks5ReplyDraft

/-! ## The reply to a request -/

namespace Steps

open Script

variable {α β : Type} {t : Timeouts}

/-- Over a prompt stream these steps do what a reader does with the buffer. -/
def Reads (t : Timeouts) (m : Steps Stream α) (w : Wire α) : Prop :=
  ∀ s : Session Stream, s.stream.IsPrompt t →
    match w.run s.stream.buffer with
    | .ok (a, rest) => ∃ s', m.run s = (.ok a, s') ∧ s'.stream.IsPrompt t ∧ s'.stream.buffer = rest
    | .error f => (m.run s).1 = .error f

theorem reads_pure (a : α) : Reads t (pure a) (pure a) := fun s hs => ⟨s, rfl, hs, rfl⟩

theorem reads_check (e : Except Fault α) : Reads t (check e) (Wire.check e) := by
  intro s hs
  cases e with
  | ok a => exact ⟨s, rfl, hs, rfl⟩
  | error f => rfl

theorem reads_fill (r : Reading α) : Reads t (fill r) (Wire.fill r) := by
  intro s hs
  obtain ⟨a, o⟩ := r
  cases o with
  | ok u => exact ⟨s, rfl, hs, rfl⟩
  | error f => rfl

theorem Reads.bind {m : Steps Stream α} {w : Wire α} (h : Reads t m w) {k : α → Steps Stream β} {l : α → Wire β}
    (hk : ∀ a b rest, w.run b = .ok (a, rest) → Reads t (k a) (l a)) : Reads t (m >>= k) (w >>= l) := by
  intro s hs
  have hm := h s hs
  rw [StateT.run_bind, run_bind]
  cases hw : w.run s.stream.buffer with
  | error f =>
    rw [hw] at hm
    cases hx : m.run s with
    | mk o s' =>
      rw [hx] at hm
      obtain rfl : o = .error f := hm
      rfl
  | ok p =>
    rw [hw] at hm
    obtain ⟨s', hx, hp, hb⟩ := hm
    have hnext := hk p.1 _ p.2 hw s' hp
    rw [hb] at hnext
    rw [hx]
    exact hnext

theorem reads_receive (hr : 0 < t.read.seconds) (n : Nat) : Reads t (receive t.read (.int n)) (Wire.take (.int n)) := by
  intro s hs
  have hrun : (receive t.read (.int n)).run s = s.receive t.read n := run_check (n : Int) _ s
  have hwire : (Wire.take (.int n)).run s.stream.buffer =
      if (s.stream.buffer.length : Int) < n then .error (.handshake (.endOfStream n s.stream.buffer.length))
      else .ok (s.stream.buffer.splitAt n) := rfl
  rw [hrun, hwire]
  by_cases hn : n ≤ s.stream.buffer.length
  · obtain ⟨s', he, hp, ho⟩ := Session.receive_prompt hr hs hn
    rw [if_neg (by omega), List.splitAt_eq]
    exact ⟨s', he, hp, congrArg Prod.fst ho⟩
  · obtain ⟨s', he, -⟩ := Session.receive_prompt_short hr hs (Nat.lt_of_not_le hn)
    rw [if_pos (by omega), he]

/-- The size of the address that a draft asks for, where it is a number of octets. -/
def Sized (reply : Socks5ReplyDraft) : Prop := ∃ n : Nat, reply.addressLength = .ok (.int n)

theorem sized_headed : ∀ h : ReplyHeader, Sized (headed h)
  | ⟨_, _, .ipv4⟩ => ⟨4, rfl⟩
  | ⟨_, _, .ipv6⟩ => ⟨16, rfl⟩
  | ⟨_, _, .domain⟩ => ⟨1, rfl⟩

theorem sized_named {h : ReplyHeader} {d : Socks5ReplyDraft} {raw : Bytes}
    (hl : (headed h).readAddressLength raw = (d, .ok ())) : Sized d := by
  obtain ⟨status, reserved, type⟩ := h
  cases type with
  | ipv4 | ipv6 => cases hl
  | domain =>
    match raw, hl with
    | [n], hl =>
      cases hl
      exact ⟨n.toNat, rfl⟩

theorem reads_readPayload (hr : 0 < t.read.seconds) {reply : Socks5ReplyDraft} (h : Sized reply) :
    Reads t (do
      let n ← check reply.addressLength
      fill (reply.readAddress (← receiveName t.read n))) (Wire.readPayload reply) := by
  obtain ⟨n, hn⟩ := h
  rw [Wire.readPayload, hn]
  refine (reads_check _).bind fun v b rest hv => ?_
  cases hv
  refine Reads.bind ?_ fun raw _ _ _ => reads_fill _
  unfold receiveName Wire.takeName
  split
  · exact reads_receive hr n
  · exact reads_pure []

theorem reads_readAddress (hr : 0 < t.read.seconds) (h : ReplyHeader) :
    Reads t (readAddress t (headed h)) (Wire.readAddress (headed h)) := by
  unfold readAddress Wire.readAddress
  by_cases hd : (headed h).isType .domain = true
  · rw [if_pos hd, if_pos hd]
    obtain ⟨n, hn⟩ := sized_headed h
    rw [hn]
    refine (reads_check _).bind fun v b rest hv => ?_
    cases hv
    refine (reads_receive hr n).bind fun raw _ _ _ => (reads_fill _).bind fun reply b rest hf => ?_
    obtain ⟨hl, -⟩ := Wire.fill_eq_ok_iff.mp hf
    exact reads_readPayload hr (sized_named hl)
  · rw [if_neg hd, if_neg hd]
    exact (reads_pure _).bind fun reply b rest hp => by cases hp; exact reads_readPayload hr (sized_headed h)

/-- The part of a request that reads the reply. -/
def readReply (t : Timeouts) : Steps Stream Socks5ReplyDraft := do
  let reply ← fill (Socks5ReplyDraft.blank.readHeader (← receive t.read (.int ReplyHeader.length)))
  let reply ← readAddress t reply
  fill (reply.readPort (← receive t.read (.int 2)))

theorem reads_readReply (hr : 0 < t.read.seconds) : Reads t (readReply t) Wire.readReply := by
  refine (reads_receive hr 4).bind fun raw _ _ _ => (reads_fill _).bind fun reply b rest hf => ?_
  obtain ⟨hh, -⟩ := Wire.fill_eq_ok_iff.mp hf
  obtain ⟨h, -, rfl⟩ := Socks5ReplyDraft.readHeader_eq_ok_iff.mp hh
  refine (reads_readAddress hr h).bind fun reply _ _ _ => ?_
  exact (reads_receive hr 2).bind fun raw _ _ _ => reads_fill _

/-- Over a prompt stream the reply to a request is read as it is from the octets that are there by then. -/
theorem request_reads (hw : 0 < t.write.seconds) (hr : 0 < t.read.seconds) (d : Destination) (p : Port)
    {s : Session Stream} (hs : s.stream.IsPrompt t) :
    match Wire.readReply.run (s.stream.buffer ++ s.stream.replies.headD []) with
    | .ok (reply, rest) => ∃ s', (request t d p).run s = (.ok reply, s') ∧ s'.stream.buffer = rest
    | .error f => ((request t d p).run s).1 = .error f := by
  obtain ⟨s', he, hp, ho⟩ := Session.send_prompt hw hs (Socks5Request.mk d p).encode
  have hrun : (request t d p).run s = (readReply t).run s' := by
    have hr : request t d p = check (Route.socks5 d p (.timeouts t)).request >>= fun raw => send t.write raw >>= fun _ =>
      readReply t := rfl
    rw [hr, Route.request_socks5, run_check, run_bind, show (send t.write _).run s = s.send t.write _ from rfl, he]
  have hb : s'.stream.buffer = s.stream.buffer ++ s.stream.replies.headD [] := congrArg Prod.fst ho
  have hnext := reads_readReply hr s' hp
  rw [hrun, ← hb]
  cases hx : Wire.readReply.run s'.stream.buffer with
  | error f =>
    rw [hx] at hnext
    exact hnext
  | ok p =>
    rw [hx] at hnext
    obtain ⟨u, hu, -, hrest⟩ := hnext
    exact ⟨u, hu, hrest⟩

end Steps

end SocksTunnel
