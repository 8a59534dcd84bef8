import SocksTunnel.Proofs.Socks.ReplyCodec

/-
  SocksTunnel.Proofs.Socks.Successive — one draft into which SOCKS5 replies are read one after
  the other, some of them only up to where they fail. All that a reply says should be taken from
  its own octets, whatever was read before.

  The length of a name is kept when the next header is read, and then it is what the draft asks
  for in place of the one octet that holds the next length.

  Proved: a draft reads every reply as a new one does exactly if no reply before has announced a
  name of another length than one; otherwise it reads replies with an address as before and
  refuses every further name (`reading_after_replies`). The length that it keeps is known from the
  replies alone (`nameLength_after`).
-/

namespace SocksTunnel

open Socks5ReplyDraft

/-! ## Reading into a draft -/

/-- A draft and the octets that are still to be read into it. -/
structure Intake where
  draft : Socks5ReplyDraft
  rest : Bytes
  deriving Repr

namespace Intake

/-- Goes on unless the reading before has failed. -/
def andThen (r : Reading Intake) (next : Intake → Reading Intake) : Reading Intake :=
  match r with
  | (i, .ok _) => next i
  | (i, .error f) => (i, .error f)

/-- A part of a reply: octets are taken and handed to the draft. -/
def part (take : Socks5ReplyDraft → Wire Bytes) (read : Socks5ReplyDraft → Bytes → Reading Socks5ReplyDraft) (i : Intake) :
    Reading Intake :=
  match (take i.draft).run i.rest with
  | .ok (raw, rest) => (⟨(read i.draft raw).1, rest⟩, (read i.draft raw).2)
  | .error f => (i, .error f)

def header : Intake → Reading Intake := part (fun _ => .take (.int ReplyHeader.length)) readHeader

/-- The length of a name, in as many octets as the draft says. Other addresses have none. -/
def nameLength (i : Intake) : Reading Intake :=
  if i.draft.isType .domain then part (fun d => .check d.addressLength >>= .take) readAddressLength i else (i, .ok ())

def payload : Intake → Reading Intake := part (fun d => .check d.addressLength >>= .takeName) readAddress

/-- The address behind a header, for a name its length first. -/
def address (i : Intake) : Reading Intake := andThen (nameLength i) payload

def port : Intake → Reading Intake := part (fun _ => .take (.int 2)) readPort

/-- A reply, from the header to the port. -/
def reply (i : Intake) : Reading Intake := andThen (andThen (header i) address) port

variable {i j : Intake} {d e : Socks5ReplyDraft} {b raw rest : Bytes} {f : Failure}

theorem andThen_error {r : Reading Intake} {next : Intake → Reading Intake} (h : r.2 = .error f) : andThen r next = r := by
  obtain ⟨i, o⟩ := r
  cases h
  rfl

theorem part_ok {take : Socks5ReplyDraft → Wire Bytes} (read : Socks5ReplyDraft → Bytes → Reading Socks5ReplyDraft)
    (h : (take i.draft).run i.rest = .ok (raw, rest)) :
    part take read i = (⟨(read i.draft raw).1, rest⟩, (read i.draft raw).2) := by
  rw [part, h]

theorem part_error {take : Socks5ReplyDraft → Wire Bytes} (read : Socks5ReplyDraft → Bytes → Reading Socks5ReplyDraft)
    (h : (take i.draft).run i.rest = .error f) : part take read i = (i, .error f) := by
  rw [part, h]

end Intake

namespace Socks5ReplyDraft

/-- Reads a reply into the draft. -/
def reading (d : Socks5ReplyDraft) (raw : Bytes) : Reading Intake := Intake.reply ⟨d, raw⟩

/-- The draft after some replies, whether they could be read or not. -/
def after (d : Socks5ReplyDraft) (replies : List Bytes) : Socks5ReplyDraft :=
  replies.foldl (fun d raw => (d.reading raw).1.draft) d

end Socks5ReplyDraft

/-! ## A new draft -/

namespace Intake

/-- What a reading comes to, without the draft of one that fails. -/
def outcome (r : Reading Intake) : Except Failure (Socks5ReplyDraft × Bytes) := r.2.map fun _ => (r.1.draft, r.1.rest)

theorem outcome_part (take : Socks5ReplyDraft → Wire Bytes) (read : Socks5ReplyDraft → Bytes → Reading Socks5ReplyDraft)
    (i : Intake) : outcome (part take read i) = (take i.draft >>= fun raw => .fill (read i.draft raw)).run i.rest := by
  rw [StateT.run_bind]
  cases h : (take i.draft).run i.rest with
  | error f =>
    rw [part_error read h]
    rfl
  | ok p =>
    obtain ⟨raw, rest⟩ := p
    rw [part_ok read h]
    show (read i.draft raw).2.map (fun _ => ((read i.draft raw).1, rest)) = (Wire.fill (read i.draft raw)).run rest
    generalize read i.draft raw = r
    obtain ⟨d, o⟩ := r
    cases o <;> rfl

theorem outcome_andThen {r : Reading Intake} {next : Intake → Reading Intake} {m : Wire Socks5ReplyDraft}
    {k : Socks5ReplyDraft → Wire Socks5ReplyDraft} (hm : outcome r = m.run b)
    (hk : ∀ i, outcome (next i) = (k i.draft).run i.rest) : outcome (andThen r next) = (m >>= k).run b := by
  rw [StateT.run_bind, ← hm]
  obtain ⟨i, o⟩ := r
  cases o with
  | error f => rfl
  | ok u => exact hk i

theorem outcome_payload (i : Intake) : outcome (payload i) = (Wire.readPayload i.draft).run i.rest := by
  rw [payload, outcome_part, Wire.readPayload, bind_assoc]

theorem outcome_address (i : Intake) : outcome (address i) = (Wire.readAddress i.draft).run i.rest := by
  by_cases hd : i.draft.isType .domain = true
  · have hname : outcome (nameLength i) = ((Wire.check i.draft.addressLength >>= Wire.take) >>= fun raw =>
        .fill (i.draft.readAddressLength raw)).run i.rest := by
      rw [nameLength, if_pos hd, outcome_part]
    rw [address, outcome_andThen hname outcome_payload, Wire.readAddress, if_pos hd, bind_assoc, bind_assoc]
  · have hno : address i = payload i := by
      rw [address, nameLength, if_neg hd]
      rfl
    rw [hno, outcome_payload, Wire.readAddress, if_neg hd, pure_bind]

/-- Into a new draft a reply is read as it is from octets alone. -/
theorem outcome_reading (raw : Bytes) : outcome (blank.reading raw) = Wire.readReply.run raw := by
  have hheader : outcome (header ⟨blank, raw⟩) =
      (Wire.take (.int ReplyHeader.length) >>= fun raw => .fill (blank.readHeader raw)).run raw := outcome_part _ _ _
  have hport : ∀ i, outcome (port i) =
      (Wire.take (.int 2) >>= fun raw => .fill (i.draft.readPort raw)).run i.rest := fun i => outcome_part _ _ i
  have h := outcome_andThen (k := fun d => Wire.take (.int 2) >>= fun raw => .fill (d.readPort raw))
    (outcome_andThen hheader outcome_address) hport
  rw [bind_assoc, bind_assoc] at h
  exact h

end Intake

/-! ## The same as another draft -/

namespace Intake

/-- Readings that end alike, with the same octets left, and with related drafts if they succeed. -/
structure Matches (R : Socks5ReplyDraft → Socks5ReplyDraft → Prop) (r u : Reading Intake) : Prop where
  result : r.2 = u.2
  rest : r.1.rest = u.1.rest
  drafts : r.2 = .ok () → R r.1.draft u.1.draft

variable {R S : Socks5ReplyDraft → Socks5ReplyDraft → Prop} {i j : Intake} {d e : Socks5ReplyDraft} {raw rest : Bytes}

theorem Matches.andThen {r u : Reading Intake} (h : Matches R r u) {next : Intake → Reading Intake}
    (hn : ∀ i j, i.rest = j.rest → R i.draft j.draft → Matches S (next i) (next j)) :
    Matches S (Intake.andThen r next) (Intake.andThen u next) := by
  obtain ⟨i, o⟩ := r
  obtain ⟨j, p⟩ := u
  obtain ⟨hresult, hrest, hdrafts⟩ := h
  cases hresult
  cases o with
  | ok u => exact hn i j hrest (hdrafts rfl)
  | error f => exact ⟨rfl, hrest, nofun⟩

/-- Where two drafts take the same octets and make the same of them, the part is the same. -/
theorem Matches.part {take : Socks5ReplyDraft → Wire Bytes} {read : Socks5ReplyDraft → Bytes → Reading Socks5ReplyDraft}
    (hrest : i.rest = j.rest) (ht : take i.draft = take j.draft)
    (hr : ∀ raw rest, (take j.draft).run j.rest = .ok (raw, rest) → (read i.draft raw).2 = (read j.draft raw).2 ∧
      ((read i.draft raw).2 = .ok () → R (read i.draft raw).1 (read j.draft raw).1)) :
    Matches R (Intake.part take read i) (Intake.part take read j) := by
  cases h : (take j.draft).run j.rest with
  | error f =>
    have hi : (take i.draft).run i.rest = .error f := by rw [hrest, ht, h]
    rw [part_error read h, part_error read hi]
    exact ⟨rfl, hrest, nofun⟩
  | ok p =>
    obtain ⟨raw, rest⟩ := p
    have hi : (take i.draft).run i.rest = .ok (raw, rest) := by rw [hrest, ht, h]
    obtain ⟨hresult, hdrafts⟩ := hr raw rest h
    rw [part_ok read h, part_ok read hi]
    exact ⟨hresult, rfl, hdrafts⟩

end Intake

namespace Socks5ReplyDraft

/-- Drafts that hold the same header. -/
structure SameHeader (d e : Socks5ReplyDraft) : Prop where
  version : d.version = e.version
  status : d.status = e.status
  reserved : d.reserved = e.reserved
  type : d.type = e.type

/-- Drafts that hold the same reply. What they keep of the length of a name is no part of it. -/
structure SameReply (d e : Socks5ReplyDraft) : Prop extends SameHeader d e where
  address : d.address = e.address
  port : d.port = e.port

/-- The draft with the header in place of its own. -/
def withTitle (d : Socks5ReplyDraft) (h : ReplyHeader) : Socks5ReplyDraft :=
  { d with version := .int 5, status := .ofOctet h.status, reserved := .ofOctet h.reserved, type := .ofOctet h.type.code }

variable {d e : Socks5ReplyDraft} {raw : Bytes}

theorem readHeader_decoded (d : Socks5ReplyDraft) {h : ReplyHeader} (hd : ReplyHeader.decode raw = .ok h) :
    d.readHeader raw = (d.withTitle h, .ok ()) := by
  rw [readHeader, hd]
  rfl

theorem readHeader_refused (d : Socks5ReplyDraft) {x : ReplyDefect} (hd : ReplyHeader.decode raw = .error x) :
    d.readHeader raw = (d, .error (.handshake (.malformed x))) := by
  rw [readHeader, hd]
  rfl

/-- The size of an address that is no name does not depend on what was read before. -/
theorem addressLength_withTitle (d e : Socks5ReplyDraft) {h : ReplyHeader} (ht : h.type ≠ .domain) :
    (d.withTitle h).addressLength = (e.withTitle h).addressLength := by
  obtain ⟨status, reserved, type⟩ := h
  cases type with
  | ipv4 | ipv6 => rfl
  | domain => exact absurd rfl ht

/-- The size of a name is the length that is kept, and before there is one it is that of the length itself. -/
theorem addressLength_named (d : Socks5ReplyDraft) (status reserved : UInt8) :
    (d.withTitle ⟨status, reserved, .domain⟩).addressLength = match d.nameLength with
      | .nothing => .ok (.int 1)
      | n => .ok n := rfl

theorem isType_congr (ht : d.type = e.type) (t : AddressType) : d.isType t = e.isType t := by
  rw [isType, ht, isType]

theorem addressLength_congr (ht : d.type = e.type) (hn : d.nameLength = e.nameLength) :
    d.addressLength = e.addressLength := by
  simp only [addressLength, isType_congr ht, hn]

theorem payload_congr (ht : d.type = e.type) (hn : d.isType .domain = true → d.nameLength = e.nameLength) (raw : Bytes) :
    d.payload raw = e.payload raw := by
  have hd : d.isType .domain = e.isType .domain := isType_congr ht .domain
  by_cases h : d.isType .domain = true
  · simp only [payload, ht, ← hd, h, hn h]
  · simp only [payload, ht, ← hd, h, Bool.false_eq_true, if_false]

theorem readAddress_congr (ht : d.type = e.type) (hp : d.payload raw = e.payload raw) :
    (d.readAddress raw).2 = (e.readAddress raw).2 ∧ ((d.readAddress raw).2 = .ok () →
      ∃ a, (d.readAddress raw).1 = { d with address := a } ∧ (e.readAddress raw).1 = { e with address := a }) := by
  simp only [readAddress, hp]
  cases e.payload raw with
  | error f =>
    refine ⟨rfl, fun h => ?_⟩
    cases h
  | ok o =>
    cases o with
    | none => exact ⟨rfl, fun _ => ⟨_, rfl, rfl⟩⟩
    | some p =>
      simp only [readUnpacked, ht]
      cases Value.unpack e.type (.bytes p) with
      | error f =>
        refine ⟨rfl, fun h => ?_⟩
        cases h
      | ok a => exact ⟨rfl, fun _ => ⟨_, rfl, rfl⟩⟩

theorem readPort_congr (d e : Socks5ReplyDraft) (raw : Bytes) :
    (d.readPort raw).2 = (e.readPort raw).2 ∧ ((d.readPort raw).2 = .ok () →
      ∃ p, (d.readPort raw).1 = { d with port := p } ∧ (e.readPort raw).1 = { e with port := p }) := by
  unfold readPort
  cases boundPort raw with
  | error x =>
    refine ⟨rfl, fun h => ?_⟩
    cases h
  | ok p => exact ⟨rfl, fun _ => ⟨_, rfl, rfl⟩⟩

theorem readAddressLength_named (hd : d.isType .domain = true) (n : UInt8) :
    d.readAddressLength [n] = ({ d with nameLength := .ofOctet n }, .ok ()) := by
  simp only [readAddressLength, hd]

theorem readAddressLength_refused (d : Socks5ReplyDraft) (hl : raw.length ≠ 1) :
    d.readAddressLength raw = (d, .error (.fault .unmet)) := by
  unfold readAddressLength
  split
  · exact absurd rfl hl
  · rfl

end Socks5ReplyDraft

/-- Octets that start like a reply with a name. -/
def IsNamed (raw : Bytes) : Prop := raw.octet 0 = 5 ∧ raw.octet 3 = 3

instance (raw : Bytes) : Decidable (IsNamed raw) := inferInstanceAs (Decidable (_ ∧ _))

namespace Intake

variable {i j : Intake} {d e : Socks5ReplyDraft} {raw : Bytes}

/-- Drafts with the same header that ask for the same number of octets. -/
def SameSize (d e : Socks5ReplyDraft) : Prop := SameHeader d e ∧ d.addressLength = e.addressLength

/-- The same, and the octets make the same address. -/
def SamePayload (d e : Socks5ReplyDraft) : Prop := SameSize d e ∧ ∀ raw, d.payload raw = e.payload raw

/-- Drafts with the same header and the same address. -/
def SameAddress (d e : Socks5ReplyDraft) : Prop := SameHeader d e ∧ d.address = e.address

theorem matches_header (h : d.nameLength = .nothing ∨ d.nameLength = .ofOctet 1 ∨ ¬ IsNamed raw) :
    Matches SameSize (header ⟨d, raw⟩) (header ⟨blank, raw⟩) := by
  refine Matches.part rfl rfl fun x rest hx => ?_
  cases hd : ReplyHeader.decode x with
  | error y =>
    rw [readHeader_refused d hd, readHeader_refused blank hd]
    exact ⟨rfl, nofun⟩
  | ok title =>
    rw [readHeader_decoded d hd, readHeader_decoded blank hd]
    refine ⟨rfl, fun _ => ⟨⟨rfl, rfl, rfl, rfl⟩, ?_⟩⟩
    by_cases ht : title.type = .domain
    · have hname : IsNamed raw := by
        obtain ⟨-, rfl⟩ := (Wire.take_eq_ok_iff (n := 4)).mp hx
        rw [ReplyHeader.decode_eq_ok hd, ht]
        exact ⟨rfl, rfl⟩
      obtain ⟨status, reserved, type⟩ := title
      obtain rfl : type = .domain := ht
      rcases h with h | h | h
      · exact addressLength_congr rfl h
      · have hsize : (d.withTitle ⟨status, reserved, .domain⟩).addressLength =
            ({ d.withTitle ⟨status, reserved, .domain⟩ with nameLength := .ofOctet 1 }).addressLength :=
          addressLength_congr rfl h
        exact hsize
      · exact absurd hname h
    · exact addressLength_withTitle d blank ht

theorem matches_nameLength (hrest : i.rest = j.rest) (h : SameSize i.draft j.draft) :
    Matches SamePayload (nameLength i) (nameLength j) := by
  obtain ⟨hh, hsize⟩ := h
  have hd : i.draft.isType .domain = j.draft.isType .domain := isType_congr hh.type .domain
  unfold nameLength
  by_cases hi : i.draft.isType .domain = true
  · have hj : j.draft.isType .domain = true := hd ▸ hi
    rw [if_pos hi, if_pos hj]
    refine Matches.part hrest (by rw [hsize]) fun raw rest _ => ?_
    by_cases hl : raw.length = 1
    · obtain ⟨n, rfl⟩ := List.length_eq_one_iff.mp hl
      rw [readAddressLength_named hi, readAddressLength_named hj]
      refine ⟨rfl, fun _ => ⟨⟨⟨hh.version, hh.status, hh.reserved, hh.type⟩, ?_⟩, ?_⟩⟩
      · exact addressLength_congr hh.type rfl
      · exact payload_congr hh.type fun _ => rfl
    · rw [readAddressLength_refused _ hl, readAddressLength_refused _ hl]
      exact ⟨rfl, nofun⟩
  · have hj : ¬ j.draft.isType .domain = true := hd ▸ hi
    rw [if_neg hi, if_neg hj]
    exact ⟨rfl, hrest, fun _ => ⟨⟨hh, hsize⟩, payload_congr hh.type fun h => absurd h hi⟩⟩

theorem matches_payload (hrest : i.rest = j.rest) (h : SamePayload i.draft j.draft) :
    Matches SameAddress (payload i) (payload j) := by
  obtain ⟨⟨hh, hsize⟩, hp⟩ := h
  refine Matches.part hrest (by rw [hsize]) fun raw rest _ => ?_
  obtain ⟨hresult, hfill⟩ := readAddress_congr hh.type (hp raw)
  refine ⟨hresult, fun hok => ?_⟩
  obtain ⟨a, hi, hj⟩ := hfill hok
  rw [hi, hj]
  exact ⟨⟨hh.version, hh.status, hh.reserved, hh.type⟩, rfl⟩

theorem matches_port (hrest : i.rest = j.rest) (h : SameAddress i.draft j.draft) :
    Matches SameReply (port i) (port j) := by
  obtain ⟨hh, ha⟩ := h
  refine Matches.part hrest rfl fun raw rest _ => ?_
  obtain ⟨hresult, hfill⟩ := readPort_congr i.draft j.draft raw
  refine ⟨hresult, fun hok => ?_⟩
  obtain ⟨p, hi, hj⟩ := hfill hok
  rw [hi, hj]
  exact { toSameHeader := ⟨hh.version, hh.status, hh.reserved, hh.type⟩, address := ha, port := rfl }

/-- A draft without the length of a name, or with the length one, reads every reply as a new one does; any draft does so
with a reply that has no name. -/
theorem matches_reading (h : d.nameLength = .nothing ∨ d.nameLength = .ofOctet 1 ∨ ¬ IsNamed raw) :
    Matches SameReply (d.reading raw) (blank.reading raw) := by
  have haddress : ∀ i j : Intake, i.rest = j.rest → SameSize i.draft j.draft →
      Matches SameAddress (address i) (address j) :=
    fun i j hrest hs => (matches_nameLength hrest hs).andThen fun _ _ => matches_payload
  exact ((matches_header h).andThen haddress).andThen fun _ _ => matches_port

end Intake

/-! ## The length that is kept -/

/-- The length that a reply with a name announces. -/
def announced (raw : Bytes) : Option UInt8 := if IsNamed raw then raw[4]? else none

/-- The length that is kept after one more reply: one octet is read as the next length only if it is one octet that the draft
asks for. -/
def keep (old : Option UInt8) (raw : Bytes) : Option UInt8 :=
  if old = none ∨ old = some 1 then (announced raw).or old else old

/-- A length as a draft holds it. -/
def lengthValue (n : Option UInt8) : Value := (n.map Value.ofOctet).getD .nothing

theorem IsNamed.exists_title {raw : Bytes} (h : IsNamed raw) :
    ∃ status reserved rest, raw = 5 :: status :: reserved :: 3 :: rest := by
  obtain ⟨h5, h3⟩ := h
  match raw with
  | version :: status :: reserved :: type :: rest =>
    obtain rfl : version = 5 := h5
    obtain rfl : type = 3 := h3
    exact ⟨status, reserved, rest, rfl⟩
  | [] | [_] | [_, _] | [_, _, _] => exact absurd h3 (show ¬ (0 : UInt8) = 3 by decide)

namespace Intake

variable {i : Intake} {d : Socks5ReplyDraft} {raw rest : Bytes} {status reserved n : UInt8}

theorem header_title (d : Socks5ReplyDraft) (h : ReplyHeader) (rest : Bytes) :
    header ⟨d, 5 :: h.status :: h.reserved :: h.type.code :: rest⟩ = (⟨d.withTitle h, rest⟩, .ok ()) := by
  have htake : (Wire.take (.int ReplyHeader.length)).run (5 :: h.status :: h.reserved :: h.type.code :: rest) =
      .ok ([5, h.status, h.reserved, h.type.code], rest) := (Wire.take_eq_ok_iff (n := 4)).mpr ⟨rfl, rfl⟩
  have hd : ReplyHeader.decode [5, h.status, h.reserved, h.type.code] = .ok h := ReplyHeader.decode_eq_ok_iff.mpr rfl
  rw [header, part_ok readHeader htake, readHeader_decoded d hd]

theorem header_cases (d : Socks5ReplyDraft) (raw : Bytes) :
    (∃ f, (header ⟨d, raw⟩).2 = .error f) ∨
      ∃ h rest, raw = 5 :: h.status :: h.reserved :: h.type.code :: rest ∧
        header ⟨d, raw⟩ = (⟨d.withTitle h, rest⟩, .ok ()) := by
  cases htake : (Wire.take (.int ReplyHeader.length)).run raw with
  | error f => exact .inl ⟨f, congrArg Prod.snd (part_error readHeader htake)⟩
  | ok p =>
    obtain ⟨x, rest⟩ := p
    cases hd : ReplyHeader.decode x with
    | error y =>
      left
      rw [header, part_ok readHeader htake, readHeader_refused d hd]
      exact ⟨_, rfl⟩
    | ok h =>
      right
      obtain ⟨-, rfl⟩ := (Wire.take_eq_ok_iff (n := 4)).mp htake
      obtain rfl := ReplyHeader.decode_eq_ok hd
      exact ⟨h, rest, rfl, header_title d h rest⟩

theorem nameLength_domain (hd : i.draft.isType .domain = true) :
    nameLength i = part (fun d => .check d.addressLength >>= .take) readAddressLength i := if_pos hd

theorem nameLength_other (hd : ¬ i.draft.isType .domain = true) : nameLength i = (i, .ok ()) := if_neg hd

theorem take_fresh (hd : d.nameLength = .nothing ∨ d.nameLength = .ofOctet 1) (status reserved : UInt8) :
    (Wire.check (d.withTitle ⟨status, reserved, .domain⟩).addressLength >>= Wire.take) = Wire.take (.int 1) := by
  have hsize : (d.withTitle ⟨status, reserved, .domain⟩).addressLength = .ok (.int 1) := by
    rw [addressLength_named]
    rcases hd with h | h
    · rw [h]
    · rw [h]
      rfl
  rw [hsize, Wire.check_ok, pure_bind]

/-- One octet is asked for and is the length of the name. -/
theorem nameLength_read (hd : d.nameLength = .nothing ∨ d.nameLength = .ofOctet 1) (status reserved n : UInt8) (rest : Bytes) :
    nameLength ⟨d.withTitle ⟨status, reserved, .domain⟩, n :: rest⟩ =
      (⟨{ d.withTitle ⟨status, reserved, .domain⟩ with nameLength := .ofOctet n }, rest⟩, .ok ()) := by
  have htake : (Wire.check (d.withTitle ⟨status, reserved, .domain⟩).addressLength >>= Wire.take).run (n :: rest) =
      .ok ([n], rest) := by
    rw [take_fresh hd]
    exact (Wire.take_eq_ok_iff (n := 1)).mpr ⟨rfl, rfl⟩
  rw [nameLength_domain rfl, part_ok readAddressLength htake, readAddressLength_named rfl]

/-- As many octets are asked for as the last name had, and they are no length. -/
theorem nameLength_refused (hd : d.nameLength = .ofOctet n) (hn : n ≠ 1) (status reserved : UInt8) (rest : Bytes) :
    (nameLength ⟨d.withTitle ⟨status, reserved, .domain⟩, rest⟩).2 =
        .error (if rest.length < n.toNat then .handshake (.endOfStream n.toNat rest.length) else .fault .unmet) ∧
      (nameLength ⟨d.withTitle ⟨status, reserved, .domain⟩, rest⟩).1.draft.nameLength = .ofOctet n := by
  have htake : (Wire.check (d.withTitle ⟨status, reserved, .domain⟩).addressLength >>= Wire.take).run rest =
      (Wire.take (.int n.toNat)).run rest := by
    rw [addressLength_named, hd]
    rfl
  rw [nameLength_domain rfl]
  by_cases hl : rest.length < n.toNat
  · have hshort : (Wire.take (.int n.toNat)).run rest = .error (.handshake (.endOfStream n.toNat rest.length)) :=
      if_pos (by omega)
    rw [part_error readAddressLength (htake.trans hshort), if_pos hl]
    exact ⟨rfl, hd⟩
  · have hlong : (Wire.take (.int n.toNat)).run rest = .ok (rest.take n.toNat, rest.drop n.toNat) :=
      Wire.take_eq_ok_iff.mpr ⟨List.length_take_of_le (by omega), (List.take_append_drop _ _).symm⟩
    have hone : (rest.take n.toNat).length ≠ 1 := by
      rw [List.length_take_of_le (by omega)]
      exact fun h => hn (UInt8.toNat_inj.mp h)
    rw [part_ok readAddressLength (htake.trans hlong), readAddressLength_refused _ hone, if_neg hl]
    exact ⟨rfl, hd⟩

/-! ### Parts that leave the length alone -/

theorem part_keeps (take : Socks5ReplyDraft → Wire Bytes) {read : Socks5ReplyDraft → Bytes → Reading Socks5ReplyDraft}
    (h : ∀ d raw, (read d raw).1.nameLength = d.nameLength) (i : Intake) :
    (part take read i).1.draft.nameLength = i.draft.nameLength := by
  cases ht : (take i.draft).run i.rest with
  | error f => rw [part_error read ht]
  | ok p =>
    rw [part_ok read ht]
    exact h _ _

theorem andThen_keeps {next : Intake → Reading Intake} (h : ∀ i, (next i).1.draft.nameLength = i.draft.nameLength)
    (r : Reading Intake) : (andThen r next).1.draft.nameLength = r.1.draft.nameLength := by
  obtain ⟨i, o⟩ := r
  cases o with
  | ok u => exact h i
  | error f => rfl

theorem port_keeps (i : Intake) : (port i).1.draft.nameLength = i.draft.nameLength := by
  refine part_keeps _ (fun d raw => ?_) i
  cases h : (d.readPort raw).2 with
  | error f => rw [readPort_error h]
  | ok u =>
    obtain ⟨p, hp, -⟩ := (readPort_congr d d raw).2 h
    rw [hp]

theorem payload_keeps (i : Intake) : (payload i).1.draft.nameLength = i.draft.nameLength := by
  refine part_keeps _ (fun d raw => ?_) i
  cases h : (d.readAddress raw).2 with
  | error f => rw [readAddress_error h]
  | ok u =>
    obtain ⟨a, ha, -⟩ := (readAddress_congr rfl rfl).2 h
    rw [ha]

theorem header_keeps (i : Intake) : (header i).1.draft.nameLength = i.draft.nameLength := by
  refine part_keeps _ (fun d raw => ?_) i
  cases h : ReplyHeader.decode raw with
  | error x => rw [readHeader_refused d h]
  | ok title =>
    rw [readHeader_decoded d h]
    rfl

theorem address_keeps (i : Intake) : (address i).1.draft.nameLength = (nameLength i).1.draft.nameLength :=
  andThen_keeps payload_keeps _

/-! ### One reply and many -/

theorem header_named (d : Socks5ReplyDraft) (status reserved : UInt8) (rest : Bytes) :
    header ⟨d, 5 :: status :: reserved :: 3 :: rest⟩ = (⟨d.withTitle ⟨status, reserved, .domain⟩, rest⟩, .ok ()) :=
  header_title d ⟨status, reserved, .domain⟩ rest

/-- A reply without a name leaves the length alone. -/
theorem nameLength_unnamed (h : ¬ IsNamed raw) : (andThen (header ⟨d, raw⟩) address).1.draft.nameLength = d.nameLength := by
  rcases header_cases d raw with ⟨f, hf⟩ | ⟨title, rest, rfl, hh⟩
  · rw [andThen_error hf]
    exact header_keeps ⟨d, raw⟩
  · have hd : ¬ (d.withTitle title).isType .domain = true := by
      obtain ⟨status, reserved, type⟩ := title
      cases type with
      | ipv4 | ipv6 => exact Bool.false_ne_true
      | domain => exact fun _ => h ⟨rfl, rfl⟩
    rw [hh]
    show (address ⟨d.withTitle title, rest⟩).1.draft.nameLength = d.nameLength
    rw [address_keeps, nameLength_other hd]
    rfl

theorem nameLength_reading {old : Option UInt8} (hd : d.nameLength = lengthValue old) (raw : Bytes) :
    (d.reading raw).1.draft.nameLength = lengthValue (keep old raw) := by
  have hparts : (d.reading raw).1.draft.nameLength = (andThen (header ⟨d, raw⟩) address).1.draft.nameLength :=
    andThen_keeps port_keeps _
  rw [hparts]
  by_cases hraw : IsNamed raw
  · obtain ⟨status, reserved, rest, rfl⟩ := hraw.exists_title
    rw [header_named]
    show (address ⟨d.withTitle ⟨status, reserved, .domain⟩, rest⟩).1.draft.nameLength = _
    rw [address_keeps]
    by_cases hold : old = none ∨ old = some 1
    · have hfresh : d.nameLength = .nothing ∨ d.nameLength = .ofOctet 1 := by
        rcases hold with rfl | rfl
        · exact .inl hd
        · exact .inr hd
      have hkeep : keep old (5 :: status :: reserved :: 3 :: rest) = (rest[0]?).or old := by
        rw [keep, if_pos hold, announced, if_pos hraw]
        rfl
      rw [hkeep]
      cases rest with
      | nil =>
        rw [nameLength_domain rfl, part_error readAddressLength (by rw [take_fresh hfresh]; rfl)]
        exact hd
      | cons n rest =>
        rw [nameLength_read hfresh]
        rfl
    · obtain ⟨n, rfl⟩ : ∃ n, old = some n := Option.ne_none_iff_exists'.mp fun h => hold (.inl h)
      have hn : n ≠ 1 := fun h => hold (.inr (congrArg some h))
      rw [keep, if_neg hold]
      exact (nameLength_refused hd hn status reserved rest).2
  · have hkeep : keep old raw = old := by
      rw [keep, announced, if_neg hraw]
      exact ite_self _
    rw [nameLength_unnamed hraw, hkeep, hd]

/-- What is no length ends the reading. -/
theorem reading_named {f : Failure} (h : (nameLength ⟨d.withTitle ⟨status, reserved, .domain⟩, rest⟩).2 = .error f) :
    d.reading (5 :: status :: reserved :: 3 :: rest) = nameLength ⟨d.withTitle ⟨status, reserved, .domain⟩, rest⟩ := by
  have haddress : address ⟨d.withTitle ⟨status, reserved, .domain⟩, rest⟩ =
      nameLength ⟨d.withTitle ⟨status, reserved, .domain⟩, rest⟩ := andThen_error h
  have hnext : andThen (header ⟨d, 5 :: status :: reserved :: 3 :: rest⟩) address =
      nameLength ⟨d.withTitle ⟨status, reserved, .domain⟩, rest⟩ := by
    rw [header_named, ← haddress]
    rfl
  rw [reading, reply, hnext]
  exact andThen_error h

end Intake

namespace Socks5ReplyDraft

variable {d : Socks5ReplyDraft}

/-- The length that a draft keeps is known from the replies alone. -/
theorem nameLength_after {old : Option UInt8} (hd : d.nameLength = lengthValue old) (earlier : List Bytes) :
    (d.after earlier).nameLength = lengthValue (earlier.foldl keep old) := by
  induction earlier generalizing d old with
  | nil => exact hd
  | cons raw earlier ih => exact ih (Intake.nameLength_reading hd raw)

end Socks5ReplyDraft

/-- A length other than one is kept for good. -/
theorem foldl_keep_of_ne_one {n : UInt8} (hn : n ≠ 1) (earlier : List Bytes) : earlier.foldl keep (some n) = some n := by
  have hstep : ∀ raw, keep (some n) raw = some n := by
    intro raw
    refine if_neg ?_
    rintro (h | h)
    · cases h
    · exact hn (Option.some.inj h)
  induction earlier with
  | nil => rfl
  | cons raw earlier ih => rw [List.foldl_cons, hstep, ih]

/-- What is kept is the first length other than one that was announced, if there was one. -/
theorem foldl_keep {old : Option UInt8} (hold : old = none ∨ old = some 1) (earlier : List Bytes) :
    match (earlier.filterMap announced).find? (· ≠ 1) with
    | some n => earlier.foldl keep old = some n ∧ n ≠ 1
    | none => earlier.foldl keep old = none ∨ earlier.foldl keep old = some 1 := by
  induction earlier generalizing old with
  | nil => exact hold
  | cons raw earlier ih =>
    rw [List.foldl_cons]
    have hkeep : keep old raw = (announced raw).or old := if_pos hold
    cases ha : announced raw with
    | none =>
      rw [List.filterMap_cons_none ha, hkeep, ha]
      exact ih hold
    | some n =>
      rw [List.filterMap_cons_some ha, hkeep, ha]
      by_cases hn : n = 1
      · subst hn
        exact ih (.inr rfl)
      · rw [List.find?_cons_of_pos (by simpa using hn)]
        exact ⟨foldl_keep_of_ne_one hn earlier, hn⟩

namespace Socks5ReplyDraft

/-- The first length of a name other than one that some replies announce. -/
def otherLength (replies : List Bytes) : Option UInt8 := (replies.filterMap announced).find? (· ≠ 1)

theorem nameLength_after_none {earlier : List Bytes} (h : otherLength earlier = none) :
    (blank.after earlier).nameLength = .nothing ∨ (blank.after earlier).nameLength = .ofOctet 1 := by
  have hkept := foldl_keep (.inl rfl) earlier
  have hafter : (blank.after earlier).nameLength = lengthValue (earlier.foldl keep none) := nameLength_after rfl earlier
  rw [hafter]
  rw [otherLength] at h
  rw [h] at hkept
  rcases hkept with hk | hk
  · exact .inl (congrArg lengthValue hk)
  · exact .inr (congrArg lengthValue hk)

theorem nameLength_after_some {earlier : List Bytes} {n : UInt8} (h : otherLength earlier = some n) :
    (blank.after earlier).nameLength = .ofOctet n ∧ n ≠ 1 := by
  have hkept := foldl_keep (.inl rfl) earlier
  have hafter : (blank.after earlier).nameLength = lengthValue (earlier.foldl keep none) := nameLength_after rfl earlier
  rw [otherLength] at h
  rw [h] at hkept
  rw [hafter, hkept.1]
  exact ⟨rfl, hkept.2⟩

/-- A draft that keeps a length other than one reads no name. -/
theorem reading_refused {d : Socks5ReplyDraft} {n : UInt8} (hd : d.nameLength = .ofOctet n) (hn : n ≠ 1) {raw : Bytes}
    (hraw : IsNamed raw) : (d.reading raw).2 =
      .error (if raw.length < 4 + n.toNat then .handshake (.endOfStream n.toNat (raw.length - 4)) else .fault .unmet) := by
  obtain ⟨status, reserved, rest, rfl⟩ := hraw.exists_title
  obtain ⟨hfails, -⟩ := Intake.nameLength_refused hd hn status reserved rest
  have hlong : (5 :: status :: reserved :: 3 :: rest).length = rest.length + 4 := rfl
  have hsame : rest.length + 4 < 4 + n.toNat ↔ rest.length < n.toNat := by omega
  rw [Intake.reading_named hfails, hfails, hlong, Nat.add_sub_cancel]
  simp only [hsame]

/-- Behind the header of a name one octet is asked for, or else as many as the first other length says. -/
theorem addressLength_header {earlier : List Bytes} {raw : Bytes} {e : Socks5ReplyDraft}
    (he : (blank.after earlier).readHeader raw = (e, .ok ())) (ht : e.isType .domain = true) :
    e.addressLength = .ok (((otherLength earlier).map Value.ofOctet).getD (.int 1)) := by
  obtain ⟨⟨status, reserved, type⟩, -, rfl⟩ := readHeader_eq_ok_iff.mp he
  cases type with
  | ipv4 | ipv6 => exact absurd ht Bool.false_ne_true
  | domain =>
    have hsize := addressLength_named (blank.after earlier) status reserved
    cases ho : otherLength earlier with
    | none =>
      rcases nameLength_after_none ho with hd | hd
      · rw [hd] at hsize
        exact hsize
      · rw [hd] at hsize
        exact hsize
    | some n =>
      rw [(nameLength_after_some ho).1] at hsize
      exact hsize

/-- Once the draft is told a length, it asks for as many octets. -/
theorem addressLength_told {d e : Socks5ReplyDraft} {raw : Bytes} (he : d.readHeader raw = (e, .ok ()))
    (ht : e.isType .domain = true) (n : UInt8) :
    ∃ e', e.readAddressLength [n] = (e', .ok ()) ∧ e'.addressLength = .ok (.ofOctet n) := by
  refine ⟨_, readAddressLength_named ht n, ?_⟩
  obtain ⟨⟨status, reserved, type⟩, -, rfl⟩ := readHeader_eq_ok_iff.mp he
  cases type with
  | ipv4 | ipv6 => exact absurd ht Bool.false_ne_true
  | domain => rfl

/-- As a new draft reads an empty name, one that keeps another length than one does not read all that a new one does. -/
theorem otherLength_of_matches {earlier : List Bytes}
    (h : ∀ raw, Intake.Matches SameReply ((blank.after earlier).reading raw) (blank.reading raw)) :
    otherLength earlier = none := by
  cases ho : otherLength earlier with
  | none => rfl
  | some n =>
    obtain ⟨hd, hn⟩ := nameLength_after_some ho
    have hnew : (blank.reading [5, 0, 0, 3, 0, 0, 0]).2 = .ok () := rfl
    have hsame := (h [5, 0, 0, 3, 0, 0, 0]).result
    rw [reading_refused hd hn ⟨rfl, rfl⟩, hnew] at hsame
    cases hsame

/-- A new draft reads a reply as it is read from octets alone. A draft that has read some replies, whole ones or those that
failed, does the same, with the same result, the same octets left and the same fields, exactly if none of them has announced a
name of another length than one. A reply without a name it reads so in any case. Behind the header of a name it asks for one
octet, or else for as many as the first such length says, until it is told the next; and then no reply with a name is read
any more. -/
theorem reading_after_replies (earlier : List Bytes) :
    let d := blank.after earlier
    (∀ raw, Intake.outcome (blank.reading raw) = Wire.readReply.run raw) ∧
    ((∀ raw, Intake.Matches SameReply (d.reading raw) (blank.reading raw)) ↔ otherLength earlier = none) ∧
    (∀ raw, ¬ IsNamed raw → Intake.Matches SameReply (d.reading raw) (blank.reading raw)) ∧
    (∀ raw e, d.readHeader raw = (e, .ok ()) → e.isType .domain = true →
      e.addressLength = .ok (((otherLength earlier).map Value.ofOctet).getD (.int 1)) ∧
      ∀ n, ∃ e', e.readAddressLength [n] = (e', .ok ()) ∧ e'.addressLength = .ok (.ofOctet n)) ∧
    ∀ n, otherLength earlier = some n → ∀ raw, IsNamed raw → (d.reading raw).2 =
      .error (if raw.length < 4 + n.toNat then .handshake (.endOfStream n.toNat (raw.length - 4)) else .fault .unmet) := by
  intro d
  have hmatch : otherLength earlier = none → ∀ raw, Intake.Matches SameReply (d.reading raw) (blank.reading raw) := by
    intro h raw
    apply Intake.matches_reading
    rcases nameLength_after_none h with hd | hd
    · exact .inl hd
    · exact .inr (.inl hd)
  refine ⟨Intake.outcome_reading, ⟨otherLength_of_matches, hmatch⟩, fun raw hraw => ?_, fun raw e he ht => ?_,
    fun n h raw hraw => ?_⟩
  · exact Intake.matches_reading (.inr (.inr hraw))
  · exact ⟨addressLength_header he ht, addressLength_told he ht⟩
  · obtain ⟨hd, hn⟩ := nameLength_after_some h
    exact reading_refused hd hn hraw

/-- Behind a name of one octet everything is read, and behind one of two octets an address but no name. -/
theorem reading_after_replies_lengths :
    let one : Bytes := [5, 0, 0, 3, 1, 97, 0, 80]
    let two : Bytes := [5, 0, 0, 3, 2, 97, 98, 0, 80]
    let quad : Bytes := [5, 0, 0, 1, 1, 2, 3, 4, 0, 80]
    (otherLength [one, quad] = none ∧
      Intake.Matches SameReply ((blank.after [one, quad]).reading two) (blank.reading two)) ∧
    (¬ IsNamed quad ∧ Intake.Matches SameReply ((blank.after [one, two]).reading quad) (blank.reading quad)) ∧
    (otherLength [one, two] = some 2 ∧ IsNamed one ∧
      ((blank.after [one, two]).reading one).2 = .error (.fault .unmet)) := by
  intro one two quad
  have hnone : otherLength [one, quad] = none := by decide
  have hsome : otherLength [one, two] = some 2 := by decide
  have hone : IsNamed one := by decide
  have hquad : ¬ IsNamed quad := by decide
  obtain ⟨-, hmatch, -⟩ := reading_after_replies [one, quad]
  obtain ⟨-, -, hunnamed, -, hrefused⟩ := reading_after_replies [one, two]
  exact ⟨⟨hnone, hmatch.mpr hnone two⟩, ⟨hquad, hunnamed quad hquad⟩, hsome, hone, hrefused 2 hsome one hone⟩

/-- A name of two octets and then a name of one: each of them is a reply that a new draft reads. -/
theorem reading_second_name :
    let first : Bytes := [5, 0, 0, 3, 2, 97, 98, 0, 80]
    let next : Bytes := [5, 0, 0, 3, 1, 97, 0, 80]
    let d := (blank.reading first).1.draft
    (blank.reading first).2 = .ok () ∧ (blank.reading next).2 = .ok () ∧
      (∃ e, d.readHeader (next.take 4) = (e, .ok ()) ∧ e.addressLength = .ok (.int 2)) ∧
      (d.reading next).2 = .error (.fault .unmet) :=
  ⟨rfl, rfl, ⟨_, rfl, rfl⟩, rfl⟩

end Socks5ReplyDraft

end SocksTunnel
