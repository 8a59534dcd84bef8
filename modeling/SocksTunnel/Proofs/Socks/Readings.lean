import SocksTunnel.Proofs.Socks.RequestCodec
import SocksTunnel.Socks.Packet

/-
  SocksTunnel.Proofs.Socks.Readings — packets that are read again and again, as a whole or in
  parts, with readings among them that fail. A packet should hold what the readings that
  succeeded have filled in, as if the others had never been tried.

  Proved: so it does for five of the six messages. A SOCKS5 request takes its header from
  octets whose destination is refused only later: what a failed reading leaves of it is known
  exactly, and destination and port are never touched (`failed_reading_keeps`). With a header
  of one request and the destination of another it is written as a third
  (`failed_reading_mixes`).
-/

namespace SocksTunnel

namespace Socks5RequestDraft

variable {d e : Socks5RequestDraft} {raw : Bytes}

/-- The draft with the header of octets that begin like a request and are long enough. -/
def begun (d : Socks5RequestDraft) (raw : Bytes) : Socks5RequestDraft :=
  if 7 ≤ raw.length ∧ raw.octet 0 = 5 then
    { d with version := .int 5, command := .ofOctet (raw.octet 1), reserved := .ofOctet (raw.octet 2) }
  else d

/-- What a failed reading leaves. -/
theorem read_failed {f : Failure} (h : (d.read raw).2 = .error f) : (d.read raw).1 = d.begun raw := by
  unfold begun
  by_cases hstart : 7 ≤ raw.length ∧ raw.octet 0 = 5
  · rw [if_pos hstart]
    obtain ⟨command, reserved, c, p, q, address, ha, rfl⟩ := exists_parts hstart.1 hstart.2
    rw [read_parts d command reserved c p q ha] at h ⊢
    cases hx : Value.unpack (.ofOctet c) (.bytes address) with
    | ok dest =>
      rw [hx] at h
      cases h
    | error g => rfl
  · rw [if_neg hstart, d.read_unstarted hstart]

/-- What a reading that succeeds fills does not depend on what was there. -/
theorem read_congr (h : (e.read raw).2 = .ok ()) : d.read raw = e.read raw := by
  by_cases hr : IsRequest raw
  · obtain ⟨command, reserved, dest, port, -, -, hall⟩ := hr.exists_full
    rw [hall d, hall e]
  · obtain ⟨f, hf, -⟩ := e.read_error hr
    exact nomatch hf.symm.trans h

end Socks5RequestDraft

/-! ## Drafts of any message -/

namespace Draft

variable {d : Draft} {raw : Bytes} {f : Failure}

theorem read_failed (hk : d.kind ≠ .socks5Request) (h : (d.read (.bytes raw)).2 = .error f) : (d.read (.bytes raw)).1 = d := by
  cases d with
  | socks4Request d => exact congrArg socks4Request (Socks4RequestDraft.read_error h)
  | socks4Reply d => exact congrArg socks4Reply (Socks4ReplyDraft.read_error h)
  | greeting d => exact congrArg greeting (GreetingDraft.read_error h)
  | methodReply d => exact congrArg methodReply (MethodReplyDraft.read_error h)
  | socks5Request d => exact absurd rfl hk
  | socks5Reply d => rfl

theorem readPart_failed {part : Part} (h : (d.readPart part (.bytes raw)).2 = .error f) :
    (d.readPart part (.bytes raw)).1 = d := by
  cases d with
  | socks5Reply d =>
    cases part with
    | header => exact congrArg socks5Reply (Socks5ReplyDraft.readHeader_error h)
    | addressLength => exact congrArg socks5Reply (Socks5ReplyDraft.readAddressLength_error h)
    | address => exact congrArg socks5Reply (Socks5ReplyDraft.readAddress_error h)
    | port => exact congrArg socks5Reply (Socks5ReplyDraft.readPort_error h)
  | socks4Request | socks4Reply | greeting | methodReply | socks5Request => rfl

end Draft

/-! ## Packets -/

namespace Packet

/-- A reading of octets, of a packet as a whole or of one of its parts. -/
inductive Attempt where
  | whole (raw : Bytes)
  | part (part : Draft.Part) (raw : Bytes)
  deriving DecidableEq, Repr

def attempt (p : Packet) : Attempt → Reading Packet
  | .whole raw => p.read (.bytes raw)
  | .part part raw => p.readPart part (.bytes raw)

/-- The packet after some readings, whether they succeed or not. -/
def after (p : Packet) (attempts : List Attempt) : Packet := attempts.foldl (fun p a => (p.attempt a).1) p

/-- Those of the readings that succeed. -/
def succeeding (p : Packet) : List Attempt → List Attempt
  | [] => []
  | a :: r =>
    match p.attempt a with
    | (q, .ok _) => a :: q.succeeding r
    | (q, .error _) => q.succeeding r

/-- Packets that are the same, but for the header of a SOCKS5 request. -/
inductive Agrees : Packet → Packet → Prop
  | refl (p : Packet) : Agrees p p
  | header (d : Socks5RequestDraft) (version command reserved : Value) (others : List (String × Value)) :
      Agrees ⟨.socks5Request d, others⟩
        ⟨.socks5Request { d with version := version, command := command, reserved := reserved }, others⟩

variable {p q r : Packet} {a : Attempt} {f : Failure}

theorem Agrees.trans (h : Agrees p q) (h' : Agrees q r) : Agrees p r := by
  cases h with
  | refl => exact h'
  | header d version command reserved others =>
    cases h' with
    | refl => exact .header d version command reserved others
    | header _ version command reserved => exact .header d version command reserved others

theorem Agrees.eq (h : Agrees p q) (hk : p.draft.kind ≠ .socks5Request) : q = p := by
  cases h with
  | refl => rfl
  | header => exact absurd rfl hk

/-! ### One reading -/

/-- A failed reading leaves every other message as it was. -/
theorem attempt_failed (hk : p.draft.kind ≠ .socks5Request) (h : (p.attempt a).2 = .error f) : (p.attempt a).1 = p := by
  obtain ⟨draft, others⟩ := p
  cases a with
  | whole raw => exact congrArg (Packet.mk · others) (Draft.read_failed hk h)
  | part part raw => exact congrArg (Packet.mk · others) (Draft.readPart_failed h)

/-- What a failed reading leaves of a SOCKS5 request. -/
def Attempt.leaves (d : Socks5RequestDraft) : Attempt → Socks5RequestDraft
  | .whole raw => d.begun raw
  | .part _ _ => d

theorem attempt_failed_request {d : Socks5RequestDraft} (hd : p.draft = .socks5Request d) (h : (p.attempt a).2 = .error f) :
    (p.attempt a).1 = { p with draft := .socks5Request (a.leaves d) } := by
  obtain ⟨draft, others⟩ := p
  obtain rfl : draft = .socks5Request d := hd
  cases a with
  | whole raw => exact congrArg (fun d => Packet.mk (.socks5Request d) others) (Socks5RequestDraft.read_failed h)
  | part part raw => exact congrArg (Packet.mk · others) (Draft.readPart_failed h)

theorem agrees_attempt_failed (h : (p.attempt a).2 = .error f) : Agrees p (p.attempt a).1 := by
  by_cases hk : p.draft.kind = .socks5Request
  · obtain ⟨draft, others⟩ := p
    cases draft with
    | socks5Request d =>
      rw [attempt_failed_request rfl h]
      cases a with
      | part => exact .refl _
      | whole raw =>
        rw [Attempt.leaves, Socks5RequestDraft.begun]
        split
        · exact .header d _ _ _ others
        · exact .refl _
    | socks4Request | socks4Reply | greeting | methodReply | socks5Reply => cases hk
  · rw [attempt_failed hk h]
    exact .refl p

/-- A reading that succeeds fills the same fields whatever the header was. -/
theorem Agrees.attempt (h : Agrees p q) (hq : (q.attempt a).2 = .ok ()) : Agrees (p.attempt a).1 (q.attempt a).1 := by
  cases h with
  | refl => exact .refl _
  | header d version command reserved others =>
    cases a with
    | part part raw => cases hq
    | whole raw =>
      have hsame := Socks5RequestDraft.read_congr (d := d) hq
      have hpacket : Packet.attempt ⟨.socks5Request d, others⟩ (.whole raw) =
          Packet.attempt ⟨.socks5Request { d with version := version, command := command, reserved := reserved }, others⟩
            (.whole raw) := congrArg (fun r : Reading Socks5RequestDraft => (Packet.mk (.socks5Request r.1) others, r.2)) hsame
      rw [hpacket]
      exact .refl _

/-! ### All readings -/

theorem kind_attempt (p : Packet) (a : Attempt) : (p.attempt a).1.draft.kind = p.draft.kind := by
  obtain ⟨draft, others⟩ := p
  cases a with
  | whole raw => cases draft <;> rfl
  | part part raw =>
    cases draft with
    | socks5Reply d => cases part <;> rfl
    | socks4Request | socks4Reply | greeting | methodReply | socks5Request => rfl

theorem kind_after (p : Packet) (attempts : List Attempt) : (p.after attempts).draft.kind = p.draft.kind := by
  induction attempts generalizing p with
  | nil => rfl
  | cons a r ih => exact (ih (p.attempt a).1).trans (p.kind_attempt a)

/-- Beside a packet that goes through all readings stands one that goes through those alone that succeed: they stay the
same, but for a header. -/
theorem Agrees.after (h : Agrees p q) (attempts : List Attempt) :
    Agrees (p.after (q.succeeding attempts)) (q.after attempts) := by
  induction attempts generalizing p q with
  | nil => exact h
  | cons a r ih =>
    have hcons : q.after (a :: r) = (q.attempt a).1.after r := rfl
    rw [hcons, succeeding]
    cases ha : q.attempt a with
    | mk q' o =>
      cases o with
      | ok u =>
        have hstep := h.attempt (congrArg Prod.snd ha)
        rw [ha] at hstep
        exact ih hstep
      | error f =>
        have hstep := agrees_attempt_failed (congrArg Prod.snd ha)
        rw [ha] at hstep
        exact ih (h.trans hstep)

/-- A failed reading leaves a packet as it was, unless it is a SOCKS5 request. Of that it changes the header alone, and only
if the octets are seven at least and of version 5: then the header is that of the octets. So after any readings a packet is
as if those that failed had not been tried, but for the header of a SOCKS5 request. -/
theorem failed_reading_keeps (p : Packet) (a : Attempt) (attempts : List Attempt) :
    (∀ f, (p.attempt a).2 = .error f →
      (p.draft.kind ≠ .socks5Request → (p.attempt a).1 = p) ∧
      ∀ d, p.draft = .socks5Request d → (p.attempt a).1 = { p with draft := .socks5Request (a.leaves d) } ∧
        ((p.attempt a).1 = p ↔ a.leaves d = d)) ∧
    Agrees (p.after (p.succeeding attempts)) (p.after attempts) ∧
    (p.draft.kind ≠ .socks5Request → p.after attempts = p.after (p.succeeding attempts)) := by
  have hrun := (Agrees.refl p).after attempts
  refine ⟨fun f h => ⟨fun hk => attempt_failed hk h, fun d hd => ?_⟩, hrun, fun hk => hrun.eq ?_⟩
  · have hleft := attempt_failed_request hd h
    refine ⟨hleft, ?_⟩
    rw [hleft]
    obtain ⟨draft, others⟩ := p
    obtain rfl : draft = .socks5Request d := hd
    simp only [mk.injEq, Draft.socks5Request.injEq, and_true]
  · rw [kind_after]
    exact hk

/-- A reply whose address is too long for the name that was announced keeps the name before it, and a request to bind keeps
its destination but not its command. -/
theorem failed_reading_keeps_fields :
    let reply : Packet := ⟨.socks5Reply .blank, []⟩
    let read : List Attempt := [.part .header [5, 0, 0, 3], .part .addressLength [1], .part .address [97]]
    let failing : Attempt := .part .address [97, 98]
    let request : Packet := ⟨.socks5Request (.full 2 0 (.ipv4 ⟨1, 2, 3, 4⟩) 80), []⟩
    let cut : Attempt := .whole [5, 1, 7, 3, 5, 97, 98, 99, 0, 80]
    ((∃ f, ((reply.after read).attempt failing).2 = .error f) ∧ reply.draft.kind ≠ .socks5Request ∧
      ((reply.after read).attempt failing).1 = reply.after read ∧ reply.after (read ++ [failing]) = reply.after read) ∧
    (∃ f, (request.attempt cut).2 = .error f) ∧
      (request.attempt cut).1 = ⟨.socks5Request (.full 1 7 (.ipv4 ⟨1, 2, 3, 4⟩) 80), []⟩ := by
  intro reply read failing request cut
  have hfails : ((reply.after read).attempt failing).2 =
      .error (.handshake (.malformed (.boundAddress (.destination .lengthOctet)))) := rfl
  have hkind : reply.draft.kind ≠ .socks5Request := nofun
  have hcut : (request.attempt cut).2 = .error (.fault (.destination .lengthOctet)) := rfl
  obtain ⟨hone, -, -⟩ := failed_reading_keeps (reply.after read) failing []
  obtain ⟨-, -, hall⟩ := failed_reading_keeps reply failing (read ++ [failing])
  obtain ⟨hrequest, -, -⟩ := failed_reading_keeps request cut []
  refine ⟨⟨⟨_, hfails⟩, hkind, (hone _ hfails).1 (by rw [kind_after]; exact hkind), hall hkind⟩, ⟨_, hcut⟩, ?_⟩
  exact ((hrequest _ hcut).2 (.full 2 0 (.ipv4 ⟨1, 2, 3, 4⟩) 80) rfl).1

/-- A request to bind that is read, then one to connect to a name that is cut short: the packet is written as a request to
connect to the first destination, which nobody has sent. -/
theorem failed_reading_mixes :
    let p : Packet := ⟨.socks5Request (.of .nothing .nothing .nothing), []⟩
    let bind : Bytes := [5, 2, 0, 1, 1, 2, 3, 4, 0, 80]
    let connect : Attempt := .whole [5, 1, 7, 3, 5, 97, 98, 99, 0, 80]
    let q := (p.attempt (.whole bind)).1
    q.write = .ok bind ∧ (q.attempt connect).2 = .error (.fault (.destination .lengthOctet)) ∧ (q.attempt connect).1 ≠ q ∧
      (q.attempt connect).1.write = .ok [5, 1, 7, 1, 1, 2, 3, 4, 0, 80] := by
  intro p bind connect q
  have hbefore : q.write = .ok bind := rfl
  have hafter : (q.attempt connect).1.write = .ok [5, 1, 7, 1, 1, 2, 3, 4, 0, 80] := rfl
  refine ⟨hbefore, rfl, fun h => ?_, hafter⟩
  rw [h, hbefore] at hafter
  exact absurd (Except.ok.inj hafter) (by decide)

end Packet

end SocksTunnel
