import SocksTunnel.Proofs.Handshake.Failures
import SocksTunnel.Proofs.Handshake.Socks5

/-
  SocksTunnel.Proofs.Handshake.Socks4 — SOCKS4 handshakes over streams on which nothing goes
  wrong. There is one message and one reply of eight octets, the first two of which decide.

  Proved: the handshake writes its request alone, takes eight octets if they are there, and
  ends by the first flaw of what there is to read (`connect_socks4_verdict`). A route without
  a user and one whose user is empty make the same handshake over every stream at all.
-/

namespace SocksTunnel

open Script Reply

/-! ## The decision -/

theorem Bytes.octet_take {b : Bytes} {i n : Nat} (h : i < n) : Bytes.octet (b.take n) i = b.octet i := by
  simp only [octet, List.getD_eq_getElem?_getD, List.getElem?_take_of_lt h]

namespace Reply

/-- What a status of SOCKS4 by itself means. -/
def statusError4 (status : UInt8) : Option HandshakeError :=
  if status = 0x5a then none
  else if 0x5b ≤ status ∧ status ≤ 0x5d then
    some (.rejected 4 status (((Socks4Status.ofCode? status).bind Socks4Status.reason?).getD []))
  else some (.malformed (.socks4Status status))

/-- The first flaw of a reply of SOCKS4, and what it leaves unread. -/
def judge4 (b : Bytes) : Option HandshakeError × Bytes :=
  if b.length < 8 then (some (.endOfStream 8 b.length), [])
  else if b.octet 0 ≠ 0 then (some (.malformed (.socks4Version (b.octet 0).toNat)), b.drop 8)
  else (statusError4 (b.octet 1), b.drop 8)

/-- The decision of a reply counts no octets but the first two. -/
theorem judge4_fst_congr {b c : Bytes} (hl : b.length = c.length) (h0 : b.octet 0 = c.octet 0)
    (h1 : b.octet 1 = c.octet 1) : (judge4 b).1 = (judge4 c).1 := by
  unfold judge4
  rw [hl, h0, h1]
  split
  · rfl
  · split <;> rfl

theorem judge4_eq_none {b : Bytes} (h : (judge4 b).1 = none) :
    ∃ reply, reply.length = 8 ∧ reply.octet 0 = 0 ∧ reply.octet 1 = 0x5a ∧ b = reply ++ (judge4 b).2 := by
  unfold judge4 at h ⊢
  by_cases hl : b.length < 8
  · rw [if_pos hl] at h
    cases h
  rw [if_neg hl] at h ⊢
  by_cases h0 : b.octet 0 = 0
  swap
  · rw [if_pos h0] at h
    cases h
  rw [if_neg (not_not_intro h0)] at h ⊢
  have h1 : b.octet 1 = 0x5a := by
    by_contra hn
    simp only [statusError4, if_neg hn] at h
    split at h <;> cases h
  refine ⟨b.take 8, List.length_take_of_le (Nat.le_of_not_lt hl), ?_, ?_, (List.take_append_drop 8 b).symm⟩
  · rw [← h0, Bytes.octet_take (by omega)]
  · rw [← h1, Bytes.octet_take (by omega)]

end Reply

namespace Socks4Status

theorem ofCode?_eq_none {c : UInt8} (h : ofCode? c = none) : c ≠ 0x5a ∧ ¬ (0x5b ≤ c ∧ c ≤ 0x5d) := by
  have hn : ∀ s : Socks4Status, s.code ≠ c := by
    intro s hs
    rw [← hs, ofCode?_code] at h
    cases h
  refine ⟨fun hc => hn granted hc.symm, fun ⟨hl, hu⟩ => ?_⟩
  have hl := UInt8.le_iff_toNat_le.mp hl
  have hu := UInt8.le_iff_toNat_le.mp hu
  have hne : ∀ s : Socks4Status, s.code.toNat ≠ c.toNat := fun s hs => hn s (UInt8.toNat_inj.mp hs)
  have h1 := hne rejected
  have h2 := hne identdUnreachable
  have h3 := hne identdMismatch
  simp only [code, UInt8.reduceToNat] at hl hu h1 h2 h3
  omega

end Socks4Status

namespace Exchange

theorem verdict_ofStatus4 (a : Ipv4) (p : Port) (c : UInt8) (buffer : Bytes) (replies : List Bytes) :
    (ofStatus4 a p c).verdict buffer replies = ⟨statusError4 c, buffer, []⟩ := by
  unfold ofStatus4
  cases hc : Socks4Status.ofCode? c with
  | none =>
    obtain ⟨h1, h2⟩ := Socks4Status.ofCode?_eq_none hc
    simp only [malformed, verdict, statusError4, if_neg h1, if_neg h2]
  | some st =>
    obtain rfl := Socks4Status.ofCode?_eq_some hc
    cases st <;> rfl

theorem verdict_socks4 (request : Bytes) (a : Ipv4) (p : Port) (buffer : Bytes) (replies : List Bytes) :
    (socks4 request a p).verdict buffer replies =
      (Verdict.reading (judge4 (buffer ++ replies.headD []))).after request := by
  rw [socks4, verdict]
  congr 1
  rcases buffer ++ replies.headD [] with _ | ⟨v, _ | ⟨c, _ | ⟨o₂, _ | ⟨o₃, _ | ⟨o₄, _ | ⟨o₅, _ | ⟨o₆, _ | ⟨o₇, rest⟩⟩⟩⟩⟩⟩⟩⟩
  iterate 8 rfl
  have h : ¬ (v :: c :: o₂ :: o₃ :: o₄ :: o₅ :: o₆ :: o₇ :: rest).length < 8 := by
    simp only [List.length_cons]; omega
  rw [verdict, Socks4Reply.length, if_neg h, judge4, if_neg h]
  show (afterReply4 a p [v, c, o₂, o₃, o₄, o₅, o₆, o₇]).verdict rest replies.tail =
    .reading (if v ≠ 0 then (some (.malformed (.socks4Version v.toNat)), rest) else (statusError4 c, rest))
  rw [afterReply4, Socks4Reply.decode]
  by_cases hv : v = 0
  · rw [if_pos hv, if_neg (not_not_intro hv)]
    exact verdict_ofStatus4 a p c rest replies.tail
  · rw [if_neg hv, if_pos hv]
    rfl

end Exchange

/-! ## Routes -/

namespace Route

/-- Routes of SOCKS4 to an address and port, with these octets as the user. -/
inductive IsSocks4 (a : Ipv4) (p : Port) (t : Timeouts) : Bytes → Route → Prop
  | anonymous : IsSocks4 a p t [] (.socks4 a p (.timeouts t))
  | user (u : Bytes) : IsSocks4 a p t u (.socks4User a p (.bytes u) (.timeouts t))

variable {a : Ipv4} {p : Port} {t : Timeouts} {u : Bytes} {r : Route}

theorem IsSocks4.request_eq (h : IsSocks4 a p t u r) : r.request = .ok (Socks4Request.encode ⟨p, a, u⟩) := by
  cases h with
  | anonymous => exact request_socks4 a p _
  | user => exact request_socks4User a p u _

theorem IsSocks4.exchange_eq (h : IsSocks4 a p t u r) :
    r.exchange = .ok (.socks4 (Socks4Request.encode ⟨p, a, u⟩) a p) := by
  have hr := h.request_eq
  cases h with
  | anonymous => rw [exchange_socks4, hr]; rfl
  | user => rw [exchange_socks4User, hr]; rfl

theorem IsSocks4.connect_eq {σ : Type} [Transport σ] (h : IsSocks4 a p t u r) (s : Session σ) :
    r.connect s = s.run t (.socks4 (Socks4Request.encode ⟨p, a, u⟩) a p) := by
  rw [connect, h.exchange_eq]
  cases h <;> rfl

/-- Settings of the right types for SOCKS4 make such a route. -/
theorem WellTyped.isSocks4 {q : Protocol} {settings : List Value} (hw : WellTyped q settings) (hq : q ≠ .socks5)
    (hr : ofSettings q settings = .ok r) : ∃ a p t u, IsSocks4 a p t u r := by
  cases hw with
  | socks4 address port t =>
    obtain ⟨a, -, hr⟩ := Except.bind_eq_ok_iff.mp hr
    obtain ⟨p, -, hr⟩ := Except.bind_eq_ok_iff.mp hr
    obtain rfl := Except.ok.inj hr
    exact ⟨a, p, t, [], .anonymous⟩
  | socks4Text address port name t | socks4Bytes address port name t =>
    obtain ⟨a, -, hr⟩ := Except.bind_eq_ok_iff.mp hr
    obtain ⟨p, -, hr⟩ := Except.bind_eq_ok_iff.mp hr
    obtain ⟨u, hu, hr⟩ := Except.bind_eq_ok_iff.mp hr
    obtain rfl := Except.ok.inj hr
    obtain rfl : .bytes _ = u := Except.ok.inj (user_eq_ok hu)
    exact ⟨a, p, t, _, .user _⟩
  | socks4Broken address port name t => exact absurd hr ofSettings_broken_ne_ok
  | socks5 => exact absurd rfl hq

/-- A handshake depends on nothing of its route but what a client does along it and the timeouts. -/
theorem connect_congr {σ : Type} [Transport σ] {r r' : Route} (hx : r.exchange = r'.exchange)
    (ht : r.timeouts = r'.timeouts) (s : Session σ) : r.connect s = r'.connect s := by
  rw [connect, connect, hx, ht]

/-- A user of no octets, as text or as data, makes the handshake of no user: with every address and port, those
that are refused among them, and over every stream. -/
theorem connect_no_user {σ : Type} [Transport σ] (address port name timeouts : Value)
    (hn : name = .text [] ∨ name = .bytes []) (s : Session σ) :
    (ofSettings .socks4User [address, port, name, timeouts]).map (·.connect s) =
      (ofSettings .socks4 [address, port, timeouts]).map (·.connect s) := by
  have hu : user name = .ok (.bytes []) := by
    rcases hn with rfl | rfl
    · exact user_bytes (b := []) List.not_mem_nil
    · exact user_bytes List.not_mem_nil
  simp only [ofSettings, hu, bind, Except.bind]
  cases address.socks4Address with
  | error f => simp only [Except.map]
  | ok a =>
    cases port.port with
    | error f => simp only [Except.map]
    | ok p =>
      have hx : (socks4User a p (.bytes []) timeouts).exchange = (socks4 a p timeouts).exchange := by
        rw [exchange_socks4User, exchange_socks4, request_socks4User, request_socks4]
      exact congrArg Except.ok (connect_congr hx rfl s)

end Route

/-! ## The handshake -/

/-- The run of a handshake along a SOCKS4 route from the start. -/
theorem Route.IsSocks4.connect_run {a : Ipv4} {p : Port} {t : Timeouts} {u : Bytes} {r : Route} (h : r.IsSocks4 a p t u)
    (hw : 0 < t.write.seconds) (hr : 0 < t.read.seconds) {s : Stream} (hs : s.IsPrompt t) :
    let out := r.connect (Session.start s)
    out.1 = (Verdict.reading (judge4 s.first)).result ∧ out.2.stream.buffer = (judge4 s.first).2 ∧
      out.2.stream.written = s.written ++ [Socks4Request.encode ⟨p, a, u⟩] := by
  have hrun := Session.run_prompt hw hr (.socks4 (Socks4Request.encode ⟨p, a, u⟩) a p) (Session.start s) hs
  rw [show (Session.start s).stream = s from rfl, Exchange.verdict_socks4, List.headD_eq_getD] at hrun
  rw [h.connect_eq]
  exact hrun

/-- Over a stream on which nothing goes wrong a SOCKS4 handshake writes its request alone: version 4, connect, the
port with its high octet first, the address, the user and a zero. It ends by the first flaw of what there is to read,
of which it takes eight octets, or all if there are fewer; the six behind the status never count. Over any stream at
all, no user and one of no octets make the same handshake. -/
theorem connect_socks4_verdict :
    (∀ {q : Protocol} {settings : List Value} {r : Route} {t : Timeouts},
      Route.WellTyped q settings → q ≠ .socks5 → Route.ofSettings q settings = .ok r → r.timeouts = .ok t →
      0 < t.write.seconds → 0 < t.read.seconds →
      ∃ a p u, r.IsSocks4 a p t u ∧ ∀ s : Stream, s.IsPrompt t →
        let out := r.connect (Session.start s)
        out.2.stream.written = s.written ++ [[4, 1, UInt8.ofNat (p.toNat / 256), UInt8.ofNat p.toNat,
          a.first, a.second, a.third, a.fourth] ++ u ++ [0]] ∧
        out.1 = (Verdict.reading (judge4 s.first)).result ∧ out.2.stream.buffer = (judge4 s.first).2 ∧
        ∀ s' : Stream, s'.IsPrompt t → s'.first.length = s.first.length → s'.first.octet 0 = s.first.octet 0 →
          s'.first.octet 1 = s.first.octet 1 → (r.connect (Session.start s')).1 = out.1) ∧
    ∀ (address port name timeouts : Value), name = .text [] ∨ name = .bytes [] →
      ∀ {σ : Type} [Transport σ] (s : Session σ),
        (Route.ofSettings .socks4User [address, port, name, timeouts]).map (·.connect s) =
          (Route.ofSettings .socks4 [address, port, timeouts]).map (·.connect s) := by
  refine ⟨?_, fun address port name timeouts hn σ _ s => Route.connect_no_user address port name timeouts hn s⟩
  intro q settings r t hs hq hr ht hwrite hread
  obtain ⟨a, p, t', u, h4⟩ := hs.isSocks4 hq hr
  obtain rfl : t' = t := by
    cases h4 <;> exact Except.ok.inj ht
  have hrun := fun s hp => h4.connect_run hwrite hread (s := s) hp
  refine ⟨a, p, u, h4, fun s hp => ?_⟩
  obtain ⟨h1, h2, h3⟩ := hrun s hp
  refine ⟨h3, h1, h2, fun s' hp' hl h0 hc => ?_⟩
  obtain ⟨h1', -, -⟩ := hrun s' hp'
  rw [h1, h1', Verdict.result, Verdict.result]
  simp only [Verdict.reading, judge4_fst_congr hl h0 hc]

/-- A user is refused by the proxy, which keeps what follows its reply. -/
theorem connect_socks4_verdict_rejected :
    let t := Timeouts.uniform .ten
    let settings : List Value := [.ipv4 ⟨203, 0, 113, 7⟩, .int 9000, .text (.lit "fred"), .timeouts t]
    let r := Route.socks4User ⟨203, 0, 113, 7⟩ 9000 (.bytes (Text.utf8 (.lit "fred"))) (.timeouts t)
    let s : Stream := ⟨⟨0, none⟩, [0, 0x5d], [[9, 9, 9, 9, 9, 9, 0x48]], [], [⟨9999, none, none⟩], []⟩
    let out := r.connect (Session.start s)
    Route.WellTyped .socks4User settings ∧ Route.ofSettings .socks4User settings = .ok r ∧ r.timeouts = .ok t ∧
      0 < t.write.seconds ∧ 0 < t.read.seconds ∧ s.IsPrompt t ∧
      (∃ reason, out.1 = .error (.handshake (.rejected 4 0x5d reason))) ∧ out.2.stream.buffer = [0x48] ∧
      out.2.stream.written = [[4, 1, 0x23, 0x28, 203, 0, 113, 7, 0x66, 0x72, 0x65, 0x64, 0]] := by
  intro t settings r s out
  have hw : Route.WellTyped .socks4User settings := .socks4Text _ _ _ _
  have hr : Route.ofSettings .socks4User settings = .ok r := rfl
  have hpos : 0 < Duration.ten.seconds := by decide +kernel
  have hs : s.IsPrompt t := ⟨rfl, by decide, by decide +kernel⟩
  obtain ⟨a, p, u, h4, h⟩ := connect_socks4_verdict.1 hw (by decide) hr rfl hpos hpos
  have h4 : Route.IsSocks4 a p (.uniform .ten) u (.socks4User ⟨203, 0, 113, 7⟩ 9000 (.bytes [0x66, 0x72, 0x65, 0x64])
    (.timeouts (.uniform .ten))) := h4
  cases h4
  obtain ⟨h1, h2, h3, -⟩ := h s hs
  exact ⟨hw, hr, rfl, hpos, hpos, hs, ⟨_, h2⟩, h3, h1⟩

end SocksTunnel
