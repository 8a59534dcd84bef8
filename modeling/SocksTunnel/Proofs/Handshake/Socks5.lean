import SocksTunnel.Proofs.Script.Prompt
import SocksTunnel.Proofs.Socks.ReplyGrammar
import SocksTunnel.Route.Connect

/-
  SocksTunnel.Proofs.Handshake.Socks5 — SOCKS5 handshakes over streams on which nothing goes
  wrong. What the proxy says to the greeting is what the buffer holds at first and the
  first reply; what it says to the request is what the method left over and the second
  reply.

  Proved: the handshake ends by the first flaw of these two in one fixed order
  (`connect_socks5_verdict`). It succeeds exactly if the first starts with the choice of no
  authentication and the second with a reply that grants the tunnel, and then it has read
  that reply and nothing behind it (`connect_socks5_ok_iff`).
-/

namespace SocksTunnel

open Script Reply

/-- The verdict of a handshake along a SOCKS5 route, from what the proxy says to the greeting and what is
there after the request. The request is written only if the method is settled. -/
def Socks5Request.verdict (r : Socks5Request) (first second : Bytes) : Verdict :=
  match judgeMethod first with
  | some (e, left) => ⟨some e, left, [greeting [0]]⟩
  | none => ⟨(judge second).1, (judge second).2, [greeting [0], r.encode]⟩

/-- The verdict of reading alone. -/
def Verdict.reading (p : Option HandshakeError × Bytes) : Verdict := ⟨p.1, p.2, []⟩

namespace Exchange

/-! ## The exchange, from its end to its start -/

theorem ofCode?_eq_none {c : UInt8} (h : Socks5Status.ofCode? c = none) : 8 < c := by
  by_contra hc
  have hn : c.toNat < 9 := by
    have := UInt8.le_iff_toNat_le.mp (UInt8.not_lt.mp hc)
    simpa [Nat.lt_succ_iff] using this
  have hall : ∀ i : Fin 9, Socks5Status.ofCode? (UInt8.ofNat i) ≠ none := by decide
  exact hall ⟨c.toNat, hn⟩ (by simpa using h)

theorem verdict_ofStatus5 (r : Socks5Request) (c : UInt8) (bound : Option Destination) (q : Port) (buffer : Bytes)
    (replies : List Bytes) : (ofStatus5 r c bound q).verdict buffer replies = ⟨statusError c, buffer, []⟩ := by
  unfold ofStatus5
  cases hc : Socks5Status.ofCode? c with
  | none =>
    have h8 := ofCode?_eq_none hc
    have h0 : c ≠ 0 := by rintro rfl; exact absurd h8 (by decide)
    simp only [malformed, verdict, statusError, if_neg h0, if_neg (UInt8.not_le.mpr h8)]
  | some st =>
    obtain rfl := Socks5Status.ofCode?_eq_some hc
    cases st <;> rfl

theorem verdict_readPort (r : Socks5Request) (c : UInt8) (bound : Option Destination) (buffer : Bytes)
    (replies : List Bytes) :
    (readPort r c bound).verdict buffer replies =
      if buffer.length < 2 then ⟨some (.endOfStream 2 buffer.length), [], []⟩
      else ⟨statusError c, buffer.drop 2, []⟩ := by
  match buffer with
  | [] | [_] => rfl
  | p :: q :: rest =>
    have h : ¬ (p :: q :: rest).length < 2 := by simp only [List.length_cons]; omega
    rw [readPort, verdict, if_neg h, if_neg h]
    exact verdict_ofStatus5 ..

/-- An address whose octets are read and then put into a payload of its type. -/
theorem verdict_readPayload (r : Socks5Request) (c : UInt8) {t : AddressType} {n : Nat} {f : Bytes → Bytes}
    (hf : ∀ a : Bytes, a.length = n → IsAddress t.code (f a)) (buffer : Bytes) (replies : List Bytes) :
    (receive n fun a => afterAddress r c t (f a)).verdict buffer replies = .reading (judgeAddress c n buffer) := by
  rw [verdict, judgeAddress]
  split
  · rfl
  · rename_i hn
    obtain ⟨bound, hb⟩ := exists_boundAddress (hf _ (List.length_take_of_le (Nat.le_of_not_lt hn)))
    rw [afterAddress, hb]
    simp only [verdict_readPort, List.length_drop, List.drop_drop]
    by_cases h2 : buffer.length < n + 2
    · rw [if_pos (show buffer.length - n < 2 by omega), if_pos h2]
      rfl
    · rw [if_neg (show ¬ buffer.length - n < 2 by omega), if_neg h2]
      rfl

theorem verdict_readName (r : Socks5Request) (c n : UInt8) (buffer : Bytes) (replies : List Bytes) :
    (readName r c n).verdict buffer replies = .reading (judgeAddress c n.toNat buffer) := by
  rw [← verdict_readPayload r c (t := .domain) (fun a ha => IsAddress.name n ha) buffer replies]
  unfold readName
  by_cases hn : n = 0
  · -- nothing is read for an empty name, which is the same as reading no octets
    subst hn
    rfl
  · rw [if_neg hn]

theorem verdict_readAddress (r : Socks5Request) (c : UInt8) (t : AddressType) (buffer : Bytes) (replies : List Bytes) :
    (readAddress r c t).verdict buffer replies =
      .reading (match t, buffer with
        | .ipv4, b => judgeAddress c 4 b
        | .ipv6, b => judgeAddress c 16 b
        | .domain, [] => (some (.endOfStream 1 0), [])
        | .domain, n :: name => judgeAddress c n.toNat name) := by
  cases t with
  | ipv4 => exact verdict_readPayload r c (t := .ipv4) (fun _ ha => .ipv4 ha) buffer replies
  | ipv6 => exact verdict_readPayload r c (t := .ipv6) (fun _ ha => .ipv6 ha) buffer replies
  | domain =>
    cases buffer with
    | nil => rfl
    | cons n name => exact verdict_readName r c n name replies

theorem ofCode?_other {t : UInt8} (h1 : t ≠ 1) (h3 : t ≠ 3) (h4 : t ≠ 4) : AddressType.ofCode? t.toNat = none := by
  cases h : AddressType.ofCode? t.toNat with
  | none => rfl
  | some a =>
    have ht := AddressType.ofCode?_eq_some h
    cases a with
    | ipv4 => exact absurd ht h1
    | domain => exact absurd ht h3
    | ipv6 => exact absurd ht h4

theorem verdict_afterHeader (r : Socks5Request) (v c x t : UInt8) (buffer : Bytes) (replies : List Bytes) :
    (afterHeader r [v, c, x, t]).verdict buffer replies = .reading (judge (v :: c :: x :: t :: buffer)) := by
  rw [judge_cons, afterHeader, ReplyHeader.decode]
  by_cases hv : v = 5
  swap
  · rw [if_neg hv, if_pos hv]
    rfl
  rw [if_pos hv, if_neg (not_not_intro hv)]
  by_cases h1 : t = 1
  · subst h1
    exact verdict_readAddress r c .ipv4 buffer replies
  by_cases h4 : t = 4
  · subst h4
    exact verdict_readAddress r c .ipv6 buffer replies
  by_cases h3 : t = 3
  · subst h3
    refine (verdict_readAddress r c .domain buffer replies).trans ?_
    cases buffer <;> rfl
  · rw [ofCode?_other h1 h3 h4, if_neg h1, if_neg h4, if_neg h3]
    rfl

theorem verdict_request5 (r : Socks5Request) (buffer : Bytes) (replies : List Bytes) :
    (request5 r).verdict buffer replies = (Verdict.reading (judge (buffer ++ replies.headD []))).after r.encode := by
  rw [request5, verdict]
  congr 1
  rcases buffer ++ replies.headD [] with _ | ⟨v, _ | ⟨c, _ | ⟨x, _ | ⟨t, rest⟩⟩⟩⟩
  iterate 4 rfl
  have h : ¬ (v :: c :: x :: t :: rest).length < ReplyHeader.length := by
    simp only [List.length_cons, ReplyHeader.length]; omega
  rw [verdict, if_neg h]
  exact verdict_afterHeader r v c x t rest replies.tail

theorem afterMethod_noAuth (r : Socks5Request) : afterMethod r [5, 0] = request5 r := rfl

theorem afterMethod_other (r : Socks5Request) {m : UInt8} (hm : m ≠ 0) :
    afterMethod r [5, m] = fail (some (.unusableMethod m)) (.noMethod m (methodReason m.toNat)) := by
  have h : m ≠ AuthMethod.noAuth.code := hm
  simp only [afterMethod, MethodReply.decode, if_true, if_neg h]

theorem verdict_socks5 (r : Socks5Request) (buffer : Bytes) (replies : List Bytes) :
    (socks5 r).verdict buffer replies =
      r.verdict (buffer ++ replies.headD []) ((buffer ++ replies.headD []).drop 2 ++ replies.tail.headD []) := by
  rw [socks5, verdict, Socks5Request.verdict]
  rcases buffer ++ replies.headD [] with _ | ⟨v, _ | ⟨m, rest⟩⟩
  iterate 2 rfl
  have h : ¬ (v :: m :: rest).length < MethodReply.length := by
    simp only [List.length_cons, MethodReply.length]; omega
  rw [verdict, if_neg h, judgeMethod_cons]
  show ((afterMethod r [v, m]).verdict rest replies.tail).after _ = _
  by_cases hv : v = 5
  swap
  · rw [if_pos hv, afterMethod, MethodReply.decode, if_neg hv]
    rfl
  subst hv
  rw [if_neg (not_not_intro rfl)]
  by_cases hm : m = 0
  · subst hm
    rw [if_neg (not_not_intro rfl), afterMethod_noAuth, verdict_request5]
    rfl
  · rw [if_pos hm, afterMethod_other r hm]
    rfl

end Exchange

/-! ## The handshake -/

namespace Script.Stream

/-- What there is to read after the greeting. -/
def first (s : Stream) : Bytes := s.buffer ++ s.replies.getD 0 []

/-- What there is to read after the request. -/
def second (s : Stream) : Bytes := s.first.drop 2 ++ s.replies.getD 1 []

end Script.Stream

/-- The run of a handshake along a SOCKS5 route from the start. -/
theorem connect_socks5_run {t : Timeouts} (hw : 0 < t.write.seconds) (hr : 0 < t.read.seconds) (d : Destination)
    (p : Port) {s : Stream} (hs : s.IsPrompt t) :
    let out := (Route.socks5 d p (.timeouts t)).connect (Session.start s)
    let v := Socks5Request.verdict ⟨d, p⟩ s.first s.second
    out.1 = v.result ∧ out.2.stream.buffer = v.left ∧ out.2.stream.written = s.written ++ v.written := by
  have h := Session.run_prompt hw hr (.socks5 ⟨d, p⟩) (Session.start s) hs
  have h0 : s.replies.headD [] = s.replies.getD 0 [] := by cases s.replies <;> rfl
  have h1 : s.replies.tail.headD [] = s.replies.getD 1 [] := by
    match s.replies with
    | [] | [_] => rfl
    | _ :: _ :: _ => rfl
  rw [show (Session.start s).stream = s from rfl, Exchange.verdict_socks5, h0, h1] at h
  exact h

/-- Over a stream on which nothing goes wrong a SOCKS5 handshake ends by the first flaw of what there is
to read, in a fixed order. After another method than no authentication, which is a rejection of SOCKS5 with
the method as its code, the request is never written. The reserved octet, the bound address and the bound
port never count. -/
theorem connect_socks5_verdict (d : Destination) (p : Port) (t : Timeouts) (hw : 0 < t.write.seconds)
    (hr : 0 < t.read.seconds) (s : Stream) (hs : s.IsPrompt t) :
    let connect := fun s : Stream => (Route.socks5 d p (.timeouts t)).connect (Session.start s)
    let v := Socks5Request.verdict ⟨d, p⟩ s.first s.second
    (connect s).1 = v.result ∧ (connect s).2.stream.buffer = v.left ∧
      (connect s).2.stream.written = s.written ++ v.written ∧
      (∀ m rest, s.first = 5 :: m :: rest → m ≠ 0 →
        let e := HandshakeError.noMethod m (methodReason m.toNat)
        (connect s).1 = .error (.handshake e) ∧
          e.message = HandshakeError.rejection 5 m.toNat (methodReason m.toNat) ∧
          (connect s).2.stream.written = s.written ++ [greeting [0]]) ∧
      ∀ s' : Stream, s'.IsPrompt t → s'.first = s.first → Alike s'.second s.second → (connect s').1 = (connect s).1 := by
  intro connect v
  obtain ⟨h1, h2, h3⟩ := connect_socks5_run hw hr d p hs
  refine ⟨h1, h2, h3, fun m rest hf hm => ⟨?_, rfl, ?_⟩, fun s' hs' hf ha => ?_⟩
  · rw [show (connect s).1 = _ from h1, Socks5Request.verdict, hf, judgeMethod_cons, if_neg (not_not_intro rfl), if_pos hm]
    rfl
  · rw [show (connect s).2.stream.written = _ from h3, Socks5Request.verdict, hf, judgeMethod_cons,
      if_neg (not_not_intro rfl), if_pos hm]
  · obtain ⟨h1', -, -⟩ := connect_socks5_run hw hr d p hs'
    rw [show (connect s').1 = _ from h1', show (connect s).1 = _ from h1, hf]
    simp only [Socks5Request.verdict]
    split
    · rfl
    · simp only [Verdict.result, ha.judge_fst]

/-- The status of a rejection does not show when the name behind it is cut short. -/
theorem connect_socks5_cut_short :
    let t := Timeouts.uniform .ten
    let s : Stream := ⟨⟨0, none⟩, [5, 0, 5, 1], [[], [0, 3, 4, 0x61, 0x62]], [], [⟨9999, none, none⟩], []⟩
    let out := (Route.socks5 (.ipv4 .zero) 80 (.timeouts t)).connect (Session.start s)
    0 < t.write.seconds ∧ 0 < t.read.seconds ∧ s.IsPrompt t ∧
      out.1 = .error (.handshake (.endOfStream 4 2)) ∧ out.2.stream.buffer = [] := by
  intro t s out
  have hpos : 0 < Duration.ten.seconds := by decide +kernel
  have hs : s.IsPrompt t := ⟨rfl, by decide, by decide +kernel⟩
  obtain ⟨h1, h2, -⟩ := connect_socks5_verdict (.ipv4 .zero) 80 t hpos hpos s hs
  exact ⟨hpos, hpos, hs, h1, h2⟩

/-- Over a stream on which nothing goes wrong a SOCKS5 handshake succeeds exactly if the proxy chooses no
authentication and then sends a reply that grants the tunnel. It has then written the greeting and the
request, and read that reply to its last octet and not beyond. -/
theorem connect_socks5_ok_iff (d : Destination) (p : Port) (t : Timeouts) (hw : 0 < t.write.seconds)
    (hr : 0 < t.read.seconds) (s : Stream) (hs : s.IsPrompt t) :
    let r := Route.socks5 d p (.timeouts t)
    let out := r.connect (Session.start s)
    (out.1 = .ok () ↔ [5, 0] <+: s.first ∧ ∃ reply, reply <+: s.second ∧ IsReply 0 reply) ∧
      ∀ reply, [5, 0] <+: s.first → reply <+: s.second → IsReply 0 reply →
        out.2.stream.buffer = s.second.drop reply.length ∧
          ∃ offer request, r.offer = some offer ∧ r.request = .ok request ∧
            out.2.stream.written = s.written ++ [offer, request] := by
  intro r out
  obtain ⟨h1, h2, h3⟩ := connect_socks5_run hw hr d p hs
  constructor
  · rw [show out.1 = _ from h1, Verdict.result_eq_ok_iff, ← judgeMethod_eq_none_iff, ← judge_eq_none_iff]
    unfold Socks5Request.verdict
    cases judgeMethod s.first <;> simp
  · intro reply hf ⟨rest, hrest⟩ hreply
    have hm : judgeMethod s.first = none := judgeMethod_eq_none_iff.mpr hf
    have hj : judge s.second = (none, rest) := by rw [← hrest, judge_append hreply rest]; rfl
    refine ⟨?_, greeting [0], Socks5Request.encode ⟨d, p⟩, rfl, Route.request_socks5 d p _, ?_⟩
    · rw [show out.2.stream.buffer = _ from h2, Socks5Request.verdict, hm, hj, ← hrest, List.drop_left]
    · rw [show out.2.stream.written = _ from h3, Socks5Request.verdict, hm]

/-- A reply that comes in two pieces, with an empty name and data of the tunnel behind it. -/
theorem connect_socks5_ok_in_pieces :
    let t := Timeouts.uniform .ten
    let s : Stream := ⟨⟨0, none⟩, [5], [[0, 5], [0, 7, 3, 0, 0x1f, 0x90, 0x48]], [⟨250, none, none⟩], [], []⟩
    let out := (Route.socks5 (.ipv4 .zero) 80 (.timeouts t)).connect (Session.start s)
    0 < t.write.seconds ∧ 0 < t.read.seconds ∧ s.IsPrompt t ∧ out.1 = .ok () ∧ out.2.stream.buffer = [0x48] := by
  intro t s out
  have hpos : 0 < Duration.ten.seconds := by decide +kernel
  have hs : s.IsPrompt t := ⟨rfl, by decide +kernel, by decide⟩
  have hreply : IsReply 0 (5 :: 0 :: 7 :: 3 :: ([0] ++ [0x1f, 0x90])) := .mk 7 3 (.name 0 rfl) rfl
  have hfirst : [5, 0] <+: s.first := ⟨[5], rfl⟩
  have hsecond : 5 :: 0 :: 7 :: 3 :: ([0] ++ [0x1f, 0x90]) <+: s.second := ⟨[0x48], rfl⟩
  obtain ⟨hok, hleft⟩ := connect_socks5_ok_iff (.ipv4 .zero) 80 t hpos hpos s hs
  exact ⟨hpos, hpos, hs, hok.mpr ⟨hfirst, _, hsecond, hreply⟩, (hleft _ hfirst hsecond hreply).1⟩

end SocksTunnel
