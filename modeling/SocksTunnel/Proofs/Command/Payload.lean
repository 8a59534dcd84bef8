import SocksTunnel.Proofs.Command.Run
import SocksTunnel.Proofs.Handshake.Heard

/-
  SocksTunnel.Proofs.Command.Payload — what a run writes and what it prints. The payload goes
  out behind the requests of the handshake, once the tunnel is there; its answer is one read,
  and nothing else is ever printed.

  Proved: an exchange that is answered is one write and one read behind the handshake
  (`trade_done`), and a run writes the start of its requests and the payload, prints only the
  answer to it, and takes that from the octets right behind the reply of the proxy
  (`run_payload`).
-/

namespace SocksTunnel.Command

open Script

variable {s : Settings} {r : Route} {t : Timeouts} {p : Plan}

/-! ## The exchange -/

/-- An exchange that is answered is a write and a read. -/
theorem trade_done {payload b : Bytes} {n : Network} (h : (trade t payload n).1 = .done b) :
    ∃ m, n.write (some t.write.milliseconds) payload = (.done (), m) ∧
      m.readSome (some t.read.milliseconds) Network.blockSize = (.done b, (trade t payload n).2) := by
  unfold trade at h ⊢
  by_cases hw : t.write.isZero = true
  · rw [if_pos hw] at h
    cases h
  rw [if_neg hw] at h ⊢
  rcases hn : n.write (some t.write.milliseconds) payload with ⟨o, m⟩
  rw [hn] at h
  cases o with
  | expired => cases h
  | failed e => cases h
  | done u =>
    dsimp only at h ⊢
    by_cases hr : t.read.isZero = true
    · rw [if_pos hr] at h
      cases h
    · rw [if_neg hr] at h ⊢
      exact ⟨m, rfl, Prod.ext h rfl⟩

/-- Whatever comes of an exchange, it writes the payload or nothing. -/
theorem trade_written (t : Timeouts) (payload : Bytes) (n : Network) :
    (trade t payload n).2.written = n.written ∨ (trade t payload n).2.written = n.written ++ [payload] := by
  unfold trade
  split
  · exact .inl rfl
  · right
    have hw := n.written_write (some t.write.milliseconds) payload
    generalize n.write (some t.write.milliseconds) payload = a at hw
    obtain ⟨o, m⟩ := a
    cases o with
    | expired => exact hw
    | failed e => exact hw
    | done u =>
      dsimp only
      split
      · exact hw
      · rw [Network.written_readSome]
        exact hw

/-- The code is 0 only for an answer, and there is no other output. -/
theorem answered_cases (c : Connection) (o : Outcome Bytes) :
    (∃ b, o = .done b ∧ answered c o = (.ok 0, b, c)) ∨
      (answered c o).1 ≠ .ok 0 ∧ (answered c o).2.1 = [] ∧ (answered c o).2.2.network = c.network := by
  cases o with
  | done b => exact .inl ⟨b, rfl, rfl⟩
  | expired => exact .inr ⟨by simp [answered, broken], rfl, rfl⟩
  | failed e =>
    right
    unfold answered broken
    dsimp only
    split
    · exact ⟨by simp, rfl, rfl⟩
    · split
      · exact ⟨by simp, rfl, rfl⟩
      · exact ⟨by simp, rfl, rfl⟩

/-! ## The connection -/

/-- How a run converses with the proxy: the handshake fails; it succeeds and there is no payload; or there is one,
which is exchanged over the network that the handshake leaves. -/
inductive Conversed (s : Settings) (r : Route) (t : Timeouts) (n : Network) :
    Except Failure Nat → Bytes → Network → Prop
  | failed {code : Except Failure Nat} : (r.connect (Session.start n)).1 ≠ .ok () → code ≠ .ok 0 →
      Conversed s r t n code [] (r.connect (Session.start n)).2.stream
  | quiet : (r.connect (Session.start n)).1 = .ok () → s.payload? = none →
      Conversed s r t n (.ok 0) [] (r.connect (Session.start n)).2.stream
  | answered {payload b : Bytes} : (r.connect (Session.start n)).1 = .ok () → s.payload? = some payload →
      (trade t payload (r.connect (Session.start n)).2.stream).1 = .done b →
      Conversed s r t n (.ok 0) b (trade t payload (r.connect (Session.start n)).2.stream).2
  | unanswered {payload : Bytes} {code : Except Failure Nat} : (r.connect (Session.start n)).1 = .ok () →
      s.payload? = some payload → code ≠ .ok 0 →
      Conversed s r t n code [] (trade t payload (r.connect (Session.start n)).2.stream).2

theorem Conversed.of_trade {n : Network} {payload : Bytes} (ho : (r.connect (Session.start n)).1 = .ok ())
    (hp : s.payload? = some payload) (es : List Entry) :
    let a := trade t payload (r.connect (Session.start n)).2.stream
    let c := Command.answered ⟨a.2, es⟩ a.1
    Conversed s r t n c.1 c.2.1 c.2.2.network := by
  intro a c
  rcases answered_cases ⟨a.2, es⟩ a.1 with ⟨b, hb, he⟩ | ⟨hcode, hout, hnet⟩
  · rw [show c = _ from he]
    exact .answered ho hp hb
  · rw [show c.2.1 = [] from hout, show c.2.2.network = a.2 from hnet]
    exact .unanswered ho hp hcode

theorem converse_conversed (hs : s.Prepared) (r : Route) (t : Timeouts) (n : Network) (es : List Entry) :
    let a := converse s r t ⟨n, es⟩
    Conversed s r t n a.1 a.2.1 a.2.2.network := by
  rw [converse_eq hs]
  dsimp only
  cases ho : (r.connect (Session.start n)).1 with
  | error f =>
    have hne : (r.connect (Session.start n)).1 ≠ .ok () := by rw [ho]; exact nofun
    cases f <;> exact .failed hne (by simp)
  | ok u =>
    unfold follow
    cases hp : s.payload? with
    | none => exact .quiet ho hp
    | some payload =>
      exact .of_trade ho hp _

section

variable {n m : Network} {code : Except Failure Nat} {output : Bytes}

/-- The start of the requests, or all of them and the payload. -/
theorem Conversed.written (h : Conversed s r t n code output m) {request : Bytes} (hr : r.request = .ok request)
    (hn : n.written = []) : m.written <+: r.offer.toList ++ [request] ∨
      ∃ b, s.payload? = some b ∧ b ≠ [] ∧ (r.connect (Session.start n)).1 = .ok () ∧
        m.written = r.offer.toList ++ [request] ++ [b] := by
  obtain ⟨messages, hm, hprefix, hall⟩ := r.connect_written hr n
  rw [hn, List.nil_append] at hm
  have htrade : ∀ b, s.payload? = some b → (r.connect (Session.start n)).1 = .ok () →
      let traded := trade t b (r.connect (Session.start n)).2.stream
      traded.2.written <+: r.offer.toList ++ [request] ∨
        ∃ b, s.payload? = some b ∧ b ≠ [] ∧ (r.connect (Session.start n)).1 = .ok () ∧
          traded.2.written = r.offer.toList ++ [request] ++ [b] := by
    intro b hb hok
    rcases trade_written t b (r.connect (Session.start n)).2.stream with hw | hw
    · exact .inl (by rw [hw, hm]; exact hprefix)
    · exact .inr ⟨b, hb, Settings.payload?_ne_nil hb, hok, by rw [hw, hm, hall hok]⟩
  cases h with
  | failed _ _ => exact .inl (hm ▸ hprefix)
  | quiet _ _ => exact .inl (hm ▸ hprefix)
  | answered hok hb _ => exact htrade _ hb hok
  | unanswered hok hb _ => exact htrade _ hb hok

/-- Something is printed only for a payload, in a run that returns 0. -/
theorem Conversed.printed (h : Conversed s r t n code output m) (ho : output ≠ []) :
    code = .ok 0 ∧ ∃ b, s.payload? = some b := by
  cases h with
  | failed _ _ => exact absurd rfl ho
  | quiet _ _ => exact absurd rfl ho
  | answered _ hb _ => exact ⟨rfl, _, hb⟩
  | unanswered _ _ _ => exact absurd rfl ho

/-- The answer to a payload is one read behind the reply of the proxy. -/
theorem Conversed.answer (h : Conversed s r t n (.ok 0) output m) {b : Bytes} (hb : s.payload? = some b) {x : Exchange}
    (hx : r.exchange = .ok x) (ht : r.timeouts = .ok t) (hn : n.reader.buffer = []) :
    let tunnel := r.connect (Session.start n)
    let heard := (r.connect (Session.start (Overheard.start n))).2.stream.heard
    tunnel.1 = .ok () ∧ ∃ reply sent, r.Grants reply ∧ heard = reply ++ tunnel.2.stream.reader.buffer ∧
      tunnel.2.stream.write (some t.write.milliseconds) b = (.done (), sent) ∧
      sent.readSome (some t.read.milliseconds) Network.blockSize = (.done output, m) ∧
      heard ++ tunnel.2.stream.arrived sent ++ sent.arrived m = reply ++ output ++ m.reader.buffer := by
  dsimp only
  cases h with
  | failed _ hcode => exact absurd rfl hcode
  | quiet _ hnone =>
    rw [hnone] at hb
    cases hb
  | unanswered _ _ hcode => exact absurd rfl hcode
  | @answered payload _ hok hpayload hdone =>
    obtain rfl := Option.some.inj (hpayload.symm.trans hb)
    obtain ⟨sent, hsend, hread⟩ := trade_done hdone
    obtain ⟨reply, hgrants, hheard⟩ := Route.connect_heard hx ht hn hok
    obtain ⟨hquiet, hkept⟩ := (r.connect (Session.start n)).2.stream.arrived_write t.write.milliseconds payload
    obtain ⟨hbalance, -⟩ := Network.arrived_readSome hread
    rw [hsend] at hquiet hkept
    refine ⟨hok, reply, sent, hgrants, hheard, hsend, hread, ?_⟩
    rw [hquiet, hheard, List.append_nil, ← hkept, List.append_assoc, hbalance, List.append_assoc]

end

/-! ## The run -/

theorem reached_fresh (t : Timeouts) (q : Endpoint) (p : Plan) :
    (reached t q p).written = [] ∧ (reached t q p).reader.buffer = [] := by
  rw [reached_eq]
  split <;> exact ⟨rfl, rfl⟩

/-- A run along a route ends before there is a connection, or as it converses with the proxy. -/
theorem run_conversed (hs : s.Prepared) (hr : route s = .ok r) (ht : r.timeouts = .ok t) (hp : p.FailsByIo) :
    let out := run s p
    (out.result ≠ .ok 0 ∧ out.output = [] ∧ out.connection.network.written = []) ∨
      ∃ m, Conversed s r t (reached t (proxy s) p) out.result out.output m ∧
        out.connection.network.written = m.written := by
  dsimp only
  cases hz : t.connect.isZero with
  | true =>
    rw [run_along hr ht, along_unstarted hz]
    exact .inl ⟨by simp, rfl, rfl⟩
  | false =>
    by_cases hf : p.connecting.fate t.connect.milliseconds = .done ()
    · obtain ⟨-, es, now, -, he⟩ := run_done hs hr ht hz hp hf
      have hc := converse_conversed hs r t (reached t (proxy s) p) [.connected (proxy s)]
      rw [he]
      refine .inr ⟨_, hc, ?_⟩
      dsimp only
      unfold Network.close
      split <;> rfl
    · rw [run_refused hr ht hz hp hf]
      exact .inl ⟨by simp, rfl, (reached_fresh t (proxy s) p).1⟩

/-- The payload leaves once the tunnel is there, and only its answer is printed. What a run writes is the start of the
requests of its route, or all of them and the payload behind them. It prints in a run that returns 0 and had a payload,
and then what one read returns behind the reply of the proxy: at most a block of what has arrived after the last octet of
that reply, and nothing only where the data ended with nothing left. -/
theorem run_payload {words : List Value} {log log' : Log} (hs : Settings.prepare words [] log = (.ok s, log'))
    (ht : s.get .timeouts = .timeouts t) (hp : p.FailsByIo) :
    let out := run s p
    let written := out.connection.network.written
    (∀ f, route s = .error f → written = [] ∧ out.output = []) ∧
    ∀ r, route s = .ok r → ∃ request, r.request = .ok request ∧
      let n := reached t (proxy s) p
      let tunnel := r.connect (Session.start n)
      let heard := (r.connect (Session.start (Overheard.start n))).2.stream.heard
      (written <+: r.offer.toList ++ [request] ∨
        ∃ b, s.payload? = some b ∧ b ≠ [] ∧ tunnel.1 = .ok () ∧ written = r.offer.toList ++ [request] ++ [b]) ∧
      (out.output ≠ [] → out.result = .ok 0 ∧ ∃ b, s.payload? = some b) ∧
      ∀ b, s.payload? = some b → out.result = .ok 0 → tunnel.1 = .ok () ∧ ∃ reply sent read,
        r.Grants reply ∧ heard = reply ++ tunnel.2.stream.reader.buffer ∧
          tunnel.2.stream.write (some t.write.milliseconds) b = (.done (), sent) ∧
          sent.readSome (some t.read.milliseconds) 65536 = (.done out.output, read) ∧
          heard ++ tunnel.2.stream.arrived sent ++ sent.arrived read = reply ++ out.output ++ read.reader.buffer ∧
          out.output.length ≤ 65536 ∧
          (out.output = [] → read.reader.isEnded = true ∧ read.reader.buffer = []) := by
  have hprep := Settings.prepare_prepared hs
  dsimp only
  refine ⟨fun f hr => ?_, fun r hr => ?_⟩
  · cases hf : f.isBadValue with
    | true =>
      rw [run_rejected hr hf]
      exact ⟨rfl, rfl⟩
    | false =>
      rw [run_raised hr hf]
      exact ⟨rfl, rfl⟩
  · obtain ⟨-, request, x, hrequest, hx⟩ := route_usable hprep hr
    have htr := route_timeouts hprep hr ht
    obtain ⟨hwritten, hbuffer⟩ := reached_fresh t (proxy s) p
    refine ⟨request, hrequest, ?_⟩
    rcases run_conversed hprep hr htr hp with ⟨hcode, hout, hw⟩ | ⟨m, hc, hw⟩
    · rw [hw]
      exact ⟨.inl List.nil_prefix, fun h => absurd hout h, fun b _ h => absurd h hcode⟩
    · rw [hw]
      refine ⟨hc.written hrequest hwritten, hc.printed, fun b hb hcode => ?_⟩
      rw [hcode] at hc
      obtain ⟨hok, reply, sent, hgrants, hheard, hsend, hread, hbalance⟩ := hc.answer hb hx htr hbuffer
      obtain ⟨-, hlength, hend⟩ := Network.arrived_readSome hread
      exact ⟨hok, reply, sent, m, hgrants, hheard, hsend, hread, hbalance, hlength, hend⟩

/-- The answer comes in one piece with the reply of the proxy. -/
theorem run_payload_in_one_piece :
    let words : List Value := ["--destination", "example.com", "--payload", "ping"].map fun w => .text (.lit w)
    let method : Chunk := ⟨some [5, 0], false, none, 0⟩
    let reply : Chunk := ⟨some ([5, 0, 0, 1, 0, 0, 0, 0, 0, 0] ++ [0x70, 0x6f]), false, none, 3⟩
    let p : Plan := ⟨.prompt, [], [], [[method], [reply]], .prompt⟩
    ∃ s log', Settings.prepare words [] .start = (.ok s, log') ∧ p.FailsByIo ∧ (run s p).output = [0x70, 0x6f] ∧
      (run s p).result = .ok 0 ∧ ∃ b, s.payload? = some b := by
  intro words method reply p
  have hp : p.FailsByIo := ⟨rfl, by decide, by decide, by decide, rfl⟩
  obtain ⟨s, log', hs, htest⟩ := Settings.exists_of_prepare words .start (fun s _ =>
    (route s).isOk && (run s p).output == [0x70, 0x6f]) (by decide +kernel)
  rw [Bool.and_eq_true, beq_iff_eq] at htest
  obtain ⟨hroute, hout⟩ := htest
  obtain ⟨t, ht⟩ := (Settings.prepare_prepared hs).timeouts
  cases hr : route s with
  | error f =>
    rw [hr] at hroute
    cases hroute
  | ok r =>
    obtain ⟨request, -, -, hprinted, -⟩ := (run_payload hs ht hp).2 r hr
    obtain ⟨hcode, hpayload⟩ := hprinted (by rw [hout]; exact List.cons_ne_nil _ _)
    exact ⟨s, log', hs, hp, hout, hcode, hpayload⟩

end SocksTunnel.Command
