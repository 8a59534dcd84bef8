import SocksTunnel.Failure.Draft
import SocksTunnel.Proofs.Failure.Chain
import SocksTunnel.Proofs.Handshake.Calls
import SocksTunnel.Proofs.Handshake.Drafts
import SocksTunnel.Script.Stream

/-
  SocksTunnel.Proofs.Handshake.Failures — how a handshake fails, over any stream at all. A call
  that is not a success ends the handshake and alone decides how; apart from the calls only
  what a reply says, or a limit of zero, can end it early, and both are errors of a handshake.

  Proved: what each call means (`Exchange.Goes.failure`), and that nothing else fails
  (`Exchange.Goes.closed`). Settings of the right types make a route whose handshake
  succeeds, fails as a handshake does, or ends by an error of the stream that is not one of
  input and output, which stays what it is (`connect_closed`).
-/

namespace SocksTunnel

/-! ## Calls that fail -/

namespace Call

def phase : Call → Phase
  | write _ _ => .write
  | read _ _ => .read

/-- Whether a call was cut off at its limit. -/
def isCutOff : Call → Bool
  | write _ .expired => true
  | read _ .expired => true
  | _ => false

/-- The error that a call ended with. -/
def raised : Call → Option PeerError
  | write _ (.failed e) => some e
  | read _ (.failed e) => some e
  | _ => none

/-- Errors that are part of a handshake: those of input and output, and the end of the data in a read. -/
def expects : Call → PeerError → Bool
  | read _ _, .incomplete _ _ => true
  | _, e => e.isIo

variable {t : Timeouts} {c : Call} {e : PeerError}

theorem failure_of_cutOff (h : c.isCutOff = true) :
    c.failure t = some (.handshake (.timeout c.phase (t.get c.phase))) := by
  unfold isCutOff at h
  split at h
  · rfl
  · rfl
  · cases h

/-- What an error means for a call that does not expect the end of the data. -/
theorem failure_of_raised (h : c.raised = some e) (he : ∀ n part k, c ≠ read n (.failed (.incomplete part k))) :
    c.failure t = some (.ofPeer c.phase (t.get c.phase) e) := by
  unfold raised at h
  split at h
  · cases h
    rfl
  · cases h
    cases e with
    | incomplete part k => exact absurd rfl (he _ part k)
    | _ => rfl
  · cases h

theorem failure_of_timeout (h : c.raised = some e) (ht : e.isTimeout = true) :
    c.failure t = some (.handshake (.timeout c.phase (t.get c.phase))) := by
  rw [failure_of_raised h, Failure.ofPeer, if_pos ht]
  · rfl
  · rintro n part k rfl
    cases h
    cases ht

theorem failure_of_io (h : c.raised = some e) (hi : e.isIo = true) (ht : e.isTimeout = false) :
    c.failure t = some (.handshake (.transport e)) := by
  rw [failure_of_raised h, Failure.ofPeer, ht, if_neg Bool.false_ne_true, if_pos hi]
  rintro n part k rfl
  cases h
  cases hi

theorem failure_of_unexpected (h : c.raised = some e) (hx : c.expects e = false) : c.failure t = some (.peer e) := by
  have he : ∀ n part k, c ≠ read n (.failed (.incomplete part k)) := by
    rintro n part k rfl
    cases h
    cases hx
  have hi : e.isIo = false := by
    unfold expects at hx
    split at hx
    · cases hx
    · exact hx
  have ht : e.isTimeout = false := by
    cases e with
    | io _ => cases hi
    | _ => rfl
  rw [failure_of_raised h he, Failure.ofPeer, ht, hi, if_neg Bool.false_ne_true, if_neg Bool.false_ne_true]

theorem failure_of_expected (h : c.raised = some e) (hx : c.expects e = true) :
    ∃ x, c.failure t = some (.handshake x) := by
  cases e with
  | io i =>
    by_cases ht : (PeerError.io i).isTimeout = true
    · exact ⟨_, failure_of_timeout h ht⟩
    · exact ⟨_, failure_of_io h rfl (Bool.eq_false_iff.mpr ht)⟩
  | incomplete part k =>
    cases c with
    | write payload ending => cases hx
    | read n ending =>
      cases ending with
      | failed e =>
        cases h
        exact ⟨_, rfl⟩
      | _ => cases h
  | _ => cases c <;> cases hx

/-- A call fails as a handshake does, or by an error that it does not expect. -/
theorem failure_cases {f : Failure} (h : c.failure t = some f) :
    (∃ x, f = .handshake x) ∨ ∃ e, c.raised = some e ∧ c.expects e = false ∧ f = .peer e := by
  cases hr : c.raised with
  | some e =>
    cases hx : c.expects e with
    | true =>
      obtain ⟨x, hf⟩ := failure_of_expected hr hx
      exact .inl ⟨x, Option.some.inj (h.symm.trans hf)⟩
    | false => exact .inr ⟨e, rfl, hx, Option.some.inj (h.symm.trans (failure_of_unexpected hr hx))⟩
  | none =>
    left
    cases c with
    | write payload ending =>
      cases ending with
      | done u => cases h
      | expired => exact ⟨_, (Option.some.inj h).symm⟩
      | failed e => cases hr
    | read n ending =>
      cases ending with
      | done data =>
        simp only [failure] at h
        split at h
        · exact ⟨_, (Option.some.inj h).symm⟩
        · split at h
          · exact ⟨_, (Option.some.inj h).symm⟩
          · cases h
      | expired => exact ⟨_, (Option.some.inj h).symm⟩
      | failed e => cases hr

/-- A call that does not fail raises nothing. -/
theorem raised_of_failure_eq_none (h : c.failure t = none) : c.raised = none := by
  cases hr : c.raised with
  | none => rfl
  | some e =>
    cases hx : c.expects e with
    | true =>
      obtain ⟨x, hf⟩ := failure_of_expected hr hx
      rw [hf] at h
      cases h
    | false =>
      rw [failure_of_unexpected hr hx] at h
      cases h

theorem failure_got (t : Timeouts) (data : Bytes) : (got data).failure t = none := by
  simp [got, failure]

end Call

namespace Exchange.Goes

variable {t : Timeouts} {x : Exchange} {calls : List Call} {out : Except Failure Unit}

/-- A call that is not a success decides the result. -/
theorem failure (h : x.Goes t calls out) {c : Call} (hc : c ∈ calls) {f : Failure} (hf : c.failure t = some f) :
    out = .error f := by
  induction h with
  | done | fail | unstartedWrite _ | unstartedRead _ => exact absurd hc List.not_mem_nil
  | wrote _ ih =>
    rcases List.mem_cons.mp hc with rfl | hc
    · cases hf
    · exact ih hc
  | got data _ ih =>
    rcases List.mem_cons.mp hc with rfl | hc
    · rw [Call.failure_got] at hf
      cases hf
    · exact ih hc
  | failedWrite h | failedRead h =>
    obtain rfl := List.mem_singleton.mp hc
    rw [Option.some.inj (h.symm.trans hf)]

/-- Nothing else fails but as a handshake does. -/
theorem closed (h : x.Goes t calls out) :
    out = .ok () ∨ (∃ e, out = .error (.handshake e)) ∨ ∃ c ∈ calls, ∃ f, c.failure t = some f ∧ out = .error f := by
  induction h with
  | done => exact .inl rfl
  | fail | unstartedWrite _ | unstartedRead _ => exact .inr (.inl ⟨_, rfl⟩)
  | wrote _ ih | got _ _ ih =>
    rcases ih with h | h | ⟨c, hc, hf⟩
    · exact .inl h
    · exact .inr (.inl h)
    · exact .inr (.inr ⟨c, List.mem_cons_of_mem _ hc, hf⟩)
  | failedWrite h | failedRead h => exact .inr (.inr ⟨_, List.mem_singleton_self _, _, h, rfl⟩)

end Exchange.Goes

/-! ## Settings of the right types -/

namespace Route

/-- Settings whose user and timeouts are of the right types. Address, destination and port are checked when
the route is made. -/
inductive WellTyped : Protocol → List Value → Prop
  | socks4 (address port : Value) (t : Timeouts) : WellTyped .socks4 [address, port, .timeouts t]
  | socks4Text (address port : Value) (name : Text) (t : Timeouts) :
      WellTyped .socks4User [address, port, .text name, .timeouts t]
  | socks4Broken (address port : Value) (name : BrokenText) (t : Timeouts) :
      WellTyped .socks4User [address, port, .broken name, .timeouts t]
  | socks4Bytes (address port : Value) (name : Bytes) (t : Timeouts) :
      WellTyped .socks4User [address, port, .bytes name, .timeouts t]
  | socks5 (destination port : Value) (t : Timeouts) : WellTyped .socks5 [destination, port, .timeouts t]

/-- A route with timeouts whose request can be written. -/
structure IsUsable (r : Route) : Prop where
  timeouts : ∃ t, r.timeouts = .ok t
  exchange : ∃ x, r.exchange = .ok x

theorem user_eq_ok {v u : Value} (h : user v = .ok u) : v.toBytes = .ok u := by
  obtain ⟨w, hw, h⟩ := Except.bind_eq_ok_iff.mp h
  obtain ⟨z, -, h⟩ := Except.bind_eq_ok_iff.mp h
  split at h
  · cases h
  · rw [hw, Except.ok.inj h]

/-- Broken text is no user. -/
theorem ofSettings_broken_ne_ok {address port t : Value} {name : BrokenText} {r : Route} :
    ofSettings .socks4User [address, port, .broken name, t] ≠ .ok r := by
  intro hr
  obtain ⟨a, -, hr⟩ := Except.bind_eq_ok_iff.mp hr
  obtain ⟨p, -, hr⟩ := Except.bind_eq_ok_iff.mp hr
  obtain ⟨u, hu, -⟩ := Except.bind_eq_ok_iff.mp hr
  cases hu

theorem isUsable_of_user {address port name : Value} {b : Bytes} {t : Timeouts} {r : Route} (hn : name.toBytes = .ok (.bytes b))
    (hr : ofSettings .socks4User [address, port, name, .timeouts t] = .ok r) : r.IsUsable := by
  obtain ⟨a, -, hr⟩ := Except.bind_eq_ok_iff.mp hr
  obtain ⟨p, -, hr⟩ := Except.bind_eq_ok_iff.mp hr
  obtain ⟨u, hu, hr⟩ := Except.bind_eq_ok_iff.mp hr
  obtain rfl := Except.ok.inj hr
  obtain rfl : .bytes b = u := Except.ok.inj (hn.symm.trans (user_eq_ok hu))
  exact ⟨⟨t, rfl⟩, _, by rw [exchange_socks4User, request_socks4User]; rfl⟩

theorem WellTyped.isUsable {p : Protocol} {settings : List Value} {r : Route} (hw : WellTyped p settings)
    (hr : ofSettings p settings = .ok r) : r.IsUsable := by
  cases hw with
  | socks4 address port t =>
    obtain ⟨a, -, hr⟩ := Except.bind_eq_ok_iff.mp hr
    obtain ⟨p, -, hr⟩ := Except.bind_eq_ok_iff.mp hr
    obtain rfl := Except.ok.inj hr
    exact ⟨⟨t, rfl⟩, _, by rw [exchange_socks4, request_socks4]; rfl⟩
  | socks4Text address port name t => exact isUsable_of_user (Value.toBytes_text name) hr
  | socks4Broken address port name t => exact absurd hr ofSettings_broken_ne_ok
  | socks4Bytes address port name t => exact isUsable_of_user (Value.toBytes_bytes name) hr
  | socks5 destination port t =>
    obtain ⟨d, -, hr⟩ := Except.bind_eq_ok_iff.mp hr
    obtain ⟨p, -, hr⟩ := Except.bind_eq_ok_iff.mp hr
    obtain rfl := Except.ok.inj hr
    exact ⟨⟨t, rfl⟩, _, rfl⟩

end Route

/-! ## Handshakes -/

/-- The handshake of settings of the right types is closed: over any stream it succeeds, fails as a handshake does,
or ends by an error of the stream that it does not expect. No draft of a message fails in another way. What each
call means is exact, and an error of the transport keeps the very error that it comes from. -/
theorem connect_closed {σ : Type} [Transport σ] {p : Protocol} {settings : List Value} {r : Route}
    (hw : Route.WellTyped p settings) (hr : Route.ofSettings p settings = .ok r) (s : σ) :
    let out := (r.connect (Session.start s)).1
    let calls := (r.connect (Session.start (Observed.start s))).2.stream.calls
    (r.connectDrafts.run (Session.start s)).1 = out ∧
      (out = .ok () ∨ (∃ x, out = .error (.handshake x)) ∨
        ∃ c ∈ calls, ∃ e, c.raised = some e ∧ c.expects e = false ∧ out = .error (.peer e)) ∧
      ∃ t, r.timeouts = .ok t ∧ ∀ c ∈ calls,
        (c.isCutOff = true → out = .error (.handshake (.timeout c.phase (t.get c.phase)))) ∧
        (∀ e, c.raised = some e → e.isTimeout = true →
          out = .error (.handshake (.timeout c.phase (t.get c.phase)))) ∧
        (∀ e, c.raised = some e → e.isIo = true → e.isTimeout = false →
          out = .error (.handshake (.transport e)) ∧ (HandshakeError.transport e).draft = .transport e true) ∧
        (∀ e, c.raised = some e → c.expects e = false → out = .error (.peer e)) ∧
        (∀ n part k, c = .read n (.failed (.incomplete part k)) →
          out = .error (.handshake (.endOfStream n part.length))) ∧
        ∀ n data, c = .read n (.done data) →
          ((data.length : Int) < n → out = .error (.handshake (.endOfStream n data.length))) ∧
          (n < data.length → out = .error (.handshake (.malformed (.oversized n data.length)))) := by
  intro out calls
  obtain ⟨⟨t, ht⟩, x, hx⟩ := hw.isUsable hr
  have hout : (r.connect (Session.start (Observed.start s))).1 = out :=
    (r.connect_agrees Observed.bisimulates ⟨rfl, rfl, rfl, rfl⟩).fst
  have hg : x.Goes t calls out := by
    rcases r.connect_goes (Session.start (Observed.start s)) with ⟨f, -, he | he⟩ | ⟨x', t', calls', hx', ht', hc, hg⟩
    · rw [hx] at he
      cases he
    · rw [ht] at he
      cases he
    · obtain rfl := Except.ok.inj (hx.symm.trans hx')
      obtain rfl := Except.ok.inj (ht.symm.trans ht')
      rw [← hout, show calls = calls' from hc]
      exact hg
  refine ⟨by rw [r.connectDrafts_eq], ?_, t, ht, fun c hc => ⟨?_, ?_, ?_, ?_, ?_, ?_⟩⟩
  · rcases hg.closed with h | h | ⟨c, hc, f, hf, h⟩
    · exact .inl h
    · exact .inr (.inl h)
    · rcases Call.failure_cases hf with ⟨x, rfl⟩ | ⟨e, hr, hx, rfl⟩
      · exact .inr (.inl ⟨x, h⟩)
      · exact .inr (.inr ⟨c, hc, e, hr, hx, h⟩)
  · exact fun h => hg.failure hc (Call.failure_of_cutOff h)
  · exact fun e h ht => hg.failure hc (Call.failure_of_timeout h ht)
  · exact fun e h hi ht => ⟨hg.failure hc (Call.failure_of_io h hi ht), rfl⟩
  · exact fun e h hx => hg.failure hc (Call.failure_of_unexpected h hx)
  · rintro n part k rfl
    exact hg.failure hc rfl
  · rintro n data rfl
    refine ⟨fun h => hg.failure hc (if_pos h), fun h => hg.failure hc ?_⟩
    rw [Call.failure, if_neg (by omega), if_pos h]

open Script in
/-- A connection that is reset while the proxy answers the request. -/
theorem connect_closed_reset :
    let e : PeerError := .io (.ofWords .connectionReset (.lit "reset by peer"))
    let settings : List Value := [.ipv4 .zero, .int 80, .timeouts (.uniform .ten)]
    let r := Route.socks5 (.ipv4 .zero) 80 (.timeouts (.uniform .ten))
    let s : Stream := ⟨⟨0, none⟩, [], [[5, 0]], [], [⟨0, none, none⟩, ⟨20, some e, none⟩], []⟩
    Route.WellTyped .socks5 settings ∧ Route.ofSettings .socks5 settings = .ok r ∧
      (r.connect (Session.start s)).1 = .error (.handshake (.transport e)) := by
  intro e settings r s
  have hw : Route.WellTyped .socks5 settings := .socks5 _ _ _
  have hr : Route.ofSettings .socks5 settings = .ok r := rfl
  obtain ⟨-, -, t, -, h⟩ := connect_closed hw hr s
  have hc : Call.read 4 (.failed e) ∈ (r.connect (Session.start (Observed.start s))).2.stream.calls := by
    decide +kernel
  exact ⟨hw, hr, ((h _ hc).2.2.1 e rfl rfl rfl).1⟩

end SocksTunnel
