import SocksTunnel.Proofs.Command.Addressing
import SocksTunnel.Proofs.Handshake.Entries
import SocksTunnel.Proofs.Script.Network

/-
  SocksTunnel.Proofs.Command.Run — how a run of the command ends over a network that fails by
  errors of input and output alone. A run is the attempt to connect, the handshake, the
  exchange of the payload if there is one, and the leave; each of them that fails says so
  once in the log and makes the code 1.

  Proved: what is done to the network while there is a connection depends on nothing but its
  operations (`converse_agrees`), and the code fits the errors in the log (`converse_settles`).
  A run returns 0 without an error or 1 with exactly one; it connects exactly if the
  destination can be addressed, closes once what it connected, and how closing goes changes
  nothing (`run_settles`). An empty list in the place of destination or port breaks this
  (`run_list`).
-/

namespace SocksTunnel

open Script

/-! ## Errors in the log -/

/-- The errors among entries. -/
def complaints (es : List Entry) : List Entry := es.filter Entry.isComplaint

theorem complaints_append (es fs : List Entry) : complaints (es ++ fs) = complaints es ++ complaints fs :=
  List.filter_append ..

theorem complaints_eq_nil {es : List Entry} (h : ∀ e ∈ es, e.level ≠ .error) : complaints es = [] := by
  refine List.filter_eq_nil_iff.mpr fun e he hc => h e he ?_
  exact e.level_eq_error_iff.mpr hc

/-- The errors that a log shows. -/
def Log.errors (l : Log) (es : List Entry) : List Entry := es.filter fun e => l.shows e.level && e.level == .error

/-- A log whose level is not above that of errors shows all of them. -/
theorem Log.errors_eq {l : Log} (hl : l.level.number ≤ Level.error.number) (es : List Entry) :
    l.errors es = complaints es := by
  refine List.filter_congr fun e _ => ?_
  rw [Bool.eq_iff_iff, ← e.level_eq_error_iff, Bool.and_eq_true, beq_iff_eq]
  refine ⟨And.right, fun he => ⟨?_, he⟩⟩
  rw [he]
  exact decide_eq_true hl

/-- A code of 0 and no error, or a code of 1 and one. -/
def Settles (code : Except Failure Nat) (es : List Entry) : Prop :=
  code = .ok 0 ∧ complaints es = [] ∨ code = .ok 1 ∧ ∃ e, complaints es = [e]

theorem Settles.code {r : Except Failure Nat} {es : List Entry} (h : Settles r es) : ∃ code, r = .ok code :=
  h.elim (fun h => ⟨0, h.1⟩) fun h => ⟨1, h.1⟩

theorem Settles.length_errors {l : Log} (hl : l.level.number ≤ Level.error.number) {code : Nat} {es : List Entry}
    (h : Settles (.ok code) es) : code = 0 ∧ (l.errors es).length = 0 ∨ code = 1 ∧ (l.errors es).length = 1 := by
  rw [Log.errors_eq hl]
  rcases h with ⟨⟨⟩, h⟩ | ⟨⟨⟩, e, h⟩
  · exact .inl ⟨rfl, by rw [h]; rfl⟩
  · exact .inr ⟨rfl, by rw [h]; rfl⟩

/-! ## Over the network -/

theorem Failure.ofPeer_of_isIo {e : PeerError} (h : e.isIo = true) (p : Phase) (limit : Duration) :
    ofPeer p limit e = .handshake (if e.isTimeout then .expired p limit else .transport e) := by
  unfold ofPeer
  rw [if_pos h]
  split <;> rfl

theorem Call.raised_write {payload : Bytes} {o : Outcome Unit} {e : PeerError} :
    (write payload o).raised = some e ↔ o = .failed e := by
  cases o <;> simp [raised]

theorem Call.raised_read {n : Int} {o : Outcome Bytes} {e : PeerError} :
    (read n o).raised = some e ↔ o = .failed e := by
  cases o <;> simp [raised]

namespace Observed

/-- The calls of a handshake over such a network end by errors that they expect. -/
structure Expects (o : Observed Network) : Prop where
  stream : o.stream.FailsByIo
  calls : ∀ c ∈ o.calls, ∀ e, c.raised = some e → c.expects e = true

variable {o : Observed Network}

theorem Expects.snoc (h : o.Expects) {n : Network} (hn : n.FailsByIo) {c : Call}
    (hc : ∀ e, c.raised = some e → c.expects e = true) : (⟨n, o.calls ++ [c]⟩ : Observed Network).Expects := by
  refine ⟨hn, fun d hd => ?_⟩
  rcases List.mem_append.mp hd with hd | hd
  · exact h.calls d hd
  · obtain rfl := List.mem_singleton.mp hd
    exact hc

theorem Expects.write (h : o.Expects) (limit : Time) (payload : Bytes) :
    (Observed.write limit payload o).2.Expects := by
  obtain ⟨hn, he⟩ := h.stream.write limit payload
  refine h.snoc hn fun e hr => ?_
  exact he e (Call.raised_write.mp hr)

theorem Expects.read (h : o.Expects) (limit : Time) (k : Nat) : (Observed.read limit (k : Int) o).2.Expects := by
  obtain ⟨hn, he⟩ := h.stream.readExactly limit k
  refine h.snoc hn fun e hr => ?_
  rcases he e (Call.raised_read.mp hr) with hi | ⟨part, rfl⟩
  · cases e with
    | io i => rfl
    | _ => cases hi
  · rfl

end Observed

/-- A handshake over such a network succeeds or fails as a handshake does. -/
theorem Route.connect_failsByIo {r : Route} {x : Exchange} {t : Timeouts} (hx : r.exchange = .ok x) (ht : r.timeouts = .ok t)
    {n : Network} (hn : n.FailsByIo) :
    (r.connect (Session.start n)).1 = .ok () ∨ ∃ e, (r.connect (Session.start n)).1 = .error (.handshake e) := by
  have hout : (r.connect (Session.start (Observed.start n))).1 = (r.connect (Session.start n)).1 :=
    (r.connect_agrees Observed.bisimulates ⟨rfl, rfl, rfl, rfl⟩).fst
  obtain ⟨calls, hc, hg⟩ := goes_of_usable hx ht (Session.start (Observed.start n))
  have hk : (r.connect (Session.start (Observed.start n))).2.stream.Expects :=
    r.connect_keeps (fun _ _ _ payload _ h => h.write _ payload) (fun _ _ _ k _ h => h.read _ k) ⟨hn, nofun⟩
  rw [hout] at hg
  rcases hg.closed with h | h | ⟨c, hmem, f, hf, h⟩
  · exact .inl h
  · exact .inr h
  · -- only a call that raises what it does not expect ends a handshake otherwise, and none does
    rcases Call.failure_cases hf with ⟨e, rfl⟩ | ⟨e, hr, he, -⟩
    · exact .inr ⟨e, h⟩
    · have hmem' : c ∈ (r.connect (Session.start (Observed.start n))).2.stream.calls := hc ▸ hmem
      rw [hk.calls c hmem' e hr] at he
      cases he

/-! ## The payload -/

/-- The payload, if there is one. -/
def Settings.payload? (s : Settings) : Option Bytes :=
  match s.get .payload with
  | .bytes b => if b.isEmpty then none else some b
  | _ => none

theorem Settings.payload?_ne_nil {s : Settings} {b : Bytes} (h : s.payload? = some b) : b ≠ [] := by
  unfold payload? at h
  split at h
  · split at h
    · cases h
    · rename_i c hc
      cases h
      rintro rfl
      exact hc rfl
  · cases h

namespace Connection

/-- Connections over related networks with the same entries. -/
structure Agrees (R : Network → Network → Prop) (c d : Connection) : Prop where
  network : R c.network d.network
  entries : c.entries = d.entries

theorem Agrees.note {R : Network → Network → Prop} {c d : Connection} (h : Agrees R c d) (e : Entry) :
    Agrees R (c.note e) (d.note e) :=
  ⟨h.network, congrArg (· ++ [e]) h.entries⟩

end Connection

namespace Command

variable {R : Network → Network → Prop} {s : Settings} {r : Route} {t : Timeouts}

/-- The same code and output, and connections that agree. -/
def SameReport (R : Network → Network → Prop) (a b : Except Failure Nat × Bytes × Connection) : Prop :=
  a.1 = b.1 ∧ a.2.1 = b.2.1 ∧ a.2.2.Agrees R b.2.2

/-- What the exchange of a payload does to the network: a write, and a read if that is done. -/
def trade (t : Timeouts) (payload : Bytes) (n : Network) : Outcome Bytes × Network :=
  if t.write.isZero then (.expired, n)
  else
    match n.write (some t.write.milliseconds) payload with
    | (.done _, n) =>
      if t.read.isZero then (.expired, n) else n.readSome (some t.read.milliseconds) Network.blockSize
    | (.expired, n) => (.expired, n)
    | (.failed e, n) => (.failed e, n)

/-- What the end of an exchange means. -/
def answered (c : Connection) : Outcome Bytes → Except Failure Nat × Bytes × Connection
  | .done b => (.ok 0, b, c)
  | o => ((broken c o).1, [], (broken c o).2)

theorem exchange_eq (t : Timeouts) (payload : Bytes) (c : Connection) :
    exchange t (.bytes payload) c =
      answered { c with network := (trade t payload c.network).2 } (trade t payload c.network).1 := by
  unfold exchange send limited trade
  by_cases hw : t.write.isZero = true
  · rw [if_pos hw, if_pos hw]
    rfl
  · rw [if_neg hw, if_neg hw]
    dsimp only [Connection.through]
    generalize c.network.write (some t.write.milliseconds) payload = a
    obtain ⟨o, n⟩ := a
    cases o with
    | expired => rfl
    | failed e => rfl
    | done u =>
      dsimp only
      by_cases hr : t.read.isZero = true
      · rw [if_pos hr, if_pos hr]
        rfl
      · rw [if_neg hr, if_neg hr]
        generalize n.readSome (some t.read.milliseconds) Network.blockSize = b
        obtain ⟨o, m⟩ := b
        cases o <;> rfl

theorem trade_agrees (hR : Network.Simulates R) (t : Timeouts) (payload : Bytes) {n m : Network} (h : R n m) :
    SameEnd R (trade t payload n) (trade t payload m) := by
  unfold trade
  split
  · exact ⟨_, _, _, rfl, rfl, h⟩
  · obtain ⟨o, n', m', hn, hm, h'⟩ := hR.write t.write.milliseconds payload h
    rw [hn, hm]
    cases o with
    | done u =>
      dsimp only
      split
      · exact ⟨_, _, _, rfl, rfl, h'⟩
      · exact hR.readSome t.read.milliseconds h'
    | expired => exact ⟨_, _, _, rfl, rfl, h'⟩
    | failed e => exact ⟨_, _, _, rfl, rfl, h'⟩

theorem trade_failsByIo {n : Network} (hn : n.FailsByIo) (t : Timeouts) (payload : Bytes) {e : PeerError}
    (he : (trade t payload n).1 = .failed e) : e.isIo = true := by
  unfold trade at he
  obtain ⟨hm, hw⟩ := hn.write t.write.milliseconds payload
  generalize n.write (some t.write.milliseconds) payload = a at hm hw he
  obtain ⟨o, m⟩ := a
  split at he
  · cases he
  cases o with
  | expired => cases he
  | failed e' =>
    cases he
    exact hw e rfl
  | done u =>
    dsimp only at he
    split at he
    · cases he
    · exact (hm.readSome t.read.milliseconds).2 e he

theorem answered_agrees {c d : Connection} (h : c.Agrees R d) (o : Outcome Bytes) :
    SameReport R (answered c o) (answered d o) := by
  unfold answered broken
  cases o with
  | done b => exact ⟨rfl, rfl, h⟩
  | expired => exact ⟨rfl, rfl, h.note _⟩
  | failed e =>
    dsimp only
    split
    · exact ⟨rfl, rfl, h.note _⟩
    · split
      · exact ⟨rfl, rfl, h.note _⟩
      · exact ⟨rfl, rfl, h⟩

theorem answered_settles {c : Connection} (hq : complaints c.entries = []) {o : Outcome Bytes}
    (ho : ∀ e, o = .failed e → e.isIo = true) : Settles (answered c o).1 (answered c o).2.2.entries := by
  have hone : ∀ e : Entry, e.isComplaint = true → Settles (.ok 1) (c.entries ++ [e]) := by
    intro e he
    exact .inr ⟨rfl, e, by rw [complaints_append, hq, complaints, List.filter_singleton, he]; rfl⟩
  unfold answered broken
  cases o with
  | done b => exact .inl ⟨rfl, hq⟩
  | expired => exact hone _ rfl
  | failed e =>
    dsimp only
    split
    · exact hone _ rfl
    · rw [if_pos (ho e rfl)]
      exact hone _ rfl

/-- What follows the handshake: the exchange if there is a payload, and nothing else. -/
def follow (s : Settings) (t : Timeouts) (c : Connection) : Except Failure Nat × Bytes × Connection :=
  match s.payload? with
  | some payload => answered { c with network := (trade t payload c.network).2 } (trade t payload c.network).1
  | none => (.ok 0, [], c)

theorem follow_eq (hs : s.Prepared) (t : Timeouts) (c : Connection) :
    (if (s.get .payload).isGiven then exchange t (s.get .payload) c else (.ok 0, [], c)) = follow s t c := by
  unfold follow Settings.payload?
  rcases hs.payload with h | h | ⟨b, h⟩
  · rw [h]
    rfl
  · rw [h]
    rfl
  · rw [h]
    cases b with
    | nil => rfl
    | cons o b =>
      rw [exchange_eq]
      rfl

theorem follow_agrees (hR : Network.Simulates R) (s : Settings) (t : Timeouts) {c d : Connection} (h : c.Agrees R d) :
    SameReport R (follow s t c) (follow s t d) := by
  unfold follow
  split
  · rename_i payload _
    obtain ⟨o, n, m, hn, hm, h'⟩ := trade_agrees hR t payload h.network
    have hd : Connection.Agrees R ⟨n, c.entries⟩ ⟨m, d.entries⟩ := ⟨h', h.entries⟩
    rw [hn, hm]
    exact answered_agrees hd o
  · exact ⟨rfl, rfl, h⟩

theorem follow_settles (s : Settings) (t : Timeouts) {c : Connection} (hn : c.network.FailsByIo)
    (hq : complaints c.entries = []) : Settles (follow s t c).1 (follow s t c).2.2.entries := by
  unfold follow
  split
  · rename_i payload _
    exact answered_settles (c := ⟨(trade t payload c.network).2, c.entries⟩) hq fun e he => trade_failsByIo hn t payload he
  · exact .inl ⟨rfl, hq⟩

/-! ## The connection -/

/-- While there is a connection: the handshake, and what follows it if it succeeds. -/
theorem converse_eq (hs : s.Prepared) (r : Route) (t : Timeouts) (c : Connection) :
    converse s r t c =
      let a := r.connect (Session.start c.network)
      let d : Connection := ⟨a.2.stream, c.entries ++ a.2.entries⟩
      match a.1 with
      | .error (.handshake e) => (.ok 1, [], d.note (.handshakeFailed (proxy s) e))
      | .error f => (.error f, [], d)
      | .ok _ => follow s t (d.note (.tunnelled (target s) (s.get .protocol) (proxy s))) := by
  unfold converse Connection.handshake
  generalize r.connect (Session.start c.network) = a
  obtain ⟨o, u⟩ := a
  cases o with
  | ok _ => exact follow_eq hs t _
  | error f => cases f <;> rfl

/-- Networks that no operation tells apart are treated alike. -/
theorem converse_agrees (hs : s.Prepared) (hR : Network.Simulates R) (r : Route) (t : Timeouts) {c d : Connection}
    (h : c.Agrees R d) : SameReport R (converse s r t c) (converse s r t d) := by
  rw [converse_eq hs, converse_eq hs]
  obtain ⟨o, u, v, hu, hv, h'⟩ := r.connect_agrees_under (fun t _ => hR.under t)
    (s := Session.start c.network) (u := Session.start d.network) ⟨h.network, rfl, rfl, rfl⟩
  have hd : Connection.Agrees R ⟨u.stream, c.entries ++ u.entries⟩ ⟨v.stream, d.entries ++ v.entries⟩ :=
    ⟨h'.stream, by rw [h.entries, h'.entries]⟩
  rw [hu, hv]
  dsimp only
  cases o with
  | ok _ => exact follow_agrees hR s t (hd.note _)
  | error f =>
    cases f with
    | handshake e => exact ⟨rfl, rfl, hd.note _⟩
    | _ => exact ⟨rfl, rfl, hd⟩

/-- What every operation keeps is kept while there is a connection. -/
theorem converse_keeps (hs : s.Prepared) {P : Network → Prop} (hP : Network.Steady P) (r : Route) (t : Timeouts)
    {c : Connection} (h : P c.network) : P (converse s r t c).2.2.network :=
  -- a network is related to itself as long as the condition holds of it
  (converse_agrees hs hP.simulates r t (d := c) ⟨⟨rfl, h⟩, rfl⟩).2.2.network.2

theorem converse_settles (hs : s.Prepared) {x : Exchange} {t' : Timeouts} (hx : r.exchange = .ok x) (ht : r.timeouts = .ok t')
    (t : Timeouts) {c : Connection} (hn : c.network.FailsByIo) (hq : complaints c.entries = []) :
    Settles (converse s r t c).1 (converse s r t c).2.2.entries := by
  have ha : complaints (c.entries ++ (r.connect (Session.start c.network)).2.entries) = [] := by
    rw [complaints_append, hq, List.nil_append]
    exact complaints_eq_nil fun e he => e.level_of_isOfHandshake (r.connect_entries _ e he)
  have hstream : (r.connect (Session.start c.network)).2.stream.FailsByIo :=
    r.connect_keeps (fun _ _ _ payload _ h => (h.write _ payload).1) (fun _ _ _ k _ h => (h.readExactly _ k).1) hn
  rw [converse_eq hs]
  dsimp only
  rcases Route.connect_failsByIo hx ht hn with ho | ⟨e, ho⟩
  · rw [ho]
    refine follow_settles s t hstream ?_
    show complaints (_ ++ [_]) = []
    rw [complaints_append, ha]
    rfl
  · rw [ho]
    refine .inr ⟨rfl, .handshakeFailed (proxy s) e, ?_⟩
    show complaints (_ ++ [_]) = _
    rw [complaints_append, ha]
    rfl

/-- Leaving closes the connection and changes neither code nor output; at most it notes why closing failed. -/
theorem conclude_eq {c : Connection} (h : c.network.plan.closing.FailsByIo) (code : Except Failure Nat) (output : Bytes) :
    ∃ es, complaints es = [] ∧ conclude code output c =
      ⟨code, output, { c.network.close with now := c.network.now + c.network.plan.closing.delay }, c.entries ++ es⟩ := by
  have hclose : c.network.close.plan = c.network.plan ∧ c.network.close.now = c.network.now := by
    unfold Network.close
    split <;> exact ⟨rfl, rfl⟩
  unfold conclude Connection.leave Connection.awaitClosed Connection.through Network.awaitClosed Connection.close
  dsimp only
  rw [Network.await_none, hclose.1, hclose.2]
  unfold Action.FailsByIo at h
  cases he : c.network.plan.closing.error with
  | none => exact ⟨[], rfl, by rw [List.append_nil]; rfl⟩
  | some e =>
    rw [he] at h
    refine ⟨[.closingFailed e], rfl, ?_⟩
    dsimp only [Outcome.result]
    rw [if_pos (show e.isIo = true from h)]
    rfl

variable {c : Connection}

/-- The connection once the proxy was reached. -/
theorem along_done (ht : t.connect.isZero = false)
    (hf : c.network.plan.connecting.fate t.connect.milliseconds = .done ()) (s : Settings) (r : Route) :
    along s r t c =
      let d : Connection :=
        ⟨(c.network.connect t.connect.milliseconds (proxy s)).2, c.entries ++ [.connected (proxy s)]⟩
      conclude (converse s r t d).1 (converse s r t d).2.1 (converse s r t d).2.2 := by
  unfold along Connection.enter Connection.through
  rw [ht, Network.connect_eq, hf]
  rfl

/-- Why the proxy was not reached. -/
def refusal (limit : Duration) : Outcome Unit → HandshakeError
  | .failed e => if e.isTimeout then .expired .connect limit else .transport e
  | _ => .expired .connect limit

/-- Without it the run ends, and says so. -/
theorem along_refused (ht : t.connect.isZero = false) (hio : c.network.plan.connecting.FailsByIo)
    (hf : c.network.plan.connecting.fate t.connect.milliseconds ≠ .done ()) (s : Settings) (r : Route) :
    along s r t c =
      let e := refusal t.connect (c.network.plan.connecting.fate t.connect.milliseconds)
      ⟨.ok 1, [], ⟨(c.network.connect t.connect.milliseconds (proxy s)).2, c.entries ++ [.unreachable (proxy s) e]⟩⟩ := by
  unfold along Connection.enter Connection.through
  rw [ht, Network.connect_eq]
  cases ho : c.network.plan.connecting.fate t.connect.milliseconds with
  | done u => exact absurd ho hf
  | expired => rfl
  | failed e =>
    dsimp only
    rw [Failure.ofPeer_of_isIo (hio.fate ho)]
    rfl

/-- Under a connect timeout of zero the run ends before it tries. -/
theorem along_unstarted (ht : t.connect.isZero = true) (s : Settings) (r : Route) (c : Connection) :
    along s r t c = ⟨.ok 1, [], c.note (.unreachable (proxy s) (.expired .connect t.connect))⟩ := by
  unfold along Connection.enter
  rw [if_pos ht]

/-! ## The run -/

variable {p : Plan}

theorem run_rejected {f : Fault} (h : route s = .error f) (hf : f.isBadValue = true) (p : Plan) :
    run s p = ⟨.ok 1, [], (Connection.start p).note (.invalidDestination (.fault f))⟩ := by
  rw [run, h]
  exact if_pos hf

theorem run_raised {f : Fault} (h : route s = .error f) (hf : f.isBadValue = false) (p : Plan) :
    run s p = ⟨.error (.fault f), [], .start p⟩ := by
  rw [run, h]
  exact if_neg (by rw [hf]; exact Bool.false_ne_true)

theorem run_along (h : route s = .ok r) (ht : r.timeouts = .ok t) (p : Plan) :
    run s p = along s r t (.start p) := by
  rw [run, h]
  dsimp only
  rw [ht]

/-- The network once the proxy was reached. -/
def reached (t : Timeouts) (proxy : Endpoint) (p : Plan) : Network :=
  ((Network.start p).connect t.connect.milliseconds proxy).2

theorem reached_eq (t : Timeouts) (q : Endpoint) (p : Plan) :
    let now := 0 + min p.connecting.delay t.connect.milliseconds
    reached t q p =
      if p.connecting.fate t.connect.milliseconds = .done () then
        ⟨p, now, Reader.empty.schedule now p.initial, [q], [], some false, 0⟩
      else ⟨p, now, .empty, [q], [], none, 0⟩ :=
  congrArg Prod.snd (Network.connect_eq t.connect.milliseconds q (.start p))

theorem reached_done {q : Endpoint} (hf : p.connecting.fate t.connect.milliseconds = .done ()) :
    (reached t q p).connects = [q] ∧ (reached t q p).isClosing = some false ∧ (reached t q p).closeCalls = 0 ∧
      (reached t q p).plan = p := by
  rw [reached_eq, if_pos hf]
  exact ⟨rfl, rfl, rfl, rfl⟩

theorem reached_refused {q : Endpoint} (hf : p.connecting.fate t.connect.milliseconds ≠ .done ()) :
    (reached t q p).connects = [q] ∧ (reached t q p).isClosing = none ∧ (reached t q p).closeCalls = 0 := by
  rw [reached_eq, if_neg hf]
  exact ⟨rfl, rfl, rfl⟩

theorem reached_withClosing (t : Timeouts) (q : Endpoint) (p : Plan) (a : Action) :
    reached t q { p with closing := a } = (reached t q p).withClosing a := by
  rw [reached_eq, reached_eq]
  by_cases hf : p.connecting.fate t.connect.milliseconds = .done ()
  · rw [if_pos hf, if_pos hf]
    rfl
  · rw [if_neg hf, if_neg hf]
    rfl

/-- A run that reached the proxy converses with it, and leaves. -/
theorem run_done (hs : s.Prepared) (hr : route s = .ok r) (ht : r.timeouts = .ok t) (hz : t.connect.isZero = false)
    (hp : p.FailsByIo) (hf : p.connecting.fate t.connect.milliseconds = .done ()) :
    let c := converse s r t ⟨reached t (proxy s) p, [.connected (proxy s)]⟩
    Network.SameLink (reached t (proxy s) p) c.2.2.network ∧
      ∃ es now, complaints es = [] ∧
        run s p = ⟨c.1, c.2.1, { c.2.2.network.close with now := now }, c.2.2.entries ++ es⟩ := by
  intro c
  have hlink : Network.SameLink (reached t (proxy s) p) c.2.2.network :=
    converse_keeps hs (Network.steady_sameLink _) r t (.refl _)
  have hclosing : c.2.2.network.plan.closing.FailsByIo := by
    rw [hlink.closing, (reached_done hf).2.2.2]
    exact hp.closing
  obtain ⟨es, hes, he⟩ := conclude_eq hclosing c.1 c.2.1
  exact ⟨hlink, es, _, hes, by rw [run_along hr ht, along_done hz hf]; exact he⟩

/-- A run that did not reach it says so. -/
theorem run_refused (hr : route s = .ok r) (ht : r.timeouts = .ok t) (hz : t.connect.isZero = false) (hp : p.FailsByIo)
    (hf : p.connecting.fate t.connect.milliseconds ≠ .done ()) :
    let e := refusal t.connect (p.connecting.fate t.connect.milliseconds)
    run s p = ⟨.ok 1, [], ⟨reached t (proxy s) p, [.unreachable (proxy s) e]⟩⟩ := by
  rw [run_along hr ht]
  exact along_refused hz hp.connecting hf s r

/-- A run along a route settles. It connects once, and closes once what it connected. -/
theorem run_route (hs : s.Prepared) (hr : route s = .ok r) (ht : r.timeouts = .ok t) (hz : t.connect.isZero = false)
    (hp : p.FailsByIo) :
    let out := run s p
    let n := out.connection.network
    Settles out.result out.connection.entries ∧ n.connects = [proxy s] ∧
      if p.connecting.fate t.connect.milliseconds = .done () then n.closeCalls = 1 ∧ n.isClosing = some true
      else out.result = .ok 1 ∧ n.closeCalls = 0 ∧ n.isClosing = none := by
  dsimp only
  by_cases hf : p.connecting.fate t.connect.milliseconds = .done ()
  · rw [if_pos hf]
    obtain ⟨hlink, es, now, hes, he⟩ := run_done hs hr ht hz hp hf
    obtain ⟨hconnects, hopen, hcalls, hplan⟩ := reached_done (q := proxy s) hf
    obtain ⟨-, request, x, -, hx⟩ := route_usable hs hr
    have hn : (reached t (proxy s) p).FailsByIo :=
      (Network.FailsByIo.start hp).connect hp.initial t.connect.milliseconds (proxy s)
    have hsettles := converse_settles hs hx ht t (c := ⟨reached t (proxy s) p, [.connected (proxy s)]⟩) hn rfl
    generalize converse s r t ⟨reached t (proxy s) p, [.connected (proxy s)]⟩ = a at hlink he hsettles
    have hclose : a.2.2.network.close =
        { a.2.2.network with isClosing := some true, closeCalls := a.2.2.network.closeCalls + 1 } := by
      rw [Network.close, if_pos (hlink.isClosing.trans hopen)]
    rw [he]
    dsimp only
    rw [hclose]
    refine ⟨?_, hlink.connects.trans hconnects, ?_, rfl⟩
    · unfold Settles at hsettles ⊢
      rwa [complaints_append, hes, List.append_nil]
    · show a.2.2.network.closeCalls + 1 = 1
      rw [hlink.closeCalls, hcalls]
  · rw [if_neg hf, run_refused hr ht hz hp hf]
    obtain ⟨hconnects, hopen, hcalls⟩ := reached_refused (q := proxy s) hf
    exact ⟨.inr ⟨rfl, _, rfl⟩, hconnects, rfl, hcalls, hopen⟩

/-- The timeouts of a route are those of the settings. -/
theorem route_timeouts (hs : s.Prepared) (hr : route s = .ok r) (ht : s.get .timeouts = .timeouts t) :
    r.timeouts = .ok t := by
  rw [Route.timeouts, (route_usable hs hr).1, ht]

/-- How closing goes changes neither code nor output nor the errors in the log. -/
theorem run_closing (hs : s.Prepared) (ht : s.get .timeouts = .timeouts t) (hz : t.connect.isZero = false) (hp : p.FailsByIo)
    {a : Action} (ha : a.FailsByIo) :
    let out := run s p
    let out' := run s { p with closing := a }
    out'.result = out.result ∧ out'.output = out.output ∧
      complaints out'.connection.entries = complaints out.connection.entries := by
  dsimp only
  have hp' : Plan.FailsByIo { p with closing := a } := ⟨hp.connecting, hp.initial, hp.drains, hp.replies, ha⟩
  cases hr : route s with
  | error f =>
    cases hf : f.isBadValue with
    | true =>
      rw [run_rejected hr hf, run_rejected hr hf]
      exact ⟨rfl, rfl, rfl⟩
    | false =>
      rw [run_raised hr hf, run_raised hr hf]
      exact ⟨rfl, rfl, rfl⟩
  | ok r =>
    have htr := route_timeouts hs hr ht
    by_cases hf : p.connecting.fate t.connect.milliseconds = .done ()
    · obtain ⟨-, es, now, hes, he⟩ := run_done hs hr htr hz hp hf
      obtain ⟨-, es', now', hes', he'⟩ := run_done hs hr htr hz hp' hf
      obtain ⟨hcode, hout, hc⟩ := converse_agrees hs (Network.simulates_withClosing a) r t
        (c := ⟨reached t (proxy s) p, [.connected (proxy s)]⟩)
        (d := ⟨reached t (proxy s) { p with closing := a }, [.connected (proxy s)]⟩) ⟨reached_withClosing .., rfl⟩
      rw [he, he']
      refine ⟨hcode.symm, hout.symm, ?_⟩
      dsimp only
      rw [complaints_append, complaints_append, hes, hes', hc.entries]
    · rw [run_refused hr htr hz hp hf, run_refused hr htr hz hp' hf]
      exact ⟨rfl, rfl, rfl⟩

/-- A run that raises has done nothing. -/
theorem run_raises (hs : s.Prepared) (ht : s.get .timeouts = .timeouts t) (hz : t.connect.isZero = false) (hp : p.FailsByIo)
    {f : Failure} (hf : (run s p).result = .error f) : (run s p).connection = .start p := by
  cases hr : route s with
  | error g =>
    cases hg : g.isBadValue with
    | true =>
      rw [run_rejected hr hg] at hf
      cases hf
    | false => rw [run_raised hr hg]
  | ok r =>
    obtain ⟨code, hcode⟩ := (run_route hs hr (route_timeouts hs hr ht) hz hp).1.code
    rw [hcode] at hf
    cases hf

/-- It raises for lists only. -/
theorem run_returns (hs : s.Prepared) (ht : s.get .timeouts = .timeouts t) (hz : t.connect.isZero = false) (hp : p.FailsByIo)
    (hd : s.get .destination ≠ .list []) (hport : s.get .destinationPort ≠ .list []) :
    ∃ code, (run s p).result = .ok code := by
  cases hr : route s with
  | error f =>
    rw [run_rejected hr (isBadValue_of_route hs hd hport hr)]
    exact ⟨1, rfl⟩
  | ok r => exact (run_route hs hr (route_timeouts hs hr ht) hz hp).1.code

/-- A run that returns settles, and connects exactly if the destination can be addressed. -/
theorem run_returned (hs : s.Prepared) (ht : s.get .timeouts = .timeouts t) (hz : t.connect.isZero = false) (hp : p.FailsByIo)
    {code : Nat} (hcode : (run s p).result = .ok code) :
    let c := (run s p).connection
    Settles (.ok code) c.entries ∧ (¬ s.Addressable → code = 1 ∧ c.network = .start p) ∧
      (s.Addressable → c.network.connects = [proxy s] ∧
        if p.connecting.fate t.connect.milliseconds = .done () then c.network.closeCalls = 1 ∧ c.network.isClosing = some true
        else code = 1 ∧ c.network.closeCalls = 0 ∧ c.network.isClosing = none) := by
  dsimp only
  have ha := addressable_iff hs
  cases hr : route s with
  | error f =>
    rw [hr] at ha
    have hno : ¬ s.Addressable := fun h => Bool.false_ne_true (ha.mp h)
    cases hg : f.isBadValue with
    | true =>
      rw [run_rejected hr hg] at hcode ⊢
      cases hcode
      exact ⟨.inr ⟨rfl, _, rfl⟩, fun _ => ⟨rfl, rfl⟩, fun h => absurd h hno⟩
    | false =>
      rw [run_raised hr hg] at hcode
      cases hcode
  | ok r =>
    rw [hr] at ha
    obtain ⟨hsettles, hconnects, hclosed⟩ := run_route hs hr (route_timeouts hs hr ht) hz hp
    rw [hcode] at hsettles hclosed
    refine ⟨hsettles, fun h => absurd (ha.mpr rfl) h, fun _ => ⟨hconnects, ?_⟩⟩
    simpa only [Except.ok.injEq] using hclosed

/-- A run of the command settles: unless destination or port is a list it returns 0 and leaves no error in the log, or
returns 1 and leaves one. -/
theorem run_settles {words : List Value} {log log' : Log} (hs : Settings.prepare words [] log = (.ok s, log'))
    (hl : log'.level.number ≤ Level.error.number) (ht : s.get .timeouts = .timeouts t) (hpos : 0 < t.connect.seconds)
    (hp : p.FailsByIo) :
    let out := run s p
    let errors := log'.errors out.connection.entries
    let n := out.connection.network
    (s.get .destination ≠ .list [] → s.get .destinationPort ≠ .list [] → ∃ code, out.result = .ok code) ∧
    (∀ f, out.result = .error f → out.connection = .start p) ∧
    (∀ code, out.result = .ok code →
      (code = 0 ∧ errors.length = 0 ∨ code = 1 ∧ errors.length = 1) ∧
      (¬ s.Addressable → code = 1 ∧ n = .start p) ∧
      (s.Addressable → n.connects = [proxy s] ∧
        if p.connecting.fate t.connect.milliseconds = .done () then n.closeCalls = 1 ∧ n.isClosing = some true
        else code = 1 ∧ n.closeCalls = 0 ∧ n.isClosing = none)) ∧
    ∀ a : Action, a.FailsByIo →
      let out' := run s { p with closing := a }
      out'.result = out.result ∧ out'.output = out.output ∧ log'.errors out'.connection.entries = errors := by
  have hprep := Settings.prepare_prepared hs
  have hz := Duration.isZero_eq_false_of_pos hpos
  dsimp only
  refine ⟨run_returns hprep ht hz hp, fun f hf => run_raises hprep ht hz hp hf, fun code hcode => ?_, fun a ha => ?_⟩
  · obtain ⟨hsettles, hno, hyes⟩ := run_returned hprep ht hz hp hcode
    exact ⟨hsettles.length_errors hl, hno, hyes⟩
  · obtain ⟨hcode, hout, hc⟩ := run_closing hprep ht hz hp ha
    exact ⟨hcode, hout, by rw [Log.errors_eq hl, Log.errors_eq hl, hc]⟩

/-- The proxy grants the request, answers the payload, and resets the connection while it is closed. -/
theorem run_settles_reset :
    let words : List Value := ["--destination", "192.0.2.1", "--protocol", "socks4", "--payload", "ping"].map fun w => .text (.lit w)
    let reset : PeerError := .io (.ofWords .connectionReset [])
    let granted : Chunk := ⟨some [0, 0x5a, 0, 0, 0, 0, 0, 0], false, none, 0⟩
    let answer : Chunk := ⟨some [0x70, 0x6f, 0x6e, 0x67], false, none, 5⟩
    let p : Plan := ⟨.prompt, [], [], [[granted], [answer]], ⟨0, some reset, none⟩⟩
    ∃ s log', Settings.prepare words [] .start = (.ok s, log') ∧ (run s p).result = .ok 0 ∧
      (log'.errors (run s p).connection.entries).length = 0 ∧ (run s p).connection.network.closeCalls = 1 := by
  intro words reset granted answer p
  have hp : p.FailsByIo := ⟨rfl, by decide, by decide, by decide, rfl⟩
  obtain ⟨s, log', hs, htest⟩ := Settings.exists_of_prepare words .start (fun s log' =>
    decide (log'.level.number ≤ Level.error.number) && (route s).isOk && (run s p).result.toOption == some 0 &&
      s.timeouts?.any fun t : Timeouts => decide (0 < t.connect.seconds ∧ p.connecting.fate t.connect.milliseconds = .done ()))
    (by decide +kernel)
  simp only [Bool.and_eq_true, decide_eq_true_eq, beq_iff_eq] at htest
  obtain ⟨⟨⟨hl, hroute⟩, hcode⟩, htest⟩ := htest
  obtain ⟨t, ht⟩ := (Settings.prepare_prepared hs).timeouts
  rw [Settings.timeouts?_eq ht, Option.any_some, decide_eq_true_eq] at htest
  have hresult : (run s p).result = .ok 0 := by
    cases hr : (run s p).result with
    | error f =>
      rw [hr] at hcode
      cases hcode
    | ok code =>
      rw [hr] at hcode
      rw [Option.some.inj hcode]
  obtain ⟨-, -, hsettled, -⟩ := run_settles hs hl ht htest.1 hp
  obtain ⟨hcount, -, hopen⟩ := hsettled 0 hresult
  obtain ⟨-, hclosed⟩ := hopen ((addressable_iff (Settings.prepare_prepared hs)).mpr hroute)
  rw [if_pos htest.2] at hclosed
  exact ⟨s, log', hs, hresult, (hcount.resolve_right fun h => absurd h.1 (by decide)).2, hclosed.1⟩

/-- An empty list is no text, and SOCKS5 asks for text: the run raises instead, and says nothing. -/
theorem run_list (h : s.get .destination = .list []) (hprotocol : protocolOf (s.get .protocol) = .socks5) (p : Plan) :
    run s p = ⟨.error (.fault .noSuchPart), [], .start p⟩ := by
  have hr : route s = .error .noSuchPart := by
    rw [route_eq (by rw [h]; exact nofun), h, hprotocol]
    rfl
  exact run_raised hr rfl p

end Command

end SocksTunnel
