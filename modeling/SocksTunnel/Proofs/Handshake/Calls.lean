import SocksTunnel.Route.Connect

/-
  SocksTunnel.Proofs.Handshake.Calls — the calls that a handshake makes to its stream, each
  with the way in which it ended. They are seen by a stream that passes every operation on
  to another one and writes it down.

  Proved: streams that end every operation alike give the same handshake (`run_agrees`,
  `connect_agrees`), and what every operation keeps the handshake keeps (`connect_keeps`). The
  calls of a run are those of its exchange (`run_goes`): one after the other as long as they
  succeed, none after one that fails, and a failure of the run is what its last call means
  (`Call.failure`).
-/

namespace SocksTunnel

/-! ## Streams that do the same -/

section Agreement

variable {α σ τ : Type} {R : σ → τ → Prop}

/-- The same result, and states that are related. -/
def SameEnd (R : σ → τ → Prop) (a : α × σ) (b : α × τ) : Prop :=
  ∃ o s u, a = (o, s) ∧ b = (o, u) ∧ R s u

theorem SameEnd.fst {a : α × σ} {b : α × τ} (h : SameEnd R a b) : a.1 = b.1 := by
  obtain ⟨o, s, u, rfl, rfl, -⟩ := h
  rfl

theorem SameEnd.snd {a : α × σ} {b : α × τ} (h : SameEnd R a b) : R a.2 b.2 := by
  obtain ⟨o, s, u, rfl, rfl, hr⟩ := h
  exact hr

/-- Sessions over related streams with the same counts and entries. -/
structure Session.Agrees (R : σ → τ → Prop) (s : Session σ) (u : Session τ) : Prop where
  stream : R s.stream u.stream
  sent : s.sent = u.sent
  received : s.received = u.received
  entries : s.entries = u.entries

theorem Session.Agrees.note {s : Session σ} {u : Session τ} (h : Agrees R s u) (e : Entry) :
    Agrees R (s.note e) (u.note e) :=
  ⟨h.stream, h.sent, h.received, congrArg (· ++ [e]) h.entries⟩

variable [Transport σ] [Transport τ]

/-- Related streams end every operation alike and stay related. -/
structure Bisimulates (R : σ → τ → Prop) : Prop where
  write : ∀ (limit : Time) (payload : Bytes) {s : σ} {u : τ}, R s u →
    SameEnd R (Transport.write limit payload s) (Transport.write limit payload u)
  read : ∀ (limit : Time) (n : Int) {s : σ} {u : τ}, R s u →
    SameEnd R (Transport.read limit n s) (Transport.read limit n u)

/-- The same of the operations that a handshake makes under its limits. -/
structure BisimulatesUnder (t : Timeouts) (R : σ → τ → Prop) : Prop where
  write : t.write.isZero = false → ∀ (payload : Bytes) {s : σ} {u : τ}, R s u →
    SameEnd R (Transport.write t.write.milliseconds payload s) (Transport.write t.write.milliseconds payload u)
  read : t.read.isZero = false → ∀ (n : Nat) {s : σ} {u : τ}, R s u →
    SameEnd R (Transport.read t.read.milliseconds (n : Int) s) (Transport.read t.read.milliseconds (n : Int) u)

theorem Bisimulates.under (hR : Bisimulates R) (t : Timeouts) : BisimulatesUnder t R :=
  ⟨fun _ payload _ _ h => hR.write _ payload h, fun _ n _ _ h => hR.read _ n h⟩

namespace Session

variable {t : Timeouts}

theorem write_agrees (hR : BisimulatesUnder t R) (payload : Bytes) {s : σ} {u : τ} (h : R s u) :
    SameEnd R (write t.write payload s) (write t.write payload u) := by
  unfold write
  split
  · exact ⟨_, _, _, rfl, rfl, h⟩
  · rename_i hz
    obtain ⟨o, s', u', hs, hu, h'⟩ := hR.write (Bool.eq_false_iff.mpr hz) payload h
    rw [hs, hu]
    cases o <;> exact ⟨_, _, _, rfl, rfl, h'⟩

theorem read_agrees (hR : BisimulatesUnder t R) (n : Nat) {s : σ} {u : τ} (h : R s u) :
    SameEnd R (read t.read n s) (read t.read n u) := by
  unfold read
  split
  · exact ⟨_, _, _, rfl, rfl, h⟩
  · rename_i hz
    obtain ⟨o, s', u', hs, hu, h'⟩ := hR.read (Bool.eq_false_iff.mpr hz) n h
    rw [hs, hu]
    cases o <;> exact ⟨_, _, _, rfl, rfl, h'⟩

theorem send_agrees (hR : BisimulatesUnder t R) (payload : Bytes) {s : Session σ} {u : Session τ} (h : Agrees R s u) :
    SameEnd (Agrees R) (s.send t.write payload) (u.send t.write payload) := by
  obtain ⟨o, s', u', hs, hu, h'⟩ := write_agrees hR payload h.stream
  unfold send
  rw [hs, hu]
  cases o with
  | error f => exact ⟨_, _, _, rfl, rfl, ⟨h', h.sent, h.received, h.entries⟩⟩
  | ok _ =>
    have hn : Agrees R { s with stream := s', sent := s.sent + payload.length }
        { u with stream := u', sent := u.sent + payload.length } :=
      ⟨h', congrArg (· + payload.length) h.sent, h.received, h.entries⟩
    exact ⟨_, _, _, rfl, rfl, hn.note _⟩

theorem receive_agrees (hR : BisimulatesUnder t R) (n : Nat) {s : Session σ} {u : Session τ} (h : Agrees R s u) :
    SameEnd (Agrees R) (s.receive t.read n) (u.receive t.read n) := by
  obtain ⟨o, s', u', hs, hu, h'⟩ := read_agrees hR n h.stream
  unfold receive
  rw [hs, hu]
  cases o with
  | error f => exact ⟨_, _, _, rfl, rfl, ⟨h', h.sent, h.received, h.entries⟩⟩
  | ok data =>
    have hn : Agrees R { s with stream := s', received := s.received + data.length }
        { u with stream := u', received := u.received + data.length } :=
      ⟨h', h.sent, congrArg (· + data.length) h.received, h.entries⟩
    exact ⟨_, _, _, rfl, rfl, hn.note _⟩

/-- Over related streams an exchange goes alike. -/
theorem run_agrees (hR : BisimulatesUnder t R) (x : Exchange) {s : Session σ} {u : Session τ}
    (h : Agrees R s u) : SameEnd (Agrees R) (run t x s) (run t x u) := by
  induction x generalizing s u with
  | done e => exact ⟨_, _, _, rfl, rfl, h.note e⟩
  | fail e f =>
    cases e with
    | none => exact ⟨_, _, _, rfl, rfl, h⟩
    | some e => exact ⟨_, _, _, rfl, rfl, h.note e⟩
  | send payload next ih =>
    obtain ⟨o, s', u', hs, hu, h'⟩ := send_agrees hR payload h
    simp only [run, hs, hu]
    cases o with
    | error f => exact ⟨_, _, _, rfl, rfl, h'⟩
    | ok _ => exact ih h'
  | receive n next ih =>
    obtain ⟨o, s', u', hs, hu, h'⟩ := receive_agrees hR n h
    simp only [run, hs, hu]
    cases o with
    | error f => exact ⟨_, _, _, rfl, rfl, h'⟩
    | ok data => exact ih data h'

end Session

theorem Route.connect_agrees_under (r : Route) (hR : ∀ t, r.timeouts = .ok t → BisimulatesUnder t R) {s : Session σ}
    {u : Session τ} (h : Session.Agrees R s u) : SameEnd (Session.Agrees R) (r.connect s) (r.connect u) := by
  unfold connect
  split
  · exact ⟨_, _, _, rfl, rfl, h⟩
  · cases ht : r.timeouts with
    | error f => exact ⟨_, _, _, rfl, rfl, h⟩
    | ok t => exact Session.run_agrees (hR t ht) _ h

theorem Route.connect_agrees (hR : Bisimulates R) (r : Route) {s : Session σ} {u : Session τ}
    (h : Session.Agrees R s u) : SameEnd (Session.Agrees R) (r.connect s) (r.connect u) :=
  r.connect_agrees_under (fun t _ => hR.under t) h

/-- What every operation of a handshake keeps, the handshake keeps. -/
theorem Route.connect_keeps (r : Route) {P : σ → Prop}
    (hw : ∀ t, r.timeouts = .ok t → t.write.isZero = false → ∀ (payload : Bytes) (s : σ), P s →
      P (Transport.write t.write.milliseconds payload s).2)
    (hr : ∀ t, r.timeouts = .ok t → t.read.isZero = false → ∀ (n : Nat) (s : σ), P s →
      P (Transport.read t.read.milliseconds (n : Int) s).2)
    {s : Session σ} (h : P s.stream) : P (r.connect s).2.stream := by
  have hR : ∀ t, r.timeouts = .ok t → BisimulatesUnder t fun (s u : σ) => s = u ∧ P s := by
    refine fun t ht => ⟨fun hz payload s u => ?_, fun hz n s u => ?_⟩
    · rintro ⟨rfl, hs⟩
      exact ⟨_, _, _, rfl, rfl, rfl, hw t ht hz payload s hs⟩
    · rintro ⟨rfl, hs⟩
      exact ⟨_, _, _, rfl, rfl, rfl, hr t ht hz n s hs⟩
  exact (r.connect_agrees_under hR (u := s) ⟨⟨rfl, h⟩, rfl, rfl, rfl⟩).snd.stream.2

end Agreement

/-! ## Calls -/

/-- One operation on a stream and how it ended. -/
inductive Call where
  | write (payload : Bytes) (ending : Outcome Unit)
  | read (n : Int) (ending : Outcome Bytes)
  deriving DecidableEq, Repr

namespace Call

/-- A write that succeeded. -/
def wrote (payload : Bytes) : Call := write payload (.done ())

/-- A read that returned as many octets as it was asked for. -/
def got (data : Bytes) : Call := read data.length (.done data)

/-- What a call means for a handshake, if it is not a success. -/
def failure (t : Timeouts) : Call → Option Failure
  | write _ (.done _) => none
  | write _ .expired => some (.handshake (.timeout .write t.write))
  | write _ (.failed e) => some (.ofPeer .write t.write e)
  | read n (.done data) =>
    if (data.length : Int) < n then some (.handshake (.endOfStream n data.length))
    else if n < data.length then some (.handshake (.malformed (.oversized n data.length)))
    else none
  | read _ .expired => some (.handshake (.timeout .read t.read))
  | read n (.failed e) => some (.ofRead t.read n e)

end Call

/-- A stream that keeps the calls made to it. -/
structure Observed (σ : Type) where
  stream : σ
  calls : List Call
  deriving Repr

namespace Observed

variable {σ : Type} [Transport σ]

def write (limit : Time) (payload : Bytes) (o : Observed σ) : Outcome Unit × Observed σ :=
  let (ending, s) := Transport.write limit payload o.stream
  (ending, ⟨s, o.calls ++ [.write payload ending]⟩)

def read (limit : Time) (n : Int) (o : Observed σ) : Outcome Bytes × Observed σ :=
  let (ending, s) := Transport.read limit n o.stream
  (ending, ⟨s, o.calls ++ [.read n ending]⟩)

instance : Transport (Observed σ) := ⟨write, read⟩

def start (s : σ) : Observed σ := ⟨s, []⟩

/-- Keeping the calls changes nothing. -/
theorem bisimulates : Bisimulates fun (o : Observed σ) (s : σ) => o.stream = s where
  write := by
    rintro limit payload o _ rfl
    exact ⟨_, _, _, rfl, rfl, rfl⟩
  read := by
    rintro limit n o _ rfl
    exact ⟨_, _, _, rfl, rfl, rfl⟩

end Observed

/-! ## The calls of an exchange -/

/-- How an exchange goes under these limits: the calls that it makes and its result. -/
inductive Exchange.Goes (t : Timeouts) : Exchange → List Call → Except Failure Unit → Prop
  | done {e} : Goes t (.done e) [] (.ok ())
  | fail {e f} : Goes t (.fail e f) [] (.error (.handshake f))
  | unstartedWrite {payload next} : t.write.isZero = true →
      Goes t (.send payload next) [] (.error (.handshake (.timeout .write t.write)))
  | unstartedRead {n next} : t.read.isZero = true →
      Goes t (.receive n next) [] (.error (.handshake (.timeout .read t.read)))
  | wrote {payload next calls out} : Goes t next calls out →
      Goes t (.send payload next) (.wrote payload :: calls) out
  | got {next calls out} (data : Bytes) : Goes t (next data) calls out →
      Goes t (.receive data.length next) (.got data :: calls) out
  | failedWrite {payload next ending f} : (Call.write payload ending).failure t = some f →
      Goes t (.send payload next) [.write payload ending] (.error f)
  | failedRead {n : Nat} {next f} {ending : Outcome Bytes} : (Call.read n ending).failure t = some f →
      Goes t (.receive n next) [.read n ending] (.error f)

namespace Session

variable {σ : Type} [Transport σ]

/-- A write either does not start, or is one call and means what that call means. -/
theorem send_observed (t : Timeouts) (payload : Bytes) (s : Session (Observed σ)) :
    (t.write.isZero = true ∧ (s.send t.write payload).1 = .error (.handshake (.timeout .write t.write)) ∧
        (s.send t.write payload).2.stream.calls = s.stream.calls) ∨
      ∃ ending, (s.send t.write payload).2.stream.calls = s.stream.calls ++ [.write payload ending] ∧
        ((s.send t.write payload).1 = .ok () ∧ ending = .done () ∨
          ∃ f, (s.send t.write payload).1 = .error f ∧ (Call.write payload ending).failure t = some f) := by
  by_cases hz : t.write.isZero = true
  · refine .inl ⟨hz, ?_⟩
    simp only [send, write, if_pos hz]
    exact ⟨rfl, trivial⟩
  · refine .inr ⟨(Transport.write t.write.milliseconds payload s.stream.stream).1, ?_⟩
    simp only [send, write, if_neg hz, Transport.write, Observed.write]
    generalize Transport.write t.write.milliseconds payload s.stream.stream = a
    obtain ⟨o, s'⟩ := a
    cases o with
    | done u => exact ⟨rfl, .inl ⟨rfl, rfl⟩⟩
    | expired => exact ⟨rfl, .inr ⟨_, rfl, rfl⟩⟩
    | failed e => exact ⟨rfl, .inr ⟨_, rfl, rfl⟩⟩

/-- A read either does not start, or is one call and means what that call means. -/
theorem receive_observed (t : Timeouts) (n : Nat) (s : Session (Observed σ)) :
    (t.read.isZero = true ∧ (s.receive t.read n).1 = .error (.handshake (.timeout .read t.read)) ∧
        (s.receive t.read n).2.stream.calls = s.stream.calls) ∨
      ∃ ending, (s.receive t.read n).2.stream.calls = s.stream.calls ++ [.read n ending] ∧
        ((∃ data, (s.receive t.read n).1 = .ok data ∧ ending = .done data ∧ data.length = n) ∨
          ∃ f, (s.receive t.read n).1 = .error f ∧ (Call.read n ending).failure t = some f) := by
  by_cases hz : t.read.isZero = true
  · refine .inl ⟨hz, ?_⟩
    simp only [receive, read, if_pos hz]
    exact ⟨rfl, trivial⟩
  · refine .inr ⟨(Transport.read t.read.milliseconds n s.stream.stream).1, ?_⟩
    simp only [receive, read, if_neg hz, Transport.read, Observed.read]
    generalize Transport.read t.read.milliseconds n s.stream.stream = a
    obtain ⟨o, s'⟩ := a
    cases o with
    | done data =>
      simp only [exactly, Call.failure]
      by_cases h1 : (data.length : Int) < n
      · rw [if_pos h1, if_pos h1]
        exact ⟨rfl, .inr ⟨_, rfl, rfl⟩⟩
      by_cases h2 : (n : Int) < data.length
      · rw [if_neg h1, if_pos h2, if_neg h1, if_pos h2]
        exact ⟨rfl, .inr ⟨_, rfl, rfl⟩⟩
      · rw [if_neg h1, if_neg h2]
        exact ⟨rfl, .inl ⟨data, rfl, rfl, by omega⟩⟩
    | expired => exact ⟨rfl, .inr ⟨_, rfl, rfl⟩⟩
    | failed e => exact ⟨rfl, .inr ⟨_, rfl, rfl⟩⟩

/-- The calls that a run makes, and its result, are those of its exchange. -/
theorem run_goes (t : Timeouts) (x : Exchange) (s : Session (Observed σ)) :
    ∃ calls, (run t x s).2.stream.calls = s.stream.calls ++ calls ∧ x.Goes t calls (run t x s).1 := by
  induction x generalizing s with
  | done e => exact ⟨[], (List.append_nil _).symm, .done⟩
  | fail e f => cases e <;> exact ⟨[], (List.append_nil _).symm, .fail⟩
  | send payload next ih =>
    have h := send_observed t payload s
    simp only [run]
    generalize s.send t.write payload = a at h
    obtain ⟨o, s'⟩ := a
    rcases h with ⟨hz, rfl, hc⟩ | ⟨ending, hc, ⟨rfl, rfl⟩ | ⟨f, rfl, hf⟩⟩
    · exact ⟨[], by rw [hc, List.append_nil], .unstartedWrite hz⟩
    · obtain ⟨calls, hcalls, hgoes⟩ := ih s'
      exact ⟨_, by rw [hcalls, hc, List.append_assoc]; rfl, .wrote hgoes⟩
    · exact ⟨_, hc, .failedWrite hf⟩
  | receive n next ih =>
    have h := receive_observed t n s
    simp only [run]
    generalize s.receive t.read n = a at h
    obtain ⟨o, s'⟩ := a
    rcases h with ⟨hz, rfl, hc⟩ | ⟨ending, hc, ⟨data, rfl, rfl, rfl⟩ | ⟨f, rfl, hf⟩⟩
    · exact ⟨[], by rw [hc, List.append_nil], .unstartedRead hz⟩
    · obtain ⟨calls, hcalls, hgoes⟩ := ih data s'
      exact ⟨_, by rw [hcalls, hc, List.append_assoc]; rfl, .got data hgoes⟩
    · exact ⟨_, hc, .failedRead hf⟩

end Session

/-- A handshake along a route fails before its first call, or goes as its exchange does. -/
theorem Route.connect_goes {σ : Type} [Transport σ] (r : Route) (s : Session (Observed σ)) :
    (∃ f, r.connect s = (.error (.fault f), s) ∧ (r.exchange = .error f ∨ r.timeouts = .error f)) ∨
      ∃ x t calls, r.exchange = .ok x ∧ r.timeouts = .ok t ∧
        (r.connect s).2.stream.calls = s.stream.calls ++ calls ∧ x.Goes t calls (r.connect s).1 := by
  unfold connect
  cases hx : r.exchange with
  | error f => exact .inl ⟨f, rfl, .inl rfl⟩
  | ok x =>
    cases ht : r.timeouts with
    | error f => exact .inl ⟨f, rfl, .inr rfl⟩
    | ok t =>
      obtain ⟨calls, hc, hg⟩ := Session.run_goes t x s
      exact .inr ⟨x, t, calls, rfl, rfl, hc, hg⟩

end SocksTunnel
