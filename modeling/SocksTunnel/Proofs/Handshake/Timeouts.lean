import SocksTunnel.Proofs.Handshake.Course
import SocksTunnel.Proofs.Script.Timing

/-
  SocksTunnel.Proofs.Handshake.Timeouts — the timeouts of a handshake. Every write and every
  read has the whole of its limit, whatever the operations before it took.

  Proved: a handshake times out at an operation exactly if it came that far and the operation
  times out by itself, by the action of its own and its own limit. What a
  handshake takes is what its operations take, each at most its limit, and how long they
  take within their limits changes nothing else (`connect_timeouts`).
-/

namespace SocksTunnel

open Script

/-! ## How many operations there are -/

@[simp] theorem Call.phase_wrote (payload : Bytes) : (wrote payload).phase = .write := rfl

@[simp] theorem Call.phase_got (data : Bytes) : (got data).phase = .read := rfl

theorem Call.Attempts.phase {c d : Call} (h : c.Attempts d) : c.phase = d.phase := by
  cases h <;> rfl

theorem Starts.count_le {calls trace : List Call} (h : Starts calls trace) (p : Phase) :
    Call.count p calls ≤ Call.count p trace := by
  induction h with
  | nil => exact Nat.zero_le _
  | last h =>
    rw [Call.count, Call.count, List.countP_cons, List.countP_cons, h.phase]
    exact Nat.add_le_add_right (Nat.zero_le _) _
  | cons _ _ ih =>
    rw [Call.count, Call.count, List.countP_cons, List.countP_cons]
    exact Nat.add_le_add_right ih _

/-- How many writes there are at most in a handshake. -/
def Protocol.writes : Protocol → Nat
  | socks5 => 2
  | _ => 1

/-- How many reads there are at most in a handshake. -/
def Protocol.reads : Protocol → Nat
  | socks5 => 5
  | _ => 1

theorem AddressCalls.count_le {type : UInt8} {calls : List Call} (h : AddressCalls type calls) :
    Call.count .write calls = 0 ∧ Call.count .read calls ≤ 2 := by
  cases h with
  | ipv4 _ | ipv6 _ | empty => exact ⟨rfl, Nat.le_succ 1⟩
  | name _ _ => exact ⟨rfl, Nat.le_refl 2⟩

theorem Trace.count_le {r : Route} {request : Bytes} {trace : List Call} (h : Trace r.offer request trace) :
    Call.count .write trace ≤ r.protocol.writes ∧ Call.count .read trace ≤ r.protocol.reads := by
  cases r with
  | socks4 a p t | socks4User a p u t =>
    cases h with
    | socks4 _ => exact ⟨Nat.le_refl 1, Nat.le_refl 1⟩
  | socks5 d p t =>
    cases h with
    | socks5 hreply =>
      obtain ⟨status, reserved, ha, hp⟩ := hreply
      obtain ⟨hw, hr⟩ := ha.count_le
      simp only [Call.count, List.countP_cons, List.countP_append, List.countP_nil] at hw hr ⊢
      simp only [Call.phase_wrote, Call.phase_got, beq_self_eq_true, if_true, reduceCtorEq, beq_iff_eq, if_false,
        Protocol.writes, Protocol.reads, Route.protocol]
      omega

theorem Route.connect_count {r : Route} {request : Bytes} (hr : r.request = .ok request) {σ : Type} [Transport σ] (s : σ) :
    let calls := (r.connect (Session.start (Observed.start s))).2.stream.calls
    Call.count .write calls ≤ r.protocol.writes ∧ Call.count .read calls ≤ r.protocol.reads := by
  intro calls
  obtain ⟨trace, ht, hs, -⟩ := r.connect_starts s hr
  obtain ⟨hw, hr⟩ := ht.count_le
  exact ⟨(hs.count_le .write).trans hw, (hs.count_le .read).trans hr⟩

namespace Script.Stream

theorem spent_le {s : Stream} {limit : Time} {p : Phase} {k m : Nat} (hl : 0 ≤ limit) (hk : k ≤ m) :
    s.spent limit p k ≤ m * limit := by
  have h : s.spent limit p k ≤ ∑ _i ∈ Finset.range k, limit := Finset.sum_le_sum fun i _ => min_le_right _ _
  refine h.trans ?_
  rw [Finset.sum_const, Finset.card_range, nsmul_eq_mul]
  exact mul_le_mul_of_nonneg_right (Nat.cast_le.mpr hk) hl

theorem elapsed_le {s : Stream} {t : Timeouts} {calls : List Call} {m n : Nat} (hw : Call.count .write calls ≤ m)
    (hr : Call.count .read calls ≤ n) : s.elapsed t calls ≤ m * t.write.milliseconds + n * t.read.milliseconds :=
  add_le_add (spent_le t.write.milliseconds_nonneg hw) (spent_le t.read.milliseconds_nonneg hr)

end Script.Stream

/-! ## Where a handshake times out -/

/-- How many of the calls completed and were accepted. -/
def Call.accepted (t : Timeouts) (calls : List Call) : Nat := calls.countP fun c => (c.failure t).isNone

theorem Exchange.Comes.accepted {t : Timeouts} {x rest : Exchange} {done : List Call} (h : x.Comes done rest) :
    Call.accepted t done = done.length := by
  rw [Call.accepted, List.countP_eq_length]
  intro c hc
  rw [h.failure hc, Option.isNone_none]

theorem Call.accepted_snoc {t : Timeouts} {calls : List Call} {c : Call} {f : Failure} (hf : c.failure t = some f) :
    accepted t (calls ++ [c]) = accepted t calls := by
  rw [accepted, List.countP_append, List.countP_singleton, hf, Option.isNone_some, if_neg Bool.false_ne_true, Nat.add_zero,
    accepted]

theorem Script.Stream.mem_action {s : Stream} (before : List Call) (p : Phase) :
    s.action before p ∈ s.script p ∨ s.action before p = .prompt := by
  rw [action, List.getD_eq_getElem?_getD]
  cases h : (s.script p)[Call.count p before]? with
  | none => exact .inr rfl
  | some a => exact .inl (List.mem_of_getElem? h)

theorem Script.Action.not_timesOut_prompt {limit : Duration} (h : 0 < limit.seconds) : ¬ prompt.TimesOut limit := by
  rintro (hl | hl | ⟨-, he⟩)
  · exact not_lt.mpr hl h
  · exact not_lt.mpr limit.milliseconds_nonneg hl
  · cases he

namespace Exchange.Goes

variable {t : Timeouts} {x : Exchange} {calls : List Call} {out : Except Failure Unit} {s : Stream} {o : Observed Stream}
  {p : Phase} {limit : Duration}

/-- A run that times out came to an operation that times out by itself. -/
theorem of_timeout (h : x.Goes t o.calls (.error (.handshake (.timeout p limit)))) (ho : s.Played t o)
    (hx : ∀ done e f, x.Comes done (.fail e f) → f.isTimeout = false) :
    ∃ done rest, x.Comes done rest ∧ done <+: o.calls ∧ done.length = Call.accepted t o.calls ∧ rest.phase? = some p ∧
      limit = t.get p ∧ (s.action done p).TimesOut limit := by
  obtain ⟨done, rest, last, hc, hl, he⟩ := h.course
  cases he with
  | fail => exact absurd (hx _ _ _ hc) nofun
  | unstarted hp hz =>
    rw [List.append_nil] at hl
    rw [hl]
    exact ⟨done, rest, hc, List.prefix_rfl, hc.accepted.symm, hp, rfl, .inl ((Duration.isZero_iff _).mp hz)⟩
  | @failed _ c _ hp hf =>
    obtain ⟨hz, hfollows⟩ := ho.follows done c [] hl
    obtain ⟨hto, rfl, rfl⟩ := (hfollows.failure_eq_timeout_iff hz).mp hf
    refine ⟨done, rest, hc, ⟨[c], hl.symm⟩, ?_, hp, rfl, hto⟩
    rw [hl, Call.accepted_snoc hf, hc.accepted]

/-- A run that comes to an operation that times out by itself times out there. -/
theorem timeout (h : x.Goes t o.calls out) (ho : s.Played t o) {done : List Call} {rest : Exchange}
    (hc : x.Comes done rest) (hd : done <+: o.calls) (hp : rest.phase? = some p) (hto : (s.action done p).TimesOut (t.get p)) :
    out = .error (.handshake (.timeout p (t.get p))) ∧ Call.accepted t o.calls = done.length := by
  obtain ⟨after, hafter⟩ := hd
  rw [← hafter] at h
  rcases (hc.goes h).next hp with ⟨rfl, -, rfl⟩ | ⟨c, after', rfl, rfl, hf⟩
  · rw [← hafter, List.append_nil]
    exact ⟨rfl, hc.accepted⟩
  · obtain ⟨hz, hfollows⟩ := ho.follows done c after' hafter.symm
    have hfail := (hfollows.failure_eq_timeout_iff hz).mpr ⟨hto, rfl, rfl⟩
    obtain ⟨rfl, rfl⟩ := hf _ hfail
    refine ⟨rfl, ?_⟩
    rw [← hafter, Call.accepted_snoc hfail, hc.accepted]

theorem timeout_iff (h : x.Goes t o.calls out) (ho : s.Played t o)
    (hx : ∀ done e f, x.Comes done (.fail e f) → f.isTimeout = false) (k : Nat) (p : Phase) (limit : Duration) :
    out = .error (.handshake (.timeout p limit)) ∧ Call.accepted t o.calls = k ↔
      ∃ done rest, x.Comes done rest ∧ done <+: o.calls ∧ done.length = k ∧ rest.phase? = some p ∧ limit = t.get p ∧
        (s.action done p).TimesOut limit := by
  constructor
  · rintro ⟨rfl, rfl⟩
    exact h.of_timeout ho hx
  · rintro ⟨done, rest, hc, hd, rfl, hp, rfl, hto⟩
    exact h.timeout ho hc hd hp hto

/-- A phase whose actions all keep its limit never times out. -/
theorem not_timeout (h : x.Goes t o.calls out) (ho : s.Played t o)
    (hx : ∀ done e f, x.Comes done (.fail e f) → f.isTimeout = false) (hpos : 0 < (t.get p).seconds)
    (ha : ∀ a ∈ s.script p, ¬ a.TimesOut (t.get p)) (limit : Duration) : out ≠ .error (.handshake (.timeout p limit)) := by
  intro hout
  obtain ⟨done, rest, -, -, -, -, rfl, hto⟩ := (h.timeout_iff ho hx _ p limit).mp ⟨hout, rfl⟩
  rcases s.mem_action done p with hs | hs
  · exact ha _ hs hto
  · exact Action.not_timesOut_prompt hpos (hs ▸ hto)

/-- An operation whose limit is not above zero does not start. -/
theorem unstarted (h : x.Goes t o.calls out) (ho : s.Played t o) {done : List Call} {rest : Exchange}
    (hc : x.Comes done rest) (hd : done <+: o.calls) (hp : rest.phase? = some p) (hz : (t.get p).seconds ≤ 0) :
    o.calls = done := by
  obtain ⟨after, hafter⟩ := hd
  rcases (hc.goes (hafter ▸ h)).next hp with ⟨rfl, -, -⟩ | ⟨c, after', rfl, rfl, -⟩
  · rw [← hafter, List.append_nil]
  · obtain ⟨hnz, -⟩ := ho.follows done c after' hafter.symm
    rw [(Duration.isZero_iff _).mpr hz] at hnz
    cases hnz

end Exchange.Goes

namespace Route

variable {r : Route} {t : Timeouts} {x : Exchange} {s u : Stream}

/-- Streams whose actions have the same fates give the same handshake. -/
theorem connect_sameFates (ht : r.timeouts = .ok t) (h : s.SameFates t u) :
    Session.Agrees (Stream.SameFates t) (r.connect (Session.start s)).2 (r.connect (Session.start u)).2 ∧
      (r.connect (Session.start s)).1 = (r.connect (Session.start u)).1 := by
  have hsame : ∀ t', r.timeouts = .ok t' → BisimulatesUnder t' (Stream.SameFates t) := by
    intro t' ht'
    obtain rfl := Except.ok.inj (ht.symm.trans ht')
    exact Stream.sameFates_bisimulates t
  have hboth : Session.Agrees (Stream.SameFates t) (Session.start s) (Session.start u) := ⟨h, rfl, rfl, rfl⟩
  have hend := r.connect_agrees_under hsame hboth
  exact ⟨hend.snd, hend.fst⟩

/-- The calls of a handshake take at most all its writes and reads under their limits. -/
theorem connect_elapsed_le (hx : r.exchange = .ok x) (t : Timeouts) (s : Stream) :
    s.elapsed t (r.connect (Session.start (Observed.start s))).2.stream.calls ≤
      r.protocol.writes * t.write.milliseconds + r.protocol.reads * t.read.milliseconds := by
  cases hq : r.request with
  | error f =>
    rw [exchange_error hq] at hx
    cases hx
  | ok request =>
    obtain ⟨hwrites, hreads⟩ := connect_count hq s
    exact Stream.elapsed_le hwrites hreads

end Route

/-- Over every stream of which nobody gives up, a handshake times out at one of its operations exactly if all before
it completed and were accepted and this one times out by itself: its own limit is not above zero, and then it
does not start; its own action takes longer than that limit; or the stream says so in time. The error has the phase
and the limit of the operation. What operations took before counts for nothing: streams whose actions have the
same fates one by one give the same handshake, and a phase whose actions all keep its limit never times out. A
handshake takes what its operations take, each at most its limit. -/
theorem connect_timeouts {protocol : Protocol} {settings : List Value} {r : Route} (hw : Route.WellTyped protocol settings)
    (hr : Route.ofSettings protocol settings = .ok r) (s : Stream) (hs : s.clock.cancelAt = none) :
    ∃ t x, r.timeouts = .ok t ∧ r.exchange = .ok x ∧
      let out := r.connect (Session.start s)
      let seen := r.connect (Session.start (Observed.start s))
      let calls := seen.2.stream.calls
      (seen.1 = out.1 ∧ seen.2.stream.stream = out.2.stream ∧
        out.2.stream.marks = s.marks ++ calls.flatMap Call.marks ∧
        ∀ p, out.2.stream.script p = (s.script p).drop (Call.count p calls)) ∧
      (∀ k p limit, out.1 = .error (.handshake (.timeout p limit)) ∧ Call.accepted t calls = k ↔
        ∃ done rest, x.Comes done rest ∧ done <+: calls ∧ done.length = k ∧ rest.phase? = some p ∧ limit = t.get p ∧
          (s.action done p).TimesOut limit) ∧
      (∀ done rest p, x.Comes done rest → done <+: calls → rest.phase? = some p → (t.get p).seconds ≤ 0 → calls = done) ∧
      (∀ u, s.SameFates t u →
        let other := r.connect (Session.start u)
        other.1 = out.1 ∧ other.2.stream.buffer = out.2.stream.buffer ∧ other.2.stream.marks = out.2.stream.marks ∧
          other.2.entries = out.2.entries) ∧
      (∀ p, 0 < (t.get p).seconds → (∀ a ∈ s.script p, ¬ a.TimesOut (t.get p)) →
        ∀ limit, out.1 ≠ .error (.handshake (.timeout p limit))) ∧
      out.2.stream.clock.now = s.clock.now + s.elapsed t calls ∧
      s.elapsed t calls ≤ r.protocol.writes * t.write.milliseconds + r.protocol.reads * t.read.milliseconds := by
  obtain ⟨⟨t, ht⟩, x, hx⟩ := hw.isUsable hr
  refine ⟨t, x, ht, hx, ?_⟩
  intro out seen calls
  have hstart : Session.Agrees (Stream.Recorded s.marks) (Session.start (Observed.start s)) (Session.start s) :=
    ⟨⟨rfl, (List.append_nil _).symm⟩, rfl, rfl, rfl⟩
  have hagrees := r.connect_agrees (Stream.recorded_bisimulates s.marks) hstart
  have hout : seen.1 = out.1 := hagrees.fst
  obtain ⟨⟨hstream, hmarks⟩, -, -, -⟩ := hagrees.snd
  have hstream : seen.2.stream.stream = out.2.stream := hstream
  have hplayed : s.Played t seen.2.stream := Stream.played_connect ht hs
  have hgoes : x.Goes t calls out.1 := by
    obtain ⟨calls', hc, hg⟩ := Route.goes_of_usable hx ht (Session.start (Observed.start s))
    rw [← hout, show calls = calls' from hc]
    exact hg
  have hx' : ∀ done e f, x.Comes done (.fail e f) → f.isTimeout = false := fun _ _ _ hf => Route.exchange_refusal hx hf
  refine ⟨⟨hout, hstream, hmarks, fun p => ?_⟩, hgoes.timeout_iff hplayed hx',
    fun done rest p hc hd hp hz => hgoes.unstarted hplayed hc hd hp hz, fun u hu => ?_,
    fun p hpos ha => hgoes.not_timeout hplayed hx' hpos ha, ?_, Route.connect_elapsed_le hx t s⟩
  · rw [← hstream]
    exact hplayed.script p
  · obtain ⟨h, he⟩ := Route.connect_sameFates ht hu
    exact ⟨he.symm, h.stream.buffer.symm, h.stream.marks.symm, h.entries.symm⟩
  · rw [← hstream]
    exact hplayed.clock

/-- Two writes and four reads that each take almost the whole of their limit. -/
theorem connect_timeouts_patient :
    let t := Timeouts.uniform .ten
    let settings : List Value := [.ipv4 .zero, .int 80, .timeouts t]
    let r := Route.socks5 (.ipv4 .zero) 80 (.timeouts t)
    let slow : Action := ⟨9999, none, none⟩
    let s : Stream := ⟨⟨0, none⟩, [], [[5, 0], [5, 0, 0, 1, 0, 0, 0, 0, 0, 0]], [slow, slow], [slow, slow, slow, slow], []⟩
    let out := r.connect (Session.start s)
    Route.WellTyped .socks5 settings ∧ Route.ofSettings .socks5 settings = .ok r ∧ s.clock.cancelAt = none ∧
      (∀ p limit, out.1 ≠ .error (.handshake (.timeout p limit))) ∧ out.2.stream.clock.now = 59994 := by
  intro t settings r slow s out
  have hw : Route.WellTyped .socks5 settings := .socks5 _ _ _
  have hr : Route.ofSettings .socks5 settings = .ok r := rfl
  obtain ⟨t', x, ht, -, -, -, -, -, hpatient, hclock, -⟩ := connect_timeouts hw hr s rfl
  obtain rfl : t = t' := Except.ok.inj ht
  refine ⟨hw, hr, rfl, fun p => hpatient p ?_ ?_, ?_⟩
  · cases p <;> decide +kernel
  · cases p <;> decide +kernel
  · exact hclock.trans (by decide +kernel)

end SocksTunnel
