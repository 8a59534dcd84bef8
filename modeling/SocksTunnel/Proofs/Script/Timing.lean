import Mathlib.Algebra.BigOperators.Group.Finset.Basic
import SocksTunnel.Proofs.Handshake.Failures
import SocksTunnel.Proofs.Handshake.Order
import SocksTunnel.Proofs.Script.Prompt

/-
  SocksTunnel.Proofs.Script.Timing — the time that a scripted stream takes. An operation has
  one action of its script to itself, and a limit that starts with it: what came before
  changes neither. If nobody gives up, how the operation ends is the fate of its action
  under its limit.

  Proved: a stream whose operations were observed has played its script from the start, every
  call by the fate of its own action, and its clock has gone on by what each of them took
  (`played_connect`). Streams whose actions have the same fates, however long they
  take, end every operation alike (`sameFates_bisimulates`).
-/

namespace SocksTunnel

open Script

theorem Duration.seconds_nonneg (d : Duration) : 0 ≤ d.seconds := by
  rw [seconds, Binary64.value]
  refine Rat.mkRat_nonneg ?_ _
  have hneg := d.notNegative
  have hfin := d.isFinite
  split
  · rename_i hs
    have hn : d.number.isNaN = false := by
      simp only [Binary64.isFinite, bne_iff_ne, ne_eq] at hfin
      simp only [Binary64.isNaN, Bool.and_eq_false_iff, beq_eq_false_iff_ne]
      exact .inl hfin
    simp only [Binary64.isNegative, hs, hn, Bool.not_false, Bool.and_true, Bool.true_and, bne_eq_false_iff_eq] at hneg
    omega
  · exact Int.natCast_nonneg _

/-- An operation fails before it starts exactly if its limit is not above zero. -/
theorem Duration.isZero_iff (d : Duration) : d.isZero = true ↔ d.seconds ≤ 0 := by
  rw [← not_iff_not, not_le, Bool.not_eq_true]
  refine ⟨fun hz => lt_of_le_of_ne d.seconds_nonneg fun hs => ?_, isZero_eq_false_of_pos⟩
  have hm : d.number.magnitude ≠ 0 := by simpa [isZero] using hz
  have hd : ∀ k, Nat.pow 2 k ≠ 0 := fun k => (Nat.two_pow_pos k).ne'
  rw [seconds, Binary64.value, eq_comm, Rat.mkRat_eq_zero (hd 1074)] at hs
  split at hs <;> omega

theorem Duration.milliseconds_nonneg (d : Duration) : 0 ≤ d.milliseconds :=
  mul_nonneg d.seconds_nonneg (by norm_num)

namespace Script

/-! ## One action -/

/-- How an action ends under a limit of its own. -/
def Action.fate (limit : Time) (a : Action) : Outcome Unit :=
  if limit < a.delay then .expired
  else
    match a.error with
    | some e => .failed e
    | none => .done ()

/-- An operation with this limit that follows this action times out: the limit is not above zero, the action
takes longer, or it fails in time with an error that says so. -/
def Action.TimesOut (limit : Duration) (a : Action) : Prop :=
  limit.seconds ≤ 0 ∨ limit.milliseconds < a.delay ∨
    a.delay ≤ limit.milliseconds ∧ a.error.any PeerError.isTimeout = true

instance (limit : Duration) (a : Action) : Decidable (a.TimesOut limit) := inferInstanceAs (Decidable (_ ∨ _ ∨ _ ∧ _))

theorem Clock.span_eq_min (limit delay : Time) : span (some limit) delay = min delay limit := by
  simp only [span]
  split
  · rename_i h
    rw [min_eq_right (le_of_lt h)]
  · rename_i h
    rw [min_eq_left (not_lt.mp h)]

theorem Clock.await_uncancelled {c : Clock} (hc : c.cancelAt = none) (limit : Time) (a : Action) :
    c.await (some limit) a = (a.fate limit, ⟨c.now + min a.delay limit, none⟩) := by
  obtain ⟨now, cancelAt⟩ := c
  obtain rfl : cancelAt = none := hc
  simp only [await, cancels, Option.filter_none, span_eq_min, isLate, decide_eq_true_eq, Action.fate]
  split
  · rfl
  · cases a.error <;> rfl

namespace Stream

/-- What a read that is served in time returns, and what it leaves of the buffer. -/
def served (n : Int) (data : Option Bytes) (buffer : Bytes) : Outcome Bytes × Bytes :=
  match data with
  | some d => (.done d, buffer)
  | none =>
    if (buffer.length : Int) < n then (.failed (.incomplete buffer (some n)), [])
    else (.done (buffer.take (cut n buffer.length)), buffer.drop (cut n buffer.length))

variable {s : Stream}

theorem next_eq (as : List Action) : Action.next as = (as.getD 0 .prompt, as.tail) := by cases as <;> rfl

theorem arrive_eq (s : Stream) : arrive s = { s with buffer := s.buffer ++ s.replies.headD [], replies := s.replies.tail } := by
  unfold arrive
  split
  · rename_i h
    rw [h, List.headD_nil, List.append_nil, List.tail_nil, ← h]
  · rename_i h
    rw [h, List.headD_cons, List.tail_cons]

/-- As long as nobody gives up, a write ends by the fate of its action. -/
theorem write_eq (hs : s.clock.cancelAt = none) (limit : Time) (payload : Bytes) :
    let a := s.writes.getD 0 .prompt
    let t : Stream := { s with clock := ⟨s.clock.now + min a.delay limit, none⟩, writes := s.writes.tail,
                               events := s.events ++ [.write payload] }
    s.write limit payload = (a.fate limit,
      if a.fate limit = .done () then see (arrive t) (.written t.clock.now) else t) := by
  simp only [write, next_eq, see, Clock.await_uncancelled hs]
  cases hf : (s.writes.getD 0 .prompt).fate limit with
  | done u => rw [if_pos rfl]
  | expired => rw [if_neg (by simp)]
  | failed e => rw [if_neg (by simp)]

/-- And a read by that of its action, and then by what it is served. -/
theorem read_eq (hs : s.clock.cancelAt = none) (limit : Time) (n : Int) :
    let a := s.reads.getD 0 .prompt
    let t : Stream := { s with clock := ⟨s.clock.now + min a.delay limit, none⟩, reads := s.reads.tail,
                               events := s.events ++ [.read n] }
    s.read limit n =
      match a.fate limit with
      | .done _ => ((served n a.data s.buffer).1, { t with buffer := (served n a.data s.buffer).2 })
      | .expired => (.expired, t)
      | .failed e => (.failed e, t) := by
  simp only [read, next_eq, see, Clock.await_uncancelled hs]
  cases hf : (s.reads.getD 0 .prompt).fate limit with
  | done u =>
    dsimp only
    cases hd : (s.reads.getD 0 .prompt).data with
    | some d => rfl
    | none =>
      by_cases hn : (s.buffer.length : Int) < n
      · simp only [served, take, if_pos hn]
      · simp only [served, take, if_neg hn]
  | expired => rfl
  | failed e => rfl

end Stream

end Script

/-! ## A script from its start -/

/-- How a call ends that follows an action under its limit. -/
inductive Call.Follows (t : Timeouts) (a : Action) : Call → Prop
  | write (payload : Bytes) : Follows t a (.write payload (a.fate t.write.milliseconds))
  | cutOff (n : Int) : a.fate t.read.milliseconds = .expired → Follows t a (.read n .expired)
  | raised (n : Int) {e : PeerError} : a.fate t.read.milliseconds = .failed e → Follows t a (.read n (.failed e))
  | served (n : Int) (data : Bytes) : a.fate t.read.milliseconds = .done () → Follows t a (.read n (.done data))
  | short (n : Int) (part : Bytes) : a.fate t.read.milliseconds = .done () →
      Follows t a (.read n (.failed (.incomplete part (some n))))

namespace Failure

variable {p q : Phase} {limit l : Duration} {e : PeerError}

theorem ofPeer_eq_timeout_iff :
    ofPeer p limit e = .handshake (.timeout q l) ↔ e.isTimeout = true ∧ q = p ∧ l = limit := by
  unfold ofPeer
  by_cases ht : e.isTimeout = true
  · rw [if_pos ht]
    simp [ht, HandshakeError.expired, eq_comm]
  · rw [if_neg ht]
    split <;> simp [ht]

theorem ofRead_eq_timeout_iff {n : Int} :
    ofRead limit n e = .handshake (.timeout q l) ↔ e.isTimeout = true ∧ q = .read ∧ l = limit := by
  cases e with
  | incomplete part k => simp [ofRead, PeerError.isTimeout]
  | _ => exact ofPeer_eq_timeout_iff

end Failure

theorem Script.Action.timesOut_iff {limit : Duration} {a : Action} (hz : limit.isZero = false) :
    a.TimesOut limit ↔ a.fate limit.milliseconds = .expired ∨
      ∃ e, a.fate limit.milliseconds = .failed e ∧ e.isTimeout = true := by
  have hpos : ¬ limit.seconds ≤ 0 := by
    rw [← Duration.isZero_iff, hz]
    exact Bool.false_ne_true
  unfold TimesOut fate
  by_cases hl : limit.milliseconds < a.delay
  · simp [hl]
  · cases he : a.error <;> simp [hl, hpos, not_lt.mp hl]

/-- A call that follows an action fails by a timeout exactly if the action times out under its limit. -/
theorem Call.Follows.failure_eq_timeout_iff {t : Timeouts} {c : Call} {a : Action} (h : c.Follows t a)
    (hz : (t.get c.phase).isZero = false) {p : Phase} {limit : Duration} :
    c.failure t = some (.handshake (.timeout p limit)) ↔ a.TimesOut (t.get c.phase) ∧ p = c.phase ∧ limit = t.get c.phase := by
  rw [Action.timesOut_iff hz]
  cases h with
  | write payload =>
    simp only [phase, Timeouts.get]
    cases a.fate t.write.milliseconds with
    | done u => simp [failure]
    | expired =>
      simp only [failure, Option.some.injEq, Failure.handshake.injEq, HandshakeError.timeout.injEq, true_or, true_and]
      exact and_congr eq_comm eq_comm
    | failed e => simp [failure, Failure.ofPeer_eq_timeout_iff]
  | cutOff n hf =>
    simp only [phase, Timeouts.get, failure, hf, Option.some.injEq, Failure.handshake.injEq,
      HandshakeError.timeout.injEq, true_or, true_and]
    exact and_congr eq_comm eq_comm
  | raised n hf => simp [phase, Timeouts.get, failure, hf, Failure.ofRead_eq_timeout_iff]
  | served n data hf =>
    simp only [phase, Timeouts.get, failure, hf]
    split
    · simp
    · split <;> simp
  | short n part hf => simp [phase, Timeouts.get, failure, hf, Failure.ofRead_eq_timeout_iff, PeerError.isTimeout]

/-- How many of the calls are of a phase. -/
def Call.count (p : Phase) (calls : List Call) : Nat := calls.countP fun c => c.phase == p

theorem Call.count_snoc (p : Phase) (calls : List Call) (c : Call) :
    count p (calls ++ [c]) = count p calls + if c.phase == p then 1 else 0 := by
  rw [count, count, List.countP_append, List.countP_singleton]

namespace Script.Stream

/-- The actions of a script for the operations of a phase. -/
def script (s : Stream) : Phase → List Action
  | .connect => []
  | .write => s.writes
  | .read => s.reads

/-- The action that an operation of a phase follows after these calls. -/
def action (s : Stream) (before : List Call) (p : Phase) : Action := (s.script p).getD (Call.count p before) .prompt

/-- What the first operations of a phase take under their limit. -/
def spent (s : Stream) (limit : Time) (p : Phase) (k : Nat) : Time :=
  ∑ i ∈ Finset.range k, min ((s.script p).getD i .prompt).delay limit

/-- What calls take that start a script. -/
def elapsed (s : Stream) (t : Timeouts) (calls : List Call) : Time :=
  s.spent t.write.milliseconds .write (Call.count .write calls) +
    s.spent t.read.milliseconds .read (Call.count .read calls)

/-- The stream that was observed has played its script from the start: every call by its own action, under a
limit above zero. -/
structure Played (t : Timeouts) (s : Stream) (o : Observed Stream) : Prop where
  uncancelled : o.stream.clock.cancelAt = none
  script : ∀ p, o.stream.script p = (s.script p).drop (Call.count p o.calls)
  clock : o.stream.clock.now = s.clock.now + s.elapsed t o.calls
  follows : ∀ before c after, o.calls = before ++ c :: after →
    (t.get c.phase).isZero = false ∧ c.Follows t (s.action before c.phase)

variable {t : Timeouts} {s : Stream}

theorem played_start (hs : s.clock.cancelAt = none) : s.Played t (Observed.start s) where
  uncancelled := hs
  script _ := rfl
  clock := by
    show s.clock.now = s.clock.now + (0 + 0)
    rw [add_zero, add_zero]
  follows before c after h := by simp [Observed.start] at h

theorem Played.action_eq {o : Observed Stream} (h : s.Played t o) (p : Phase) :
    (o.stream.script p).getD 0 .prompt = s.action o.calls p := by
  rw [h.script, action, List.getD_eq_getElem?_getD, List.getElem?_drop, List.getD_eq_getElem?_getD, Nat.add_zero]

theorem elapsed_snoc (calls : List Call) (c : Call) :
    s.elapsed t (calls ++ [c]) =
      s.elapsed t calls + min (s.action calls c.phase).delay (t.get c.phase).milliseconds := by
  cases c with
  | write payload ending =>
    have hw : Call.count .write (calls ++ [.write payload ending]) = Call.count .write calls + 1 := Call.count_snoc ..
    have hr : Call.count .read (calls ++ [.write payload ending]) = Call.count .read calls := Call.count_snoc ..
    rw [elapsed, hw, hr, spent, Finset.sum_range_succ]
    exact add_right_comm _ _ _
  | read n ending =>
    have hw : Call.count .write (calls ++ [.read n ending]) = Call.count .write calls := Call.count_snoc ..
    have hr : Call.count .read (calls ++ [.read n ending]) = Call.count .read calls + 1 := Call.count_snoc ..
    rw [elapsed, hw, hr, spent, spent, Finset.sum_range_succ]
    exact (add_assoc _ _ _).symm

/-- One more call, which follows the next action of its phase and takes as long as that action may. -/
theorem Played.step {o : Observed Stream} {u : Stream} {c : Call} (h : s.Played t o)
    (hu : u.clock = ⟨o.stream.clock.now + min (s.action o.calls c.phase).delay (t.get c.phase).milliseconds, none⟩)
    (hs : ∀ p, u.script p = if p = c.phase then (o.stream.script p).tail else o.stream.script p)
    (hz : (t.get c.phase).isZero = false) (hf : c.Follows t (s.action o.calls c.phase)) :
    s.Played t ⟨u, o.calls ++ [c]⟩ where
  uncancelled := by rw [hu]
  script p := by
    rw [hs, Call.count_snoc, h.script]
    by_cases hcp : p = c.phase
    · rw [if_pos hcp, hcp, beq_self_eq_true, if_pos rfl, List.tail_drop]
    · rw [if_neg hcp, if_neg (by simpa using Ne.symm hcp), Nat.add_zero]
  clock := by rw [hu, elapsed_snoc, h.clock, add_assoc]
  follows before d after hd := by
    -- the call is the new one, or one of the others with the new one at the end
    rcases List.eq_nil_or_concat' after with rfl | ⟨after, last, rfl⟩
    · obtain ⟨rfl, hcd⟩ := List.append_inj' hd rfl
      obtain rfl := List.singleton_inj.mp hcd
      exact ⟨hz, hf⟩
    · rw [← List.cons_append, ← List.append_assoc] at hd
      exact h.follows before d after (List.append_inj' hd rfl).1

/-- Every operation that a handshake makes is one more call of the script. -/
theorem Played.write (hz : t.write.isZero = false) (payload : Bytes) {o : Observed Stream} (h : s.Played t o) :
    s.Played t (Observed.write t.write.milliseconds payload o).2 := by
  have hw := write_eq h.uncancelled t.write.milliseconds payload
  show s.Played t ⟨(o.stream.write _ payload).2, o.calls ++ [.write payload (o.stream.write _ payload).1]⟩
  rw [hw, show o.stream.writes.getD 0 .prompt = s.action o.calls .write from h.action_eq .write]
  split
  · rw [arrive_eq]
    exact h.step rfl (fun p => by cases p <;> rfl) hz (.write payload)
  · exact h.step rfl (fun p => by cases p <;> rfl) hz (.write payload)

theorem Played.read (hz : t.read.isZero = false) (n : Int) {o : Observed Stream} (h : s.Played t o) :
    s.Played t (Observed.read t.read.milliseconds n o).2 := by
  have hr := read_eq h.uncancelled t.read.milliseconds n
  show s.Played t ⟨(o.stream.read _ n).2, o.calls ++ [.read n (o.stream.read _ n).1]⟩
  rw [hr, show o.stream.reads.getD 0 .prompt = s.action o.calls .read from h.action_eq .read]
  cases hf : (s.action o.calls .read).fate t.read.milliseconds with
  | done u =>
    have hserved : Call.Follows t (s.action o.calls .read)
        (.read n (served n (s.action o.calls .read).data o.stream.buffer).1) := by
      unfold served
      split
      · exact .served n _ hf
      · split
        · exact .short n _ hf
        · exact .served n _ hf
    exact h.step rfl (fun p => by cases p <;> rfl) hz hserved
  | expired => exact h.step rfl (fun p => by cases p <;> rfl) hz (.cutOff n hf)
  | failed e => exact h.step rfl (fun p => by cases p <;> rfl) hz (.raised n hf)

/-- A handshake plays the script of its stream from the start. -/
theorem played_connect {r : Route} (ht : r.timeouts = .ok t) (hs : s.clock.cancelAt = none) :
    s.Played t (r.connect (Session.start (Observed.start s))).2.stream := by
  refine r.connect_keeps (P := s.Played t) ?_ ?_ (played_start hs)
  · intro t' ht' hz payload o ho
    obtain rfl := Except.ok.inj (ht.symm.trans ht')
    exact ho.write hz payload
  · intro t' ht' hz n o ho
    obtain rfl := Except.ok.inj (ht.symm.trans ht')
    exact ho.read hz n

/-! ## Scripts with the same fates -/

/-- Streams with the same octets and events, but for the times of these, whose actions have the same fates under
their limits, however long they take. -/
structure SameFates (t : Timeouts) (s u : Stream) : Prop where
  uncancelled : s.clock.cancelAt = none ∧ u.clock.cancelAt = none
  buffer : s.buffer = u.buffer
  replies : s.replies = u.replies
  marks : s.marks = u.marks
  writes : ∀ i, (s.writes.getD i .prompt).fate t.write.milliseconds = (u.writes.getD i .prompt).fate t.write.milliseconds
  reads : ∀ i, (s.reads.getD i .prompt).fate t.read.milliseconds = (u.reads.getD i .prompt).fate t.read.milliseconds
  data : ∀ i, (s.reads.getD i .prompt).data = (u.reads.getD i .prompt).data

theorem getD_tail (as : List Action) (i : Nat) : as.tail.getD i .prompt = as.getD (i + 1) .prompt := by
  cases as <;> rfl

variable {u s' u' : Stream}

/-- Streams with the same fates, after each of them used up the same actions. -/
theorem SameFates.step (h : SameFates t s u) (hc : s'.clock.cancelAt = none ∧ u'.clock.cancelAt = none)
    (hb : s'.buffer = u'.buffer) (hq : s'.replies = u'.replies) (hm : s'.marks = u'.marks)
    (hw : s'.writes = s.writes ∧ u'.writes = u.writes ∨ s'.writes = s.writes.tail ∧ u'.writes = u.writes.tail)
    (hr : s'.reads = s.reads ∧ u'.reads = u.reads ∨ s'.reads = s.reads.tail ∧ u'.reads = u.reads.tail) :
    SameFates t s' u' where
  uncancelled := hc
  buffer := hb
  replies := hq
  marks := hm
  writes i := by
    rcases hw with ⟨h1, h2⟩ | ⟨h1, h2⟩
    · rw [h1, h2, h.writes]
    · rw [h1, h2, getD_tail, getD_tail, h.writes]
  reads i := by
    rcases hr with ⟨h1, h2⟩ | ⟨h1, h2⟩
    · rw [h1, h2, h.reads]
    · rw [h1, h2, getD_tail, getD_tail, h.reads]
  data i := by
    rcases hr with ⟨h1, h2⟩ | ⟨h1, h2⟩
    · rw [h1, h2, h.data]
    · rw [h1, h2, getD_tail, getD_tail, h.data]

theorem map_mark_snoc {es fs : List Event} {e f : Event} (h : es.map Event.mark = fs.map Event.mark)
    (he : e.mark = f.mark) : (es ++ [e]).map Event.mark = (fs ++ [f]).map Event.mark := by
  rw [List.map_append, List.map_append, h, List.map_singleton, List.map_singleton, he]

/-- No operation of a handshake tells streams with the same fates apart. -/
theorem sameFates_bisimulates (t : Timeouts) : BisimulatesUnder t (SameFates t) where
  write _ payload s u h := by
    have hm := @map_mark_snoc _ _ (.write payload) _ h.marks rfl
    show SameEnd _ (s.write _ payload) (u.write _ payload)
    rw [write_eq h.uncancelled.1, write_eq h.uncancelled.2, h.writes 0]
    refine ⟨_, _, _, rfl, rfl, ?_⟩
    split
    · rw [arrive_eq, arrive_eq]
      refine h.step ⟨rfl, rfl⟩ ?_ ?_ ?_ (.inr ⟨rfl, rfl⟩) (.inl ⟨rfl, rfl⟩)
      · simp only [see, h.buffer, h.replies]
      · simp only [see, h.replies]
      · exact map_mark_snoc hm rfl
    · exact h.step ⟨rfl, rfl⟩ h.buffer h.replies hm (.inr ⟨rfl, rfl⟩) (.inl ⟨rfl, rfl⟩)
  read _ n s u h := by
    have hm := @map_mark_snoc _ _ (.read n) _ h.marks rfl
    show SameEnd _ (s.read _ n) (u.read _ n)
    rw [read_eq h.uncancelled.1, read_eq h.uncancelled.2, h.reads 0, h.data 0, h.buffer]
    cases (u.reads.getD 0 .prompt).fate t.read.milliseconds <;>
      exact ⟨_, _, _, rfl, rfl, h.step ⟨rfl, rfl⟩ rfl h.replies hm (.inl ⟨rfl, rfl⟩) (.inr ⟨rfl, rfl⟩)⟩

end Script.Stream

end SocksTunnel
