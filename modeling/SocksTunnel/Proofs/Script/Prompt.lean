import Mathlib.Algebra.Order.Ring.Rat
import Mathlib.Tactic.Positivity
import SocksTunnel.Script.Stream

/-
  SocksTunnel.Proofs.Script.Prompt — handshakes over a stream on which nothing goes wrong:
  every operation succeeds within its limit and every read takes what it returns from the
  buffer. There an exchange is decided by octets alone, those in the buffer and those of
  the replies, wherever they are cut.

  Proved: under positive limits the run of an exchange over such a stream has the verdict
  of its octets: the same result, the same octets left unread and the same messages
  written (`run_prompt`).
-/

namespace SocksTunnel

theorem Duration.isZero_eq_false_of_pos {d : Duration} (h : 0 < d.seconds) : d.isZero = false := by
  rw [Bool.eq_false_iff]
  intro hz
  have hm : d.number.magnitude = 0 := by simpa [isZero] using hz
  have hn : (if d.number.sign then -((0 : Nat) : Int) else ((0 : Nat) : Int)) = 0 := by split <;> rfl
  have hs : d.seconds = 0 := by rw [seconds, Binary64.value, hm, hn, Rat.zero_mkRat]
  rw [hs] at h
  exact lt_irrefl 0 h

theorem Duration.milliseconds_pos {d : Duration} (h : 0 < d.seconds) : 0 < d.milliseconds := by
  unfold milliseconds
  positivity

namespace Script

/-! ## Prompt streams -/

/-- An action that ends within a limit and does not fail. -/
def Action.Succeeds (limit : Time) (a : Action) : Prop := a.delay ≤ limit ∧ a.error = none

instance (limit : Time) (a : Action) : Decidable (a.Succeeds limit) := inferInstanceAs (Decidable (_ ∧ _))

theorem Action.succeeds_prompt {limit : Time} (h : 0 < limit) : prompt.Succeeds limit := ⟨le_of_lt h, rfl⟩

theorem Action.forall_next {P : Action → Prop} {as : List Action} (h : ∀ a ∈ as, P a) (hp : P prompt) :
    P (next as).1 ∧ ∀ a ∈ (next as).2, P a := by
  cases as with
  | nil => exact ⟨hp, h⟩
  | cons a r => exact ⟨h a List.mem_cons_self, fun b hb => h b (List.mem_cons_of_mem a hb)⟩

theorem Clock.await_of_succeeds {c : Clock} (hc : c.cancelAt = none) {limit : Time} {a : Action}
    (h : a.Succeeds limit) : c.await (some limit) a = (.done (), { c with now := c.now + a.delay }) := by
  obtain ⟨hd, he⟩ := h
  have hl : isLate (some limit) a.delay = false := by simpa [isLate] using hd
  simp only [await, cancels, hc, Option.filter_none, hl, he, span_of_le hd, Bool.false_eq_true, if_false]

namespace Stream

/-- The messages that were written. -/
def written (s : Stream) : List Bytes :=
  s.events.filterMap fun e => match e with
    | .write payload => some payload
    | _ => none

/-- Nobody gives up, every operation succeeds within its limit, and reads have no data of their own
but take it from the buffer. -/
structure IsPrompt (t : Timeouts) (s : Stream) : Prop where
  uncancelled : s.clock.cancelAt = none
  writes : ∀ a ∈ s.writes, a.Succeeds t.write.milliseconds
  reads : ∀ a ∈ s.reads, a.Succeeds t.read.milliseconds ∧ a.data = none

/-- A stream as far as octets go: the buffer, the replies to come and the messages written. -/
def octets (s : Stream) : Bytes × List Bytes × List Bytes := (s.buffer, s.replies, s.written)

theorem write_prompt {t : Timeouts} (hw : 0 < t.write.milliseconds) {s : Stream} (hs : s.IsPrompt t)
    (payload : Bytes) :
    ∃ s', s.write t.write.milliseconds payload = (.done (), s') ∧ s'.IsPrompt t ∧
      s'.octets = (s.buffer ++ s.replies.headD [], s.replies.tail, s.written ++ [payload]) := by
  obtain ⟨ha, hr⟩ := Action.forall_next hs.writes (Action.succeeds_prompt hw)
  simp only [write, see, Clock.await_of_succeeds hs.uncancelled ha]
  refine ⟨_, rfl, ?_, ?_⟩
  · cases h : s.replies <;> exact ⟨hs.uncancelled, hr, hs.reads⟩
  · cases h : s.replies <;> simp [arrive, octets, written]

theorem read_prompt {t : Timeouts} (hr : 0 < t.read.milliseconds) {s : Stream} (hs : s.IsPrompt t) {n : Nat}
    (hn : n ≤ s.buffer.length) :
    ∃ s', s.read t.read.milliseconds n = (.done (s.buffer.take n), s') ∧ s'.IsPrompt t ∧
      s'.octets = (s.buffer.drop n, s.replies, s.written) := by
  obtain ⟨⟨ha, hd⟩, hrest⟩ := Action.forall_next hs.reads ⟨Action.succeeds_prompt hr, rfl⟩
  have hlt : ¬ (s.buffer.length : Int) < n := by omega
  have hcut : cut n s.buffer.length = n := by simp [cut]
  simp only [read, see, Clock.await_of_succeeds hs.uncancelled ha, hd, take, hlt, hcut, if_false]
  exact ⟨_, rfl, ⟨hs.uncancelled, hs.writes, hrest⟩, by simp [octets, written]⟩

theorem read_prompt_short {t : Timeouts} (hr : 0 < t.read.milliseconds) {s : Stream} (hs : s.IsPrompt t) {n : Nat}
    (hn : s.buffer.length < n) :
    ∃ s', s.read t.read.milliseconds n = (.failed (.incomplete s.buffer (some n)), s') ∧
      s'.octets = ([], s.replies, s.written) := by
  obtain ⟨⟨ha, hd⟩, hrest⟩ := Action.forall_next hs.reads ⟨Action.succeeds_prompt hr, rfl⟩
  have hlt : (s.buffer.length : Int) < n := by omega
  simp only [read, see, Clock.await_of_succeeds hs.uncancelled ha, hd, take, hlt, if_true]
  exact ⟨_, rfl, by simp [octets, written]⟩

end Stream

end Script

/-! ## Verdicts -/

/-- How a handshake ends that is decided by octets alone: its error or none, what is left unread and
the messages that were written. -/
structure Verdict where
  error : Option HandshakeError
  left : Bytes
  written : List Bytes

namespace Verdict

def result (v : Verdict) : Except Failure Unit :=
  match v.error with
  | none => .ok ()
  | some e => .error (.handshake e)

/-- The verdict of a handshake that wrote a message before. -/
def after (payload : Bytes) (v : Verdict) : Verdict := { v with written := payload :: v.written }

theorem result_eq_ok_iff {v : Verdict} : v.result = .ok () ↔ v.error = none := by
  unfold result
  split <;> simp_all

end Verdict

/-- The verdict of an exchange over a buffer, when every message brings the next of the replies. -/
def Exchange.verdict : Exchange → Bytes → List Bytes → Verdict
  | .done _, buffer, _ => ⟨none, buffer, []⟩
  | .fail _ e, buffer, _ => ⟨some e, buffer, []⟩
  | .send payload next, buffer, replies => (next.verdict (buffer ++ replies.headD []) replies.tail).after payload
  | .receive n next, buffer, replies =>
    if buffer.length < n then ⟨some (.endOfStream n buffer.length), [], []⟩
    else (next (buffer.take n)).verdict (buffer.drop n) replies

namespace Session

open Script

variable {t : Timeouts} {s : Session Stream}

theorem send_prompt (hw : 0 < t.write.seconds) (hs : s.stream.IsPrompt t) (payload : Bytes) :
    ∃ s', s.send t.write payload = (.ok (), s') ∧ s'.stream.IsPrompt t ∧
      s'.stream.octets =
        (s.stream.buffer ++ s.stream.replies.headD [], s.stream.replies.tail, s.stream.written ++ [payload]) := by
  obtain ⟨s', he, hp, ho⟩ := Stream.write_prompt (Duration.milliseconds_pos hw) hs payload
  have h : Transport.write t.write.milliseconds payload s.stream = (.done (), s') := he
  simp only [send, write, Duration.isZero_eq_false_of_pos hw, h, Bool.false_eq_true, if_false]
  exact ⟨_, rfl, hp, ho⟩

theorem receive_prompt (hr : 0 < t.read.seconds) (hs : s.stream.IsPrompt t) {n : Nat}
    (hn : n ≤ s.stream.buffer.length) :
    ∃ s', s.receive t.read n = (.ok (s.stream.buffer.take n), s') ∧ s'.stream.IsPrompt t ∧
      s'.stream.octets = (s.stream.buffer.drop n, s.stream.replies, s.stream.written) := by
  obtain ⟨s', he, hp, ho⟩ := Stream.read_prompt (Duration.milliseconds_pos hr) hs hn
  have h : Transport.read t.read.milliseconds (n : Int) s.stream = (.done (s.stream.buffer.take n), s') := he
  have hx : exactly n (s.stream.buffer.take n) = .ok (s.stream.buffer.take n) := by
    have hl : (s.stream.buffer.take n).length = n := List.length_take_of_le hn
    simp [exactly, hl]
  simp only [receive, read, Duration.isZero_eq_false_of_pos hr, h, hx, Bool.false_eq_true, if_false]
  exact ⟨_, rfl, hp, ho⟩

theorem receive_prompt_short (hr : 0 < t.read.seconds) (hs : s.stream.IsPrompt t) {n : Nat}
    (hn : s.stream.buffer.length < n) :
    ∃ s', s.receive t.read n = (.error (.handshake (.endOfStream n s.stream.buffer.length)), s') ∧
      s'.stream.octets = ([], s.stream.replies, s.stream.written) := by
  obtain ⟨s', he, ho⟩ := Stream.read_prompt_short (Duration.milliseconds_pos hr) hs hn
  have h : Transport.read t.read.milliseconds (n : Int) s.stream =
      (.failed (.incomplete s.stream.buffer (some n)), s') := he
  simp only [receive, read, Duration.isZero_eq_false_of_pos hr, h, Failure.ofRead, Bool.false_eq_true, if_false]
  exact ⟨_, rfl, ho⟩

/-- Over a prompt stream an exchange is decided by its octets. -/
theorem run_prompt (hw : 0 < t.write.seconds) (hr : 0 < t.read.seconds) (x : Exchange) (s : Session Stream)
    (hs : s.stream.IsPrompt t) :
    let v := x.verdict s.stream.buffer s.stream.replies
    (s.run t x).1 = v.result ∧ (s.run t x).2.stream.buffer = v.left ∧
      (s.run t x).2.stream.written = s.stream.written ++ v.written := by
  induction x generalizing s with
  | done e => exact ⟨rfl, rfl, (List.append_nil _).symm⟩
  | fail e f => cases e <;> exact ⟨rfl, rfl, (List.append_nil _).symm⟩
  | send payload next ih =>
    obtain ⟨s', he, hp, ho⟩ := send_prompt hw hs payload
    simp only [Stream.octets, Prod.mk.injEq] at ho
    obtain ⟨hb, hq, hm⟩ := ho
    obtain ⟨h1, h2, h3⟩ := ih s' hp
    rw [hb, hq] at h1 h2 h3
    simp only [run, he, Exchange.verdict]
    exact ⟨h1, h2, by rw [h3, hm]; simp [Verdict.after]⟩
  | receive n next ih =>
    by_cases hn : s.stream.buffer.length < n
    · obtain ⟨s', he, ho⟩ := receive_prompt_short hr hs hn
      simp only [Stream.octets, Prod.mk.injEq] at ho
      obtain ⟨hb, -, hm⟩ := ho
      simp only [run, he, Exchange.verdict, if_pos hn]
      exact ⟨rfl, hb, by rw [hm, List.append_nil]⟩
    · obtain ⟨s', he, hp, ho⟩ := receive_prompt hr hs (Nat.le_of_not_lt hn)
      simp only [Stream.octets, Prod.mk.injEq] at ho
      obtain ⟨hb, hq, hm⟩ := ho
      obtain ⟨h1, h2, h3⟩ := ih _ s' hp
      rw [hb, hq] at h1 h2 h3
      simp only [run, he, Exchange.verdict, if_neg hn]
      exact ⟨h1, h2, by rw [h3, hm]⟩

end Session

end SocksTunnel
