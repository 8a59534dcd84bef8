import SocksTunnel.Proofs.Handshake.Socks4

/-
  SocksTunnel.Proofs.Handshake.Course — how far a handshake comes. Its operations complete and
  their replies are accepted up to some point; there it is done, refuses a reply, has no time
  for the next operation, or makes a last call that fails.

  Proved: every run of an exchange comes to such an end (`Goes.course`), a run goes on from
  wherever it has come (`Comes.goes`), and the octets that were read decide as they would all
  at once (`Comes.verdict`), so that a refused reply is never a timeout
  (`Route.exchange_refusal`).
-/

namespace SocksTunnel

/-- The octets that a call returned. -/
def Call.data : Call → Bytes
  | read _ (.done data) => data
  | _ => []

namespace Exchange

/-- The phase of the operation that comes next, if one does. -/
def phase? : Exchange → Option Phase
  | done _ | fail _ _ => none
  | send _ _ => some .write
  | receive _ _ => some .read

/-- The calls complete, what they return is accepted, and the exchange goes on with what is left of it. -/
inductive Comes : Exchange → List Call → Exchange → Prop
  | start {x} : Comes x [] x
  | wrote {payload next calls rest} : Comes next calls rest → Comes (send payload next) (.wrote payload :: calls) rest
  | got {next calls rest} (data : Bytes) : Comes (next data) calls rest →
      Comes (receive data.length next) (.got data :: calls) rest

/-- How an exchange ends that comes no further: by itself, for want of time, or with a call that fails. -/
inductive Ends (t : Timeouts) : Exchange → List Call → Except Failure Unit → Prop
  | done {e} : Ends t (done e) [] (.ok ())
  | fail {e f} : Ends t (fail e f) [] (.error (.handshake f))
  | unstarted {x p} : x.phase? = some p → (t.get p).isZero = true →
      Ends t x [] (.error (.handshake (.timeout p (t.get p))))
  | failed {x c f} : x.phase? = some c.phase → c.failure t = some f → Ends t x [c] (.error f)

variable {t : Timeouts} {x rest : Exchange} {done calls : List Call} {out : Except Failure Unit}

theorem Comes.failure (h : x.Comes done rest) {c : Call} (hc : c ∈ done) : c.failure t = none := by
  induction h with
  | start => exact absurd hc List.not_mem_nil
  | wrote _ ih =>
    rcases List.mem_cons.mp hc with rfl | hc
    · rfl
    · exact ih hc
  | got data _ ih =>
    rcases List.mem_cons.mp hc with rfl | hc
    · exact Call.failure_got t data
    · exact ih hc

/-- What was read and what is still to come decide as they would all at once. -/
theorem Comes.verdict (h : x.Comes done rest) (b : Bytes) :
    (x.verdict (done.flatMap Call.data ++ b) []).error = (rest.verdict b []).error ∧
      (x.verdict (done.flatMap Call.data ++ b) []).left = (rest.verdict b []).left := by
  induction h with
  | start => exact ⟨rfl, rfl⟩
  | @wrote payload next calls rest _ ih =>
    have hb : (Call.wrote payload :: calls).flatMap Call.data ++ b ++ [] = calls.flatMap Call.data ++ b := by
      rw [List.flatMap_cons, List.append_nil]
      rfl
    show (next.verdict (_ ++ []) []).error = _ ∧ (next.verdict (_ ++ []) []).left = _
    rw [hb]
    exact ih
  | @got next calls rest data _ ih =>
    have hb : (Call.got data :: calls).flatMap Call.data ++ b = data ++ (calls.flatMap Call.data ++ b) := by
      rw [List.flatMap_cons, List.append_assoc]
      rfl
    rw [hb, Exchange.verdict, if_neg (by simp), List.take_left, List.drop_left]
    exact ih

theorem Goes.of_wrote {payload : Bytes} {next : Exchange} (h : (send payload next).Goes t (.wrote payload :: calls) out) :
    next.Goes t calls out := by
  generalize hl : Call.wrote payload :: calls = l at h
  cases h with
  | unstartedWrite _ => cases hl
  | wrote h =>
    cases hl
    exact h
  | failedWrite hf =>
    cases hl
    cases hf

theorem Goes.of_got {data : Bytes} {next : Bytes → Exchange}
    (h : (receive data.length next).Goes t (.got data :: calls) out) : (next data).Goes t calls out := by
  generalize hl : Call.got data :: calls = l at h
  generalize hx : receive data.length next = x at h
  cases h with
  | got data' h =>
    injection hx with _ hn
    injection hl with hd hc
    injection hd with _ hd
    cases hd
    rw [hn, hc]
    exact h
  | failedRead hf =>
    injection hl with hd
    rw [← hd, Call.failure_got] at hf
    cases hf
  | _ => cases hl

/-- A run goes on from wherever it has come. -/
theorem Comes.goes (h : x.Comes done rest) (hg : x.Goes t (done ++ calls) out) : rest.Goes t calls out := by
  induction h with
  | start => exact hg
  | wrote _ ih => exact ih hg.of_wrote
  | got data _ ih => exact ih hg.of_got

namespace Goes

/-- Every run comes as far as its calls complete and are accepted, and then to an end. -/
theorem course (h : x.Goes t calls out) :
    ∃ done rest last, x.Comes done rest ∧ calls = done ++ last ∧ rest.Ends t last out := by
  induction h with
  | done => exact ⟨[], _, [], .start, rfl, .done⟩
  | fail => exact ⟨[], _, [], .start, rfl, .fail⟩
  | unstartedWrite hz => exact ⟨[], _, [], .start, rfl, .unstarted (p := .write) rfl hz⟩
  | unstartedRead hz => exact ⟨[], _, [], .start, rfl, .unstarted (p := .read) rfl hz⟩
  | wrote _ ih =>
    obtain ⟨done, rest, last, hc, rfl, he⟩ := ih
    exact ⟨_, rest, last, .wrote hc, rfl, he⟩
  | got data _ ih =>
    obtain ⟨done, rest, last, hc, rfl, he⟩ := ih
    exact ⟨_, rest, last, .got data hc, rfl, he⟩
  | failedWrite hf => exact ⟨[], _, _, .start, rfl, .failed rfl hf⟩
  | failedRead hf => exact ⟨[], _, _, .start, rfl, .failed rfl hf⟩

/-- Where an operation comes next, there is no time for it, or it is the next call. -/
theorem next {p : Phase} (h : x.Goes t calls out) (hp : x.phase? = some p) :
    (calls = [] ∧ (t.get p).isZero = true ∧ out = .error (.handshake (.timeout p (t.get p)))) ∨
      ∃ c after, calls = c :: after ∧ c.phase = p ∧ ∀ f, c.failure t = some f → after = [] ∧ out = .error f := by
  cases h with
  | done | fail => cases hp
  | unstartedWrite hz | unstartedRead hz =>
    cases hp
    exact .inl ⟨rfl, hz, rfl⟩
  | wrote _ =>
    refine .inr ⟨_, _, rfl, Option.some.inj hp, fun f hf => ?_⟩
    cases hf
  | got data _ =>
    refine .inr ⟨_, _, rfl, Option.some.inj hp, fun f hf => ?_⟩
    rw [Call.failure_got] at hf
    cases hf
  | failedWrite hf | failedRead hf =>
    refine .inr ⟨_, [], rfl, Option.some.inj hp, fun g hg => ⟨rfl, ?_⟩⟩
    rw [Option.some.inj (hf.symm.trans hg)]

end Goes

end Exchange

/-! ## Refusals -/

/-- Whether an error says that the limit of a phase has passed. -/
def HandshakeError.isTimeout : HandshakeError → Bool
  | timeout _ _ => true
  | _ => false

namespace Reply

theorem statusError_refusal (status : UInt8) : (statusError status).any HandshakeError.isTimeout = false := by
  unfold statusError
  split
  · rfl
  · split <;> rfl

theorem judgeAddress_refusal (status : UInt8) (n : Nat) (b : Bytes) :
    (judgeAddress status n b).1.any HandshakeError.isTimeout = false := by
  unfold judgeAddress
  split
  · rfl
  · split
    · rfl
    · exact statusError_refusal status

theorem judge_refusal (b : Bytes) : (judge b).1.any HandshakeError.isTimeout = false := by
  have ha := judgeAddress_refusal
  unfold judge
  split
  · rfl
  split
  · rfl
  split
  · exact ha ..
  split
  · exact ha ..
  split
  · split
    · rfl
    · exact ha ..
  · rfl

theorem judgeMethod_refusal {b left : Bytes} {e : HandshakeError} (h : judgeMethod b = some (e, left)) :
    e.isTimeout = false := by
  unfold judgeMethod at h
  split at h
  · cases h
    rfl
  split at h
  · cases h
    rfl
  split at h
  · cases h
    rfl
  · cases h

theorem judge4_refusal (b : Bytes) : (judge4 b).1.any HandshakeError.isTimeout = false := by
  unfold judge4 statusError4
  split
  · rfl
  split
  · rfl
  split
  · rfl
  split <;> rfl

end Reply

theorem Socks5Request.verdict_refusal (r : Socks5Request) (first second : Bytes) :
    (r.verdict first second).error.any HandshakeError.isTimeout = false := by
  unfold verdict
  split
  · rename_i e left h
    exact Reply.judgeMethod_refusal h
  · exact Reply.judge_refusal second

/-- The exchange of a route is that of SOCKS5, or of SOCKS4 with the request that can be written. -/
theorem Route.exchange_cases {r : Route} {x : Exchange} (hx : r.exchange = .ok x) :
    (∃ request a p, r.protocol ≠ .socks5 ∧ r.request = .ok request ∧ x = .socks4 request a p) ∨
      ∃ d p, r.protocol = .socks5 ∧ x = .socks5 ⟨d, p⟩ := by
  cases r with
  | socks4 a p t =>
    rw [exchange_socks4] at hx
    obtain ⟨request, hr, rfl⟩ := Except.map_eq_ok_iff.mp hx
    exact .inl ⟨request, a, p, nofun, hr, rfl⟩
  | socks4User a p u t =>
    rw [exchange_socks4User] at hx
    obtain ⟨request, hr, rfl⟩ := Except.map_eq_ok_iff.mp hx
    exact .inl ⟨request, a, p, nofun, hr, rfl⟩
  | socks5 d p t => exact .inr ⟨d, p, rfl, (Except.ok.inj hx).symm⟩

/-- A handshake that can start goes as its exchange does. -/
theorem Route.goes_of_usable {σ : Type} [Transport σ] {r : Route} {x : Exchange} {t : Timeouts} (hx : r.exchange = .ok x)
    (ht : r.timeouts = .ok t) (s : Session (Observed σ)) :
    ∃ calls, (r.connect s).2.stream.calls = s.stream.calls ++ calls ∧ x.Goes t calls (r.connect s).1 := by
  rw [connect, hx, ht]
  exact Session.run_goes t x s

/-- A reply that a handshake refuses is never a timeout. -/
theorem Route.exchange_refusal {r : Route} {x : Exchange} (hx : r.exchange = .ok x) {done : List Call} {e : Option Entry}
    {f : HandshakeError} (h : x.Comes done (.fail e f)) : f.isTimeout = false := by
  -- the flaw is the verdict on what was read, and a verdict knows no time
  obtain ⟨hv, -⟩ := h.verdict []
  have hf : (x.verdict (done.flatMap Call.data ++ []) []).error.any HandshakeError.isTimeout = f.isTimeout := by
    rw [hv]
    rfl
  rw [← hf]
  rcases exchange_cases hx with ⟨request, a, p, -, -, rfl⟩ | ⟨d, p, -, rfl⟩
  · rw [Exchange.verdict_socks4]
    exact Reply.judge4_refusal _
  · rw [Exchange.verdict_socks5]
    exact Socks5Request.verdict_refusal ⟨d, p⟩ _ _

end SocksTunnel
