import SocksTunnel.Proofs.Script.Prompt

/-
  SocksTunnel.Proofs.Handshake.Accounting — the books of a session whose operations are carried out
  one after another, whether the ones before them failed or not. The stream is any script in which
  reads take their octets from the buffer: they may be late, time out or fail as they like, but
  have no data of their own and no end of data but that of the buffer.

  Proved: a failed operation is not counted, and after any operations the counts are those of the
  ones that succeeded. No octet is lost, doubled or out of order: those that were taken, with those
  that the end of data discarded, and the buffer behind them are the first buffer and the replies to
  the writes that succeeded (`octets_conserved`).
-/

namespace SocksTunnel

open Script

/-! ## Reads of the buffer -/

namespace Script

/-- Has no data of its own, and fails with anything but an end of data. -/
def Action.IsPlain (a : Action) : Prop := a.data = none ∧ ∀ part n, a.error ≠ some (.incomplete part n)

/-- Every read takes its octets from the buffer. -/
def Stream.IsPlain (s : Stream) : Prop := ∀ a ∈ s.reads, a.IsPlain

end Script

/-- The octets that were there at the end of the data. -/
def Outcome.part : Outcome Bytes → Bytes
  | .failed (.incomplete part _) => part
  | _ => []

namespace Script.Stream

variable {s : Stream}

theorem await_error {c c' : Clock} {limit : Option Time} {a : Action} {e : PeerError}
    (h : c.await limit a = (.failed e, c')) : e = .cancelled [] ∨ a.error = some e := by
  unfold Clock.await at h
  dsimp only at h
  split at h
  · cases h
    exact .inl rfl
  split at h
  · cases h
  split at h
  · cases h
    exact .inr ‹_›
  · cases h

/-- A write that succeeds brings the next reply; one that does not leaves the buffer and the replies as they are. -/
theorem write_cases (limit : Time) (payload : Bytes) (s : Stream) :
    (∃ s', s.write limit payload = (.done (), s') ∧ s'.reads = s.reads ∧
      s'.buffer = s.buffer ++ s.replies.headD [] ∧ s'.replies = s.replies.tail) ∨
    ∃ o s', s.write limit payload = (o, s') ∧ o ≠ .done () ∧ s'.reads = s.reads ∧ s'.buffer = s.buffer ∧
      s'.replies = s.replies := by
  simp only [write]
  split
  · left
    cases h : s.replies <;> exact ⟨_, rfl, by simp [see, arrive]⟩
  · rename_i o c hne ho
    exact .inr ⟨o, _, rfl, fun hd => hne () (hd ▸ rfl), rfl, rfl, rfl⟩

/-- A read takes exactly what was asked for, or all that is left if that is less, or nothing. -/
theorem read_cases (limit : Time) (n : Nat) (hs : s.IsPlain) :
    ∃ o s', s.read limit n = (o, s') ∧ s'.IsPlain ∧ s'.replies = s.replies ∧
      ((n ≤ s.buffer.length ∧ o = .done (s.buffer.take n) ∧ s'.buffer = s.buffer.drop n) ∨
       (s.buffer.length < n ∧ o = .failed (.incomplete s.buffer (some n)) ∧ s'.buffer = []) ∨
       (o = .expired ∨ ∃ e, o = .failed e ∧ ∀ part k, e ≠ .incomplete part k) ∧ s'.buffer = s.buffer) := by
  obtain ⟨ha, hrest⟩ := Action.forall_next hs ⟨rfl, nofun⟩
  simp only [read]
  split
  · rw [ha.1]
    by_cases hn : s.buffer.length < n
    · have hlt : (s.buffer.length : Int) < n := by omega
      simp only [take, see, hlt, if_true]
      exact ⟨_, _, rfl, hrest, rfl, .inr (.inl ⟨hn, rfl, rfl⟩)⟩
    · have hlt : ¬ (s.buffer.length : Int) < n := by omega
      have hcut : cut n s.buffer.length = n := by simp [cut]
      simp only [take, see, hlt, hcut, if_false]
      exact ⟨_, _, rfl, hrest, rfl, .inl ⟨by omega, rfl, rfl⟩⟩
  · exact ⟨_, _, rfl, hrest, rfl, .inr (.inr ⟨.inl rfl, rfl⟩)⟩
  · rename_i e c he
    refine ⟨_, _, rfl, hrest, rfl, .inr (.inr ⟨.inr ⟨e, rfl, ?_⟩, rfl⟩)⟩
    rintro part k rfl
    rcases await_error he with h | h
    · cases h
    · exact ha.2 part k h

end Script.Stream

namespace Session

/-! ## Operations -/

inductive Operation where
  | send (payload : Bytes)
  | receive (n : Nat)

/-- An operation and how it ended, a read with what the stream gave up for it. -/
inductive Deed where
  | send (payload : Bytes) (result : Except Failure Unit)
  | receive (n : Nat) (result : Except Failure Bytes) (part : Bytes)

namespace Deed

def operation : Deed → Operation
  | send payload _ => .send payload
  | receive n _ _ => .receive n

def failed : Deed → Bool
  | send _ (.error _) => true
  | receive _ (.error _) _ => true
  | _ => false

/-- The octets that were sent. -/
def sent : Deed → Nat
  | send payload (.ok _) => payload.length
  | _ => 0

/-- The octets that were received. -/
def received : Deed → Nat
  | receive n (.ok _) _ => n
  | _ => 0

/-- The octets that were returned, or discarded at the end of the data. -/
def taken : Deed → Bytes
  | receive _ (.ok data) _ => data
  | receive _ (.error (.handshake (.endOfStream _ _))) part => part
  | _ => []

/-- Whether a reply came. -/
def brings : Deed → Bool
  | send _ (.ok _) => true
  | _ => false

/-- A read returned exactly the octets that were asked for, or told how many there were at the end of the data. -/
def IsExact : Deed → Prop
  | receive n (.ok data) _ => data.length = n
  | receive n (.error (.handshake (.endOfStream expected got))) part => expected = n ∧ got = part.length ∧ part.length < n
  | _ => True

/-- Only an end of data discards anything. -/
theorem receive_failed {n : Nat} {f : Failure} (h : ∀ a b, f ≠ .handshake (.endOfStream a b)) (part : Bytes) :
    (receive n (.error f) part).taken = [] ∧ (receive n (.error f) part).IsExact := by
  unfold taken IsExact
  constructor
  · split <;> simp_all
  · split <;> simp_all

end Deed

variable {t : Timeouts} {s s' s'' : Session Stream} {ds es : List Deed}

/-- The octets that a read discards; with a limit of zero it does not touch the stream. -/
def discarded (limit : Duration) (n : Nat) (stream : Stream) : Bytes :=
  if limit.isZero then [] else (stream.read limit.milliseconds n).1.part

def perform (t : Timeouts) (op : Operation) (s : Session Stream) : Deed × Session Stream :=
  match op with
  | .send payload =>
    let (r, s') := s.send t.write payload
    (.send payload r, s')
  | .receive n =>
    let (r, s') := s.receive t.read n
    (.receive n r (discarded t.read n s.stream), s')

/-- Carries out operations in a row, also after failures. -/
def performAll (t : Timeouts) : List Operation → Session Stream → List Deed × Session Stream
  | [], s => ([], s)
  | op :: ops, s =>
    let (d, s) := s.perform t op
    let (ds, s) := performAll t ops s
    (d :: ds, s)

/-- The books between two moments: the counts have grown by what succeeded, and what was in the buffer or came into it
was taken or is still there. -/
structure Books (s : Session Stream) (ds : List Deed) (s' : Session Stream) : Prop where
  sent : s'.sent = s.sent + (ds.map Deed.sent).sum
  received : s'.received = s.received + (ds.map Deed.received).sum
  octets : ds.flatMap Deed.taken ++ s'.stream.buffer =
    s.stream.buffer ++ (s.stream.replies.take (ds.countP Deed.brings)).flatten
  replies : s'.stream.replies = s.stream.replies.drop (ds.countP Deed.brings)
  plain : s'.stream.IsPlain

theorem Books.append (h : Books s ds s') (h' : Books s' es s'') : Books s (ds ++ es) s'' := by
  refine ⟨?_, ?_, ?_, ?_, h'.plain⟩
  · rw [h'.sent, h.sent, List.map_append, List.sum_append, Nat.add_assoc]
  · rw [h'.received, h.received, List.map_append, List.sum_append, Nat.add_assoc]
  · rw [List.flatMap_append, List.append_assoc, h'.octets, ← List.append_assoc, h.octets, h.replies, List.append_assoc,
      ← List.flatten_append, List.countP_append, List.take_add]
  · rw [h'.replies, h.replies, List.drop_drop, List.countP_append]

theorem write_cases (limit : Duration) (payload : Bytes) (stream : Stream) :
    (∃ stream', write limit payload stream = (.ok (), stream') ∧ stream'.reads = stream.reads ∧
      stream'.buffer = stream.buffer ++ stream.replies.headD [] ∧ stream'.replies = stream.replies.tail) ∨
    ∃ f stream', write limit payload stream = (.error f, stream') ∧ stream'.reads = stream.reads ∧
      stream'.buffer = stream.buffer ∧ stream'.replies = stream.replies := by
  unfold write
  by_cases hz : limit.isZero = true
  · rw [if_pos hz]
    exact .inr ⟨_, _, rfl, rfl, rfl, rfl⟩
  rw [if_neg hz]
  rcases Stream.write_cases limit.milliseconds payload stream with ⟨s', he, h⟩ | ⟨o, s', he, hne, h⟩
  · rw [show Transport.write limit.milliseconds payload stream = (.done (), s') from he]
    exact .inl ⟨s', rfl, h⟩
  · rw [show Transport.write limit.milliseconds payload stream = (o, s') from he]
    cases o with
    | done => exact absurd rfl hne
    | expired => exact .inr ⟨_, s', rfl, h⟩
    | failed e => exact .inr ⟨_, s', rfl, h⟩

/-- An error that is no end of data is none for the session either. -/
theorem ofRead_ne_endOfStream {limit : Duration} {n : Int} {e : PeerError} (h : ∀ part k, e ≠ .incomplete part k)
    (a : Int) (b : Nat) : Failure.ofRead limit n e ≠ .handshake (.endOfStream a b) := by
  unfold Failure.ofRead
  split
  · exact absurd rfl (h _ _)
  · unfold Failure.ofPeer
    split
    · exact nofun
    split <;> exact nofun

theorem read_cases {stream : Stream} (limit : Duration) (n : Nat) (hs : stream.IsPlain) :
    ∃ r stream', read limit n stream = (r, stream') ∧ stream'.IsPlain ∧ stream'.replies = stream.replies ∧
      ((n ≤ stream.buffer.length ∧ r = .ok (stream.buffer.take n) ∧ stream'.buffer = stream.buffer.drop n) ∨
       (stream.buffer.length < n ∧ r = .error (.handshake (.endOfStream n stream.buffer.length)) ∧
         discarded limit n stream = stream.buffer ∧ stream'.buffer = []) ∨
       (∃ f, r = .error f ∧ ∀ a b, f ≠ .handshake (.endOfStream a b)) ∧ stream'.buffer = stream.buffer) := by
  unfold read discarded
  by_cases hz : limit.isZero = true
  · simp only [hz, if_true]
    exact ⟨_, _, rfl, hs, rfl, .inr (.inr ⟨⟨_, rfl, nofun⟩, rfl⟩)⟩
  simp only [hz, Bool.false_eq_true, if_false]
  obtain ⟨o, s', he, hplain, hreplies, h⟩ := Stream.read_cases limit.milliseconds n hs
  rw [show Transport.read limit.milliseconds (n : Int) stream = (o, s') from he, he]
  rcases h with ⟨hn, rfl, hbuffer⟩ | ⟨hn, rfl, hbuffer⟩ | ⟨rfl | ⟨e, rfl, hne⟩, hbuffer⟩
  · have hx : exactly n (stream.buffer.take n) = .ok (stream.buffer.take n) := by
      have hl : (stream.buffer.take n).length = n := List.length_take_of_le hn
      simp [exactly, hl]
    exact ⟨_, s', rfl, hplain, hreplies, .inl ⟨hn, hx, hbuffer⟩⟩
  · exact ⟨_, s', rfl, hplain, hreplies, .inr (.inl ⟨hn, rfl, rfl, hbuffer⟩)⟩
  · exact ⟨_, s', rfl, hplain, hreplies, .inr (.inr ⟨⟨_, rfl, nofun⟩, hbuffer⟩)⟩
  · exact ⟨_, s', rfl, hplain, hreplies, .inr (.inr ⟨⟨_, rfl, ofRead_ne_endOfStream hne⟩, hbuffer⟩)⟩

theorem flatten_take_one (l : List Bytes) : (l.take 1).flatten = l.headD [] := by
  cases l <;> simp

theorem books_send (payload : Bytes) (hs : s.stream.IsPlain) :
    Books s [(s.perform t (.send payload)).1] (s.perform t (.send payload)).2 := by
  simp only [perform, send]
  rcases write_cases t.write payload s.stream with
    ⟨s', he, hreads, hbuffer, hreplies⟩ | ⟨f, s', he, hreads, hbuffer, hreplies⟩
  · rw [he]
    refine ⟨rfl, rfl, ?_, ?_, fun a ha => hs a (hreads ▸ ha)⟩
    · simpa [Deed.taken, Deed.brings, note, flatten_take_one] using hbuffer
    · simpa [Deed.brings, note] using hreplies
  · rw [he]
    refine ⟨rfl, rfl, ?_, ?_, fun a ha => hs a (hreads ▸ ha)⟩
    · simpa [Deed.taken, Deed.brings] using hbuffer
    · simpa [Deed.brings] using hreplies

theorem books_receive (n : Nat) (hs : s.stream.IsPlain) :
    Books s [(s.perform t (.receive n)).1] (s.perform t (.receive n)).2 ∧ (s.perform t (.receive n)).1.IsExact := by
  simp only [perform, receive]
  obtain ⟨r, s', he, hplain, hreplies, h⟩ := read_cases t.read n hs
  rw [he]
  rcases h with ⟨hn, rfl, hbuffer⟩ | ⟨hn, rfl, hpart, hbuffer⟩ | ⟨⟨f, rfl, hne⟩, hbuffer⟩
  · have hl : (s.stream.buffer.take n).length = n := List.length_take_of_le hn
    refine ⟨⟨rfl, ?_, ?_, hreplies, hplain⟩, hl⟩
    · simp [note, hl, Deed.received]
    · simp [note, Deed.taken, Deed.brings, hbuffer]
  · refine ⟨⟨rfl, rfl, ?_, hreplies, hplain⟩, rfl, ?_, ?_⟩
    · simp [Deed.taken, Deed.brings, hpart, hbuffer]
    · rw [hpart]
    · rwa [hpart]
  · obtain ⟨htaken, hexact⟩ := Deed.receive_failed hne (n := n) (discarded t.read n s.stream)
    refine ⟨⟨rfl, rfl, ?_, hreplies, hplain⟩, hexact⟩
    simp [htaken, Deed.brings, hbuffer]

theorem operation_perform (op : Operation) (s : Session Stream) : (s.perform t op).1.operation = op := by
  cases op <;> rfl

/-- One operation keeps the books. -/
theorem books_perform (op : Operation) (hs : s.stream.IsPlain) :
    Books s [(s.perform t op).1] (s.perform t op).2 ∧ (s.perform t op).1.IsExact := by
  cases op with
  | send payload => exact ⟨books_send payload hs, trivial⟩
  | receive n => exact books_receive n hs

theorem count_of_failed {d : Deed} (h : d.failed = true) : d.sent = 0 ∧ d.received = 0 := by
  unfold Deed.failed at h
  split at h
  · exact ⟨rfl, rfl⟩
  · exact ⟨rfl, rfl⟩
  · cases h

theorem counts_of_failed (op : Operation) (hs : s.stream.IsPlain) (h : (s.perform t op).1.failed = true) :
    (s.perform t op).2.sent = s.sent ∧ (s.perform t op).2.received = s.received := by
  obtain ⟨hbooks, -⟩ := books_perform (t := t) op hs
  obtain ⟨hsent, hreceived⟩ := count_of_failed h
  exact ⟨by simpa [hsent] using hbooks.sent, by simpa [hreceived] using hbooks.received⟩

/-! ## Operations in a row -/

theorem books_refl (hs : s.stream.IsPlain) : Books s [] s :=
  ⟨rfl, rfl, by simp, rfl, hs⟩

/-- By induction over the operations: each starts from the books of those before it. -/
theorem books_performAll (ops : List Operation) (hs : s.stream.IsPlain) :
    Books s (s.performAll t ops).1 (s.performAll t ops).2 ∧ (∀ d ∈ (s.performAll t ops).1, d.IsExact) ∧
      (s.performAll t ops).1.map Deed.operation = ops := by
  induction ops generalizing s with
  | nil => exact ⟨books_refl hs, fun d hd => absurd hd List.not_mem_nil, rfl⟩
  | cons op ops ih =>
    obtain ⟨hbooks, hexact⟩ := books_perform (t := t) op hs
    obtain ⟨hrest, hall, hops⟩ := ih hbooks.plain
    refine ⟨hbooks.append hrest, fun d hd => ?_, ?_⟩
    · rcases List.mem_cons.mp hd with rfl | hd
      · exact hexact
      · exact hall d hd
    · exact congrArg₂ List.cons (operation_perform op s) hops

/-- The last of some operations starts where the others ended. -/
theorem performAll_concat (ops : List Operation) (op : Operation) (s : Session Stream) :
    s.performAll t (ops ++ [op]) =
      ((s.performAll t ops).1 ++ [((s.performAll t ops).2.perform t op).1], ((s.performAll t ops).2.perform t op).2) := by
  induction ops generalizing s with
  | nil => rfl
  | cons o ops ih => simp only [List.cons_append, performAll, ih]

/-- After any operations on a new session the counts are the sums over those that succeeded. What was returned, and
what was discarded at the end of the data, together with the buffer behind it are the octets of the first buffer and of
the replies to the writes that succeeded, in their order. One more operation, if it fails, changes no count. -/
theorem octets_conserved (t : Timeouts) (stream : Stream) (h : stream.IsPlain) (ops : List Operation) :
    let deeds := ((start stream).performAll t ops).1
    let s := ((start stream).performAll t ops).2
    deeds.map Deed.operation = ops ∧ (∀ d ∈ deeds, d.IsExact) ∧
    s.sent = (deeds.map Deed.sent).sum ∧ s.received = (deeds.map Deed.received).sum ∧
    (deeds.flatMap Deed.taken ++ s.stream.buffer =
      stream.buffer ++ (stream.replies.take (deeds.countP Deed.brings)).flatten) ∧
    ∀ op, (start stream).performAll t (ops ++ [op]) = (deeds ++ [(s.perform t op).1], (s.perform t op).2) ∧
      ((s.perform t op).1.failed = true → (s.perform t op).2.sent = s.sent ∧ (s.perform t op).2.received = s.received) := by
  intro deeds s
  obtain ⟨hbooks, hexact, hops⟩ := books_performAll (t := t) ops (s := start stream) h
  refine ⟨hops, hexact, ?_, ?_, hbooks.octets, fun op => ⟨performAll_concat ops op _, counts_of_failed op hbooks.plain⟩⟩
  · exact hbooks.sent.trans (Nat.zero_add _)
  · exact hbooks.received.trans (Nat.zero_add _)

/-- A write that takes too long between two that do not, a read that fails, one that succeeds and one that takes too long;
then a read of more than there is. -/
theorem octets_conserved_mixed :
    let limits : Timeouts := ⟨.ten, .ten, .ten⟩
    let late : Action := ⟨20000, none, none⟩
    let lost : Action := ⟨0, some (.io (.ofWords .connectionReset [])), none⟩
    let stream : Stream := ⟨⟨0, none⟩, [9], [[1, 2, 3], [4]], [.prompt, late, .prompt], [lost, .prompt, late], []⟩
    let ops : List Operation := [.send [5, 1, 0], .receive 2, .receive 2, .send [7], .send [8], .receive 1]
    let deeds := ((start stream).performAll limits ops).1
    let s := ((start stream).performAll limits ops).2
    stream.IsPlain ∧ s.sent = 4 ∧ s.received = 2 ∧ deeds.flatMap Deed.taken ++ s.stream.buffer = [9, 1, 2, 3, 4] ∧
      deeds.flatMap Deed.taken = [9, 1] ∧ (s.perform limits (.receive 5)).1.taken = [2, 3, 4] ∧
      (s.perform limits (.receive 5)).1.failed = true ∧ (s.perform limits (.receive 5)).2.received = 2 := by
  intro limits late lost stream ops deeds s
  have hplain : stream.IsPlain := by
    intro a ha
    have hcases : a = lost ∨ a = .prompt ∨ a = late := by simpa [stream] using ha
    rcases hcases with rfl | rfl | rfl <;> exact ⟨rfl, nofun⟩
  obtain ⟨-, -, hsent, hreceived, hoctets, hnext⟩ := octets_conserved limits stream hplain ops
  have hfailed : (s.perform limits (.receive 5)).1.failed = true := by decide +kernel
  have hcount : s.received = 2 := hreceived.trans (by decide +kernel)
  refine ⟨hplain, hsent.trans (by decide +kernel), hcount, hoctets.trans (by decide +kernel), by decide +kernel,
    by decide +kernel, hfailed, ?_⟩
  exact ((hnext (.receive 5)).2 hfailed).2.trans hcount

end Session

end SocksTunnel
