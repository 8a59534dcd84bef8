import SocksTunnel.Proofs.Handshake.Course
import SocksTunnel.Proofs.Handshake.Order
import SocksTunnel.Proofs.Script.Network

/-
  SocksTunnel.Proofs.Handshake.Heard — what passes between a client and a scripted proxy while
  they make a tunnel: the messages that are written, and the octets that arrive. A network that
  is overheard keeps all octets that have arrived so far, whoever takes them.

  Proved: what has arrived is what reads took and what the buffer holds, through every operation
  that does not fail (`Overheard.Balanced.write`, `Overheard.Balanced.read`). A handshake writes
  the start of its requests, all of them if it succeeds (`Route.connect_written`), and one that
  succeeds has taken one reply that grants the tunnel, to its last octet and not beyond
  (`Route.connect_heard`).
-/

namespace SocksTunnel

open Script

/-! ## Replies -/

/-- The octets with which a proxy grants a tunnel along a route: in SOCKS4 eight, with a zero and the status for that in
front; in SOCKS5 the choice of no authentication and a reply with status 0. -/
def Route.Grants (r : Route) (reply : Bytes) : Prop :=
  match r.protocol with
  | .socks5 => ∃ rest, reply = 5 :: 0 :: rest ∧ Reply.IsReply 0 rest
  | _ => reply.length = 8 ∧ reply.octet 0 = 0 ∧ reply.octet 1 = 0x5a

/-- Where nothing is left of a verdict without a flaw, the octets are such a reply. -/
theorem Route.grants_of_verdict {r : Route} {x : Exchange} (hx : r.exchange = .ok x) {b : Bytes}
    (he : (x.verdict b []).error = none) (hl : (x.verdict b []).left = []) : r.Grants b := by
  unfold Grants
  rcases exchange_cases hx with ⟨request, a, p, hr, -, rfl⟩ | ⟨d, p, hr, rfl⟩
  · rw [Exchange.verdict_socks4, List.headD_nil, List.append_nil] at he hl
    obtain ⟨reply, hn, h0, h1, hb⟩ := Reply.judge4_eq_none he
    have hb : b = reply := by
      rw [hb, show (Reply.judge4 b).2 = [] from hl, List.append_nil]
    rw [hb]
    split
    · exact absurd ‹_› hr
    · exact ⟨hn, h0, h1⟩
  · rw [hr]
    rw [Exchange.verdict_socks5, List.headD_nil, List.append_nil, List.tail_nil, List.headD_nil, List.append_nil] at he hl
    unfold Socks5Request.verdict at he hl
    cases hm : Reply.judgeMethod b with
    | some e =>
      rw [hm] at he
      cases he
    | none =>
      rw [hm] at he hl
      obtain ⟨second, rfl⟩ := Reply.judgeMethod_eq_none_iff.mp hm
      obtain ⟨reply, rest, hs, hreply⟩ := Reply.judge_eq_none he
      obtain rfl : second = reply ++ rest := hs
      obtain rfl : rest = [] := by
        change (Reply.judge (reply ++ rest)).2 = [] at hl
        rwa [Reply.judge_append hreply] at hl
      exact ⟨_, rfl, (List.append_nil reply).symm ▸ hreply⟩

/-! ## Messages -/

/-- The message of a call that writes. -/
def Call.messages : Call → List Bytes
  | write payload _ => [payload]
  | read _ _ => []

theorem Call.Attempts.messages {c d : Call} (h : c.Attempts d) : c.messages = d.messages := by
  cases h <;> rfl

theorem Starts.messages {calls trace : List Call} (h : Starts calls trace) :
    calls.flatMap Call.messages <+: trace.flatMap Call.messages := by
  induction h with
  | nil => exact List.nil_prefix
  | last h =>
    rw [List.flatMap_singleton, List.flatMap_cons, h.messages]
    exact List.prefix_append _ _
  | cons _ _ ih =>
    rw [List.flatMap_cons, List.flatMap_cons]
    exact (List.prefix_append_right_inj _).mpr ih

theorem Trace.messages {offer : Option Bytes} {request : Bytes} {trace : List Call} (h : Trace offer request trace) :
    trace.flatMap Call.messages = offer.toList ++ [request] := by
  cases h with
  | socks4 _ => rfl
  | @socks5 greeting _ reply hr =>
    have hread : reply.flatMap Call.messages = [] := by
      rw [List.flatMap_eq_nil_iff]
      intro c hc
      obtain ⟨data, rfl⟩ := hr.reads c hc
      rfl
    simp only [List.flatMap_cons, hread]
    rfl

namespace Script.Network

/-- Reads write nothing. -/
theorem written_readExactly (limit : Time) (k : Nat) (n : Network) :
    (n.readExactly (some limit) k).2.written = n.written := by
  obtain ⟨o, now, r, h, -⟩ := readExactly_reads limit k n
  rw [h]

theorem written_readSome (limit : Time) (n : Network) :
    (n.readSome (some limit) blockSize).2.written = n.written := by
  obtain ⟨o, now, r, h, -⟩ := readSome_reads limit (k := blockSize) (by decide) n
  rw [h]

end Script.Network

/-- A handshake writes the start of its requests, and all of them if it succeeds. -/
theorem Route.connect_written (r : Route) {request : Bytes} (hr : r.request = .ok request) (n : Network) :
    let out := r.connect (Session.start n)
    ∃ messages, out.2.stream.written = n.written ++ messages ∧ messages <+: r.offer.toList ++ [request] ∧
      (out.1 = .ok () → messages = r.offer.toList ++ [request]) := by
  intro out
  have h := r.connect_agrees Observed.bisimulates (s := Session.start (Observed.start n)) (u := Session.start n)
    ⟨rfl, rfl, rfl, rfl⟩
  have hk : (r.connect (Session.start (Observed.start n))).2.stream.stream.written =
      n.written ++ (r.connect (Session.start (Observed.start n))).2.stream.calls.flatMap Call.messages := by
    refine r.connect_keeps (P := fun o : Observed Network => o.stream.written = n.written ++ o.calls.flatMap Call.messages)
      (fun t _ _ payload o ho => ?_) (fun t _ _ k o ho => ?_) (List.append_nil _).symm
    · show (o.stream.write _ payload).2.written = _ ++ (o.calls ++ [_]).flatMap _
      rw [Network.written_write, ho, List.flatMap_append, List.append_assoc]
      rfl
    · show (o.stream.readExactly _ k).2.written = _ ++ (o.calls ++ [_]).flatMap _
      rw [Network.written_readExactly, ho, List.flatMap_append]
      exact congrArg _ (List.append_nil _).symm
  obtain ⟨trace, ht, hs, hok⟩ := r.connect_starts n hr
  refine ⟨_, by rw [← h.snd.stream, hk], ht.messages ▸ hs.messages, fun ho => ?_⟩
  rw [hok (h.fst.trans ho), ht.messages]

/-! ## Octets -/

namespace Script.Network

/-- The octets that have arrived from one moment to a later one: what the reader accepts of the batches that are no
longer to come. -/
def arrived (n m : Network) : Bytes := n.reader.hears (n.reader.due (n.reader.arrivals.length - m.reader.arrivals.length))

theorem arrived_after {n m : Network} {k : Nat} (h : m.reader.arrivals = (n.reader.after k).arrivals) :
    n.arrived m = n.reader.hears (n.reader.due k) := by
  have hlen : n.reader.arrivals.length - m.reader.arrivals.length = min k n.reader.arrivals.length := by
    rw [h, Reader.after, List.length_drop]
    omega
  rw [arrived, hlen, Reader.due, Reader.due, ← List.take_eq_take_min]

theorem length_insert (t : Time) (c : Chunk) (bs : List Batch) : bs.length ≤ (Batch.insert t c bs).length := by
  induction bs with
  | nil => exact Nat.zero_le _
  | cons b bs ih =>
    unfold Batch.insert
    split
    · exact Nat.le_succ _
    split
    · exact Nat.le_refl _
    · exact Nat.succ_le_succ ih

theorem length_schedule (now : Time) (cs : List Chunk) (r : Reader) :
    r.arrivals.length ≤ (r.schedule now cs).arrivals.length := by
  induction cs generalizing r with
  | nil => exact Nat.le_refl _
  | cons c cs ih =>
    exact (length_insert _ _ _).trans (ih { r with arrivals := Batch.insert (now + c.delay) c r.arrivals })

/-- While a write takes place nothing arrives, and nothing is taken. -/
theorem arrived_write (limit : Time) (payload : Bytes) (n : Network) :
    n.arrived (n.write (some limit) payload).2 = [] ∧
      (n.write (some limit) payload).2.reader.buffer = n.reader.buffer := by
  have hnone : ∀ m : Network, n.reader.arrivals.length ≤ m.reader.arrivals.length → n.arrived m = [] := by
    intro m hm
    rw [arrived, Nat.sub_eq_zero_of_le hm]
    rfl
  rw [write_eq]
  dsimp only
  split
  · rw [reply_eq]
    exact ⟨hnone _ (length_schedule _ _ n.reader), rfl⟩
  · exact ⟨hnone _ (Nat.le_refl _), rfl⟩

/-- A read of exactly so many octets takes them from the front of what has arrived, or none if the time runs out. -/
theorem arrived_readExactly (limit : Time) (k : Nat) (n : Network) :
    (∃ e, (n.readExactly (some limit) k).1 = .failed e) ∨
      n.reader.buffer ++ n.arrived (n.readExactly (some limit) k).2 =
        (Call.read k (n.readExactly (some limit) k).1).data ++ (n.readExactly (some limit) k).2.reader.buffer := by
  obtain ⟨o, now, r, h, hreads⟩ := readExactly_reads limit k n
  rw [h]
  cases hreads with
  | @served j b s _ hf =>
    right
    have ha : n.arrived { n with now := now, reader := r } = n.reader.hears (n.reader.due j) := by
      apply arrived_after
      unfold Reader.finish at hf
      split at hf
      · cases hf
      · cases hf
        rfl
    rw [ha, ← Reader.buffer_feeds]
    unfold Reader.finish at hf
    split at hf
    · cases hf
    · cases hf
      exact (List.take_append_drop k _).symm
  | refused j _ _ => exact .inl ⟨_, rfl⟩
  | raised j _ => exact .inl ⟨_, rfl⟩
  | expired j =>
    right
    rw [arrived_after (m := { n with now := now, reader := n.reader.after j }) (k := j) rfl, ← Reader.buffer_feeds]
    rfl

/-- A read that returns takes at most a block from the front of what has arrived, and nothing only at the end of the
data, when there is nothing left. -/
theorem arrived_readSome {limit : Time} {n m : Network} {b : Bytes} (h : n.readSome (some limit) blockSize = (.done b, m)) :
    n.reader.buffer ++ n.arrived m = b ++ m.reader.buffer ∧ b.length ≤ blockSize ∧
      (b = [] → m.reader.isEnded = true ∧ m.reader.buffer = []) := by
  obtain ⟨o, now, r, hr, hreads⟩ := readSome_reads limit (k := blockSize) (by decide) n
  rw [hr] at h
  obtain ⟨rfl, rfl⟩ := Prod.mk.inj h
  cases hreads with
  | @served j b s hready hf =>
    cases hf
    refine ⟨?_, List.length_take_le _ _, fun hb => ?_⟩
    · rw [arrived_after (m := { n with now := now, reader := ((n.reader.after j).take blockSize).2 }) (k := j) rfl,
        ← Reader.buffer_feeds]
      exact (List.take_append_drop blockSize _).symm
    · have hempty : (n.reader.after j).buffer = [] := by
        rcases List.take_eq_nil_iff.mp hb with h | h
        · exact absurd h (by decide)
        · exact h
      refine ⟨hready.resolve_left ?_, ?_⟩
      · rw [hempty]
        exact Bool.false_ne_true
      · show (n.reader.after j).buffer.drop blockSize = []
        rw [hempty]
        rfl

end Script.Network

/-- A network with all octets that have arrived. -/
structure Overheard where
  network : Network
  heard : Bytes
  deriving Repr

namespace Overheard

/-- The network goes on, and what arrives meanwhile is kept. -/
def through {α : Type} (f : Network → α × Network) (o : Overheard) : α × Overheard :=
  ((f o.network).1, ⟨(f o.network).2, o.heard ++ o.network.arrived (f o.network).2⟩)

instance : Transport Overheard where
  write limit payload := through (Network.write (some limit) payload)
  read limit n := through (Network.readExactly (some limit) n)

def start (n : Network) : Overheard := ⟨n, []⟩

/-- Listening changes nothing. -/
theorem bisimulates : Bisimulates fun (o : Overheard) (n : Network) => o.network = n where
  write := by
    rintro limit payload o _ rfl
    exact ⟨_, _, _, rfl, rfl, rfl⟩
  read := by
    rintro limit n o _ rfl
    exact ⟨_, _, _, rfl, rfl, rfl⟩

/-- What has arrived is what was read and what is left in the buffer, unless a call has failed. -/
def Balanced (o : Observed Overheard) : Prop :=
  (∃ c ∈ o.calls, ∃ e, c.raised = some e) ∨
    o.stream.heard = o.calls.flatMap Call.data ++ o.stream.network.reader.buffer

variable {o : Observed Overheard}

theorem Balanced.write (h : Balanced o) (limit : Time) (payload : Bytes) :
    Balanced (Transport.write limit payload o).2 := by
  obtain ⟨ha, hb⟩ := o.stream.network.arrived_write limit payload
  rcases h with ⟨c, hc, e, he⟩ | h
  · exact .inl ⟨c, List.mem_append_left _ hc, e, he⟩
  · right
    show o.stream.heard ++ o.stream.network.arrived _ = (o.calls ++ [Call.write payload _]).flatMap Call.data ++ _
    rw [ha, List.append_nil, h, List.flatMap_append, List.flatMap_singleton, ← hb,
      show ∀ ending, (Call.write payload ending).data = [] from fun _ => rfl, List.append_nil]
    rfl

theorem Balanced.read (h : Balanced o) (limit : Time) (k : Nat) :
    Balanced (Transport.read limit (k : Int) o).2 := by
  rcases h with ⟨c, hc, e, he⟩ | h
  · exact .inl ⟨c, List.mem_append_left _ hc, e, he⟩
  rcases o.stream.network.arrived_readExactly limit k with ⟨e, he⟩ | ha
  · refine .inl ⟨.read k (o.stream.network.readExactly (some limit) k).1, ?_, e, by rw [he]; rfl⟩
    exact List.mem_append_right _ (List.mem_singleton_self _)
  · right
    show o.stream.heard ++ o.stream.network.arrived _ = (o.calls ++ [Call.read k _]).flatMap Call.data ++ _
    rw [h, List.append_assoc, ha, List.flatMap_append, List.flatMap_singleton, List.append_assoc]
    rfl

end Overheard

/-- A handshake that succeeds has taken the reply that grants the tunnel; what else has arrived is in the buffer. -/
theorem Route.connect_heard {r : Route} {x : Exchange} {t : Timeouts} (hx : r.exchange = .ok x) (ht : r.timeouts = .ok t)
    {n : Network} (hn : n.reader.buffer = []) (hok : (r.connect (Session.start n)).1 = .ok ()) :
    ∃ reply, r.Grants reply ∧ (r.connect (Session.start (Overheard.start n))).2.stream.heard =
      reply ++ (r.connect (Session.start n)).2.stream.reader.buffer := by
  have hover := r.connect_agrees Overheard.bisimulates (s := Session.start (Overheard.start n)) (u := Session.start n)
    ⟨rfl, rfl, rfl, rfl⟩
  have hseen := r.connect_agrees Observed.bisimulates (s := Session.start (Observed.start (Overheard.start n)))
    (u := Session.start (Overheard.start n)) ⟨rfl, rfl, rfl, rfl⟩
  have hbalanced : Overheard.Balanced (r.connect (Session.start (Observed.start (Overheard.start n)))).2.stream :=
    r.connect_keeps (fun _ _ _ payload _ h => h.write _ payload) (fun _ _ _ k _ h => h.read _ k) (.inr hn.symm)
  obtain ⟨calls, hc, hg⟩ := goes_of_usable hx ht (Session.start (Observed.start (Overheard.start n)))
  rw [hseen.fst.trans (hover.fst.trans hok)] at hg
  obtain ⟨done, rest, last, hcomes, rfl, hends⟩ := hg.course
  rw [← hseen.snd.stream, ← hover.snd.stream, ← hseen.snd.stream]
  cases hends with
  | done =>
    rw [List.append_nil] at hc
    change _ = done at hc
    rcases hbalanced with ⟨c, hmem, e, he⟩ | hb
    · -- a call that raised would have ended the handshake
      rw [hc] at hmem
      rw [Call.raised_of_failure_eq_none (hcomes.failure (t := t) hmem)] at he
      cases he
    · rw [hc] at hb
      obtain ⟨he, hl⟩ := hcomes.verdict []
      rw [List.append_nil] at he hl
      exact ⟨_, grants_of_verdict hx he hl, hb⟩

end SocksTunnel
