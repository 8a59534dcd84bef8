import SocksTunnel.Proofs.Script.Reader
import SocksTunnel.Proofs.Script.Timing

/-
  SocksTunnel.Proofs.Script.Network — a scripted network below a tunnel: what a tunnel does to
  it, and what it leaves alone. Once there is a connection, a tunnel writes and reads under
  limits and does nothing else; opening and closing are left to those around it.

  Proved: a write ends by the fate of its action (`write_eq`) and so does the attempt to
  connect (`connect_eq`). If a plan fails by errors of input and output alone, so do all
  operations of the network, but for data that ends too early (`FailsByIo.write`,
  `FailsByIo.readExactly`, `FailsByIo.readSome`). Operations change neither what was connected to nor
  whether it is closed (`steady_sameLink`), and closing counts in none of them
  (`simulates_withClosing`).
-/

namespace SocksTunnel.Script

/-! ## Relations between networks -/

namespace Network

/-- Related networks end every operation of a tunnel alike, and stay related. -/
structure Simulates (R : Network → Network → Prop) : Prop where
  write : ∀ (limit : Time) (payload : Bytes) {n m : Network}, R n m →
    SameEnd R (n.write (some limit) payload) (m.write (some limit) payload)
  readExactly : ∀ (limit : Time) (k : Nat) {n m : Network}, R n m →
    SameEnd R (n.readExactly (some limit) k) (m.readExactly (some limit) k)
  readSome : ∀ (limit : Time) {n m : Network}, R n m →
    SameEnd R (n.readSome (some limit) blockSize) (m.readSome (some limit) blockSize)

theorem Simulates.under {R : Network → Network → Prop} (h : Simulates R) (t : Timeouts) : BisimulatesUnder t R :=
  ⟨fun _ payload _ _ hr => h.write _ payload hr, fun _ k _ _ hr => h.readExactly _ k hr⟩

/-- What every operation of a tunnel keeps. -/
structure Steady (P : Network → Prop) : Prop where
  write : ∀ (limit : Time) (payload : Bytes) {n : Network}, P n → P (n.write (some limit) payload).2
  readExactly : ∀ (limit : Time) (k : Nat) {n : Network}, P n → P (n.readExactly (some limit) k).2
  readSome : ∀ (limit : Time) {n : Network}, P n → P (n.readSome (some limit) blockSize).2

theorem Steady.simulates {P : Network → Prop} (h : Steady P) : Simulates fun n m => n = m ∧ P n where
  write := by
    rintro limit payload n _ ⟨rfl, hn⟩
    exact ⟨_, _, _, rfl, rfl, rfl, h.write limit payload hn⟩
  readExactly := by
    rintro limit k n _ ⟨rfl, hn⟩
    exact ⟨_, _, _, rfl, rfl, rfl, h.readExactly limit k hn⟩
  readSome := by
    rintro limit n _ ⟨rfl, hn⟩
    exact ⟨_, _, _, rfl, rfl, rfl, h.readSome limit hn⟩

/-! ## Operations -/

theorem await_some (limit : Time) (a : Action) (n : Network) :
    await (some limit) a n = (a.fate limit, { n with now := n.now + min a.delay limit }) := by
  have h : Clock.await ⟨n.now, none⟩ (some limit) a = _ := Clock.await_uncancelled rfl limit a
  rw [await, h]

theorem await_none (a : Action) (n : Network) :
    await none a n = (match a.error with
      | some e => .failed e
      | none => .done (), { n with now := n.now + a.delay }) := by
  simp only [await, Clock.await, Clock.cancels, Option.filter_none, Clock.isLate, Clock.span]
  cases a.error <;> rfl

theorem reply_eq (n : Network) :
    n.reply = { n with plan := { n.plan with replies := n.plan.replies.tail },
                       reader := n.reader.schedule n.now (n.plan.replies.headD []) } := by
  obtain ⟨⟨_, _, _, replies, _⟩, _⟩ := n
  cases replies <;> rfl

/-- A write ends by the fate of its action, and the next reply sets out if that is done. -/
theorem write_eq (limit : Time) (payload : Bytes) (n : Network) :
    let a := (Action.next n.plan.drains).1
    let m : Network := { hand payload n with now := n.now + min a.delay limit }
    n.write (some limit) payload = (a.fate limit, if a.fate limit = .done () then m.reply else m) := by
  simp only [write, await_some]
  cases hf : (Action.next n.plan.drains).1.fate limit with
  | done u =>
    rw [if_pos rfl]
    rfl
  | expired =>
    rw [if_neg nofun]
    rfl
  | failed e =>
    rw [if_neg nofun]
    rfl

/-- The attempt to connect ends by the fate of its action, and the proxy starts to speak if that is done. -/
theorem connect_eq (limit : Time) (proxy : Endpoint) (n : Network) :
    let a := n.plan.connecting
    let m : Network := { n with connects := n.connects ++ [proxy], now := n.now + min a.delay limit }
    n.connect limit proxy = (a.fate limit,
      if a.fate limit = .done () then { m with isClosing := some false, reader := m.reader.schedule m.now m.plan.initial }
      else m) := by
  simp only [connect, await_some]
  cases hf : n.plan.connecting.fate limit with
  | done u => rw [if_pos rfl]
  | expired => rw [if_neg nofun]
  | failed e => rw [if_neg nofun]

/-! ## What a tunnel leaves alone -/

/-- The same connections, equally closed, and the same way of closing. -/
structure SameLink (n m : Network) : Prop where
  connects : m.connects = n.connects
  isClosing : m.isClosing = n.isClosing
  closeCalls : m.closeCalls = n.closeCalls
  closing : m.plan.closing = n.plan.closing

theorem SameLink.refl (n : Network) : SameLink n n := ⟨rfl, rfl, rfl, rfl⟩

/-- Whatever a tunnel does, the connection stays as it is. -/
theorem steady_sameLink (n : Network) : Steady (SameLink n) where
  write limit payload m h := by
    rw [write_eq]
    dsimp only
    split
    · rw [reply_eq]
      exact ⟨h.connects, h.isClosing, h.closeCalls, h.closing⟩
    · exact ⟨h.connects, h.isClosing, h.closeCalls, h.closing⟩
  readExactly limit k m h := by
    obtain ⟨o, now, r, hr, -⟩ := readExactly_reads limit k m
    rw [hr]
    exact ⟨h.connects, h.isClosing, h.closeCalls, h.closing⟩
  readSome limit m h := by
    obtain ⟨o, now, r, hr, -⟩ := readSome_reads limit (k := blockSize) (by decide) m
    rw [hr]
    exact ⟨h.connects, h.isClosing, h.closeCalls, h.closing⟩

/-- The network with another way of closing. -/
def withClosing (a : Action) (n : Network) : Network := { n with plan := { n.plan with closing := a } }

theorem write_withClosing (a : Action) (limit : Time) (payload : Bytes) (n : Network) :
    (n.withClosing a).write (some limit) payload =
      ((n.write (some limit) payload).1, (n.write (some limit) payload).2.withClosing a) := by
  have h := write_eq limit payload n
  dsimp only at h
  rw [h, write_eq]
  by_cases hf : (Action.next n.plan.drains).1.fate limit = .done ()
  · have hf' : (Action.next (n.withClosing a).plan.drains).1.fate limit = .done () := hf
    simp only [if_pos hf, if_pos hf', reply_eq]
    rfl
  · have hf' : ¬ (Action.next (n.withClosing a).plan.drains).1.fate limit = .done () := hf
    simp only [if_neg hf, if_neg hf']
    rfl

/-- The network with another clock and reader. -/
def withReader (m n : Network) : Network := { m with now := n.now, reader := n.reader }

/-- A read depends on the clock and the reader, and on nothing else of the network. -/
theorem readWhen_withReader (limit : Option Time) (enough : Reader → Bool)
    (finish : Reader → Except PeerError Bytes × Reader) (m n : Network) :
    (m.withReader n).readWhen limit enough finish =
      ((n.readWhen limit enough finish).1, m.withReader (n.readWhen limit enough finish).2) := by
  have hn : (m.withReader n).reader = n.reader ∧ (m.withReader n).now = n.now := ⟨rfl, rfl⟩
  unfold readWhen
  rw [hn.1, hn.2]
  dsimp only
  split
  · rcases finish n.reader with ⟨_ | b, r⟩ <;> rfl
  · rcases n.reader.await (limit.map (n.now + ·)) enough n.reader.arrivals with ⟨w, r⟩
    cases w with
    | ready t => rcases hf : finish r with ⟨_ | b, r'⟩ <;> simp only [hf] <;> rfl
    | failed t e => rfl
    | expired t => rfl
    | stuck => rfl

theorem readOnce_withReader (limit : Option Time) (k : Nat) (enough : Reader → Bool)
    (finish : Reader → Except PeerError Bytes × Reader) (m n : Network) :
    (m.withReader n).readOnce limit k enough finish =
      ((n.readOnce limit k enough finish).1, m.withReader (n.readOnce limit k enough finish).2) := by
  have hu : (m.withReader n).updated = m.withReader n.updated := rfl
  have hr : (m.withReader n.updated).reader = n.updated.reader := rfl
  unfold readOnce
  rw [hu, hr]
  cases n.updated.reader.broken with
  | some e => rfl
  | none =>
    dsimp only
    split
    · rfl
    · exact readWhen_withReader ..

theorem readExactly_withReader (limit : Option Time) (k : Nat) (m n : Network) :
    (m.withReader n).readExactly limit k = ((n.readExactly limit k).1, m.withReader (n.readExactly limit k).2) := by
  rw [readExactly_eq, readExactly_eq, readOnce_withReader]

theorem readSome_withReader (limit : Option Time) (k : Nat) (m n : Network) :
    (m.withReader n).readSome limit k = ((n.readSome limit k).1, m.withReader (n.readSome limit k).2) := by
  rw [readSome_eq, readSome_eq, readOnce_withReader]

/-- How closing goes counts in no operation of a tunnel. -/
theorem simulates_withClosing (a : Action) : Simulates fun n m => m = n.withClosing a where
  write := by
    rintro limit payload n _ rfl
    exact ⟨_, _, _, rfl, write_withClosing a limit payload n, rfl⟩
  readExactly := by
    rintro limit k n _ rfl
    obtain ⟨o, now, r, h, -⟩ := readExactly_reads limit k n
    have hm := readExactly_withReader (some limit) k (n.withClosing a) n
    rw [h] at hm
    exact ⟨o, _, _, h, hm, rfl⟩
  readSome := by
    rintro limit n _ rfl
    obtain ⟨o, now, r, h, -⟩ := readSome_reads limit (k := blockSize) (by decide) n
    have hm := readSome_withReader (some limit) blockSize (n.withClosing a) n
    rw [h] at hm
    exact ⟨o, _, _, h, hm, rfl⟩

end Network

/-! ## Errors of input and output -/

def Action.FailsByIo (a : Action) : Prop := a.error.all PeerError.isIo = true

def Chunk.FailsByIo (c : Chunk) : Prop := c.error.all PeerError.isIo = true

instance (a : Action) : Decidable a.FailsByIo := inferInstanceAs (Decidable (_ = true))

instance (c : Chunk) : Decidable c.FailsByIo := inferInstanceAs (Decidable (_ = true))

/-- All errors of a plan are errors of input and output. -/
structure Plan.FailsByIo (p : Plan) : Prop where
  connecting : p.connecting.FailsByIo
  initial : ∀ c ∈ p.initial, c.FailsByIo
  drains : ∀ a ∈ p.drains, a.FailsByIo
  replies : ∀ cs ∈ p.replies, ∀ c ∈ cs, c.FailsByIo
  closing : p.closing.FailsByIo

/-- The error of a reader, if there is one, is one of input and output, and so are those still to come. -/
structure Reader.FailsByIo (r : Reader) : Prop where
  broken : r.broken.all PeerError.isIo = true
  arrivals : ∀ c ∈ r.arrivals.flatMap Batch.chunks, c.FailsByIo

/-- All errors that a network may still come to are errors of input and output. -/
structure Network.FailsByIo (n : Network) : Prop where
  reader : n.reader.FailsByIo
  drains : ∀ a ∈ n.plan.drains, a.FailsByIo
  replies : ∀ cs ∈ n.plan.replies, ∀ c ∈ cs, c.FailsByIo
  closing : n.plan.closing.FailsByIo

theorem Action.FailsByIo.fate {a : Action} (h : a.FailsByIo) {limit : Time} {e : PeerError} (he : a.fate limit = .failed e) :
    e.isIo = true := by
  unfold Action.fate at he
  split at he
  · cases he
  · split at he
    · rename_i e' ha
      cases he
      rw [FailsByIo, ha] at h
      exact h
    · cases he

namespace Reader

theorem mem_insert {t : Time} {c d : Chunk} {bs : List Batch} (h : d ∈ (Batch.insert t c bs).flatMap Batch.chunks) :
    d = c ∨ d ∈ bs.flatMap Batch.chunks := by
  induction bs with
  | nil => exact .inl (by simpa [Batch.insert] using h)
  | cons b bs ih =>
    unfold Batch.insert at h
    split at h
    · simpa using h
    split at h
    · simp only [List.flatMap_cons, List.mem_append, List.mem_singleton] at h ⊢
      tauto
    · rw [List.flatMap_cons, List.mem_append] at h
      rw [List.flatMap_cons, List.mem_append]
      rcases h with h | h
      · exact .inr (.inl h)
      · exact (ih h).imp_right .inr

theorem mem_schedule {now : Time} {cs : List Chunk} {r : Reader} {d : Chunk}
    (h : d ∈ (r.schedule now cs).arrivals.flatMap Batch.chunks) : d ∈ cs ∨ d ∈ r.arrivals.flatMap Batch.chunks := by
  induction cs generalizing r with
  | nil => exact .inr h
  | cons c cs ih =>
    rcases @ih { r with arrivals := Batch.insert (now + c.delay) c r.arrivals } h with h | h
    · exact .inl (List.mem_cons_of_mem c h)
    · rcases mem_insert h with rfl | h
      · exact .inl List.mem_cons_self
      · exact .inr h

variable {r : Reader}

theorem FailsByIo.schedule (h : r.FailsByIo) (now : Time) {cs : List Chunk} (hc : ∀ c ∈ cs, c.FailsByIo) :
    (r.schedule now cs).FailsByIo where
  broken := h.broken
  arrivals c hm := (mem_schedule hm).elim (hc c) (h.arrivals c)

theorem FailsByIo.of_error (h : r.FailsByIo) {k : Nat} {e : PeerError}
    (he : r.broken = some e ∨ ∃ c ∈ r.due k, c.error = some e) : e.isIo = true := by
  rcases he with he | ⟨c, hc, he⟩
  · have hb := h.broken
    rw [he] at hb
    exact hb
  · have hmem : c ∈ r.arrivals.flatMap Batch.chunks := by
      obtain ⟨b, hb, hc⟩ := List.mem_flatMap.mp hc
      exact List.mem_flatMap.mpr ⟨b, List.mem_of_mem_take hb, hc⟩
    have hf := h.arrivals c hmem
    rw [Chunk.FailsByIo, he] at hf
    exact hf

theorem FailsByIo.after (h : r.FailsByIo) (k : Nat) : (r.after k).FailsByIo where
  broken := by
    rw [Option.all_eq_true]
    intro e he
    exact h.of_error (broken_feeds he)
  arrivals c hc := by
    obtain ⟨b, hb, hc⟩ := List.mem_flatMap.mp hc
    exact h.arrivals c (List.mem_flatMap.mpr ⟨b, List.mem_of_mem_drop hb, hc⟩)

/-- A read that takes from the buffer alone keeps this, and fails by an error of input and output unless it gives up
what it was asked for. -/
theorem Reads.failsByIo {enough : Reader → Bool} {finish : Reader → Except PeerError Bytes × Reader} {o : Outcome Bytes}
    {s : Reader} (h : Reads enough finish r o s) (hr : r.FailsByIo)
    (hf : ∀ r, (finish r).2.broken = r.broken ∧ (finish r).2.arrivals = r.arrivals) :
    s.FailsByIo ∧ ∀ e, o = .failed e → e.isIo = true ∨ ∃ r, (finish r).1 = .error e := by
  have hs : ∀ k s, (finish (r.after k)).2 = s → s.FailsByIo := by
    rintro k s rfl
    obtain ⟨hb, ha⟩ := hf (r.after k)
    exact ⟨hb ▸ (hr.after k).broken, ha ▸ (hr.after k).arrivals⟩
  cases h with
  | served k _ hfin => exact ⟨hs k _ (congrArg Prod.snd hfin), nofun⟩
  | refused k _ hfin =>
    refine ⟨hs k _ (congrArg Prod.snd hfin), fun e he => .inr ⟨r.after k, ?_⟩⟩
    rw [hfin, Outcome.failed.inj he]
  | raised k he =>
    refine ⟨hr.after k, fun e h => .inl ?_⟩
    rw [← Outcome.failed.inj h]
    exact hr.of_error he
  | expired k => exact ⟨hr.after k, nofun⟩

end Reader

namespace Network

variable {n : Network}

theorem FailsByIo.start {p : Plan} (h : p.FailsByIo) : (Network.start p).FailsByIo where
  reader := ⟨rfl, nofun⟩
  drains := h.drains
  replies := h.replies
  closing := h.closing

theorem FailsByIo.write (h : n.FailsByIo) (limit : Time) (payload : Bytes) :
    (n.write (some limit) payload).2.FailsByIo ∧
      ∀ e, (n.write (some limit) payload).1 = .failed e → e.isIo = true := by
  obtain ⟨ha, hd⟩ := Action.forall_next h.drains (show Action.prompt.FailsByIo from rfl)
  rw [write_eq]
  refine ⟨?_, fun e he => ha.fate he⟩
  dsimp only
  split
  · have hc : ∀ c ∈ n.plan.replies.headD [], c.FailsByIo := by
      cases hq : n.plan.replies with
      | nil => exact nofun
      | cons cs rest => exact h.replies cs (hq ▸ List.mem_cons_self)
    rw [reply_eq]
    exact ⟨h.reader.schedule _ hc, hd, fun cs hcs => h.replies cs (List.mem_of_mem_tail hcs), h.closing⟩
  · exact ⟨h.reader, hd, h.replies, h.closing⟩

theorem FailsByIo.readExactly (h : n.FailsByIo) (limit : Time) (k : Nat) :
    (n.readExactly (some limit) k).2.FailsByIo ∧ ∀ e, (n.readExactly (some limit) k).1 = .failed e →
      e.isIo = true ∨ ∃ part, e = .incomplete part (some k) := by
  obtain ⟨o, now, r, hr, hreads⟩ := readExactly_reads limit k n
  obtain ⟨hs, he⟩ := hreads.failsByIo h.reader (Reader.finish_leaves k)
  rw [hr]
  refine ⟨⟨hs, h.drains, h.replies, h.closing⟩, fun e heq => (he e heq).imp_right ?_⟩
  rintro ⟨r', hr'⟩
  unfold Reader.finish at hr'
  split at hr'
  · exact ⟨_, (Except.error.inj hr').symm⟩
  · cases hr'

theorem FailsByIo.readSome (h : n.FailsByIo) (limit : Time) :
    (n.readSome (some limit) blockSize).2.FailsByIo ∧
      ∀ e, (n.readSome (some limit) blockSize).1 = .failed e → e.isIo = true := by
  obtain ⟨o, now, r, hr, hreads⟩ := readSome_reads limit (k := blockSize) (by decide) n
  obtain ⟨hs, he⟩ := hreads.failsByIo h.reader fun r => ⟨rfl, rfl⟩
  rw [hr]
  refine ⟨⟨hs, h.drains, h.replies, h.closing⟩, fun e heq => (he e heq).resolve_right ?_⟩
  rintro ⟨r', hr'⟩
  cases hr'

/-- A network that starts to speak after it was connected to. -/
theorem FailsByIo.connect (h : n.FailsByIo) (hi : ∀ c ∈ n.plan.initial, c.FailsByIo) (limit : Time) (proxy : Endpoint) :
    (n.connect limit proxy).2.FailsByIo := by
  rw [connect_eq]
  dsimp only
  split
  · exact ⟨h.reader.schedule _ hi, h.drains, h.replies, h.closing⟩
  · exact ⟨h.reader, h.drains, h.replies, h.closing⟩

end Network

end SocksTunnel.Script
