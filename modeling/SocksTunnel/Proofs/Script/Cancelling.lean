import SocksTunnel.Proofs.Script.Timing

/-
  SocksTunnel.Proofs.Script.Cancelling — a scripted stream under a caller that gives up at
  some moment. An operation that ends by then does not notice. One that is still running
  ends at that moment, and all that is seen of it is that it started.

  Proved: this of every write and of every read (`interruptible_write`,
  `interruptible_read`).
-/

namespace SocksTunnel.Script

/-- A wait under a caller that gives up. -/
theorem Clock.await_cancelling (now k limit : Time) (a : Action) :
    (⟨now, some k⟩ : Clock).await (some limit) a =
      if k < now + min a.delay limit then (.failed (.cancelled []), ⟨k, some k⟩)
      else (a.fate limit, ⟨now + min a.delay limit, some k⟩) := by
  by_cases hk : k < now + min a.delay limit
  · have hc : (⟨now, some k⟩ : Clock).cancels (now + min a.delay limit) = some k := by
      simp only [cancels, Option.filter_some, decide_eq_true_eq, if_pos hk]
    simp only [await, span_eq_min, hc, if_pos hk]
  · have hc : (⟨now, some k⟩ : Clock).cancels (now + min a.delay limit) = none := by
      simp only [cancels, Option.filter_some, decide_eq_true_eq, if_neg hk]
    simp only [await, span_eq_min, hc, if_neg hk, isLate, decide_eq_true_eq, Action.fate]
    split
    · rfl
    · cases a.error <;> rfl

namespace Stream

/-- The stream under a caller that gives up at a moment. -/
def cancelling (k : Time) (s : Stream) : Stream := { s with clock := ⟨s.clock.now, some k⟩ }

/-- Nobody gives up, and no action of the script takes less than no time. -/
structure IsFree (s : Stream) : Prop where
  uncancelled : s.clock.cancelAt = none
  writes : ∀ a ∈ s.writes, 0 ≤ a.delay
  reads : ∀ a ∈ s.reads, 0 ≤ a.delay

/-- An operation that is seen to start. It may be seen to end as well, but if the caller gives up before, it ends there
and then and nothing else is seen of it. -/
structure Interruptible {α : Type} (first : Event) (g : Stream → Outcome α × Stream) : Prop where
  free : ∀ {s : Stream}, s.IsFree → (g s).2.IsFree ∧ s.clock.now ≤ (g s).2.clock.now
  events : ∀ {s : Stream}, s.IsFree → ∃ es, (g s).2.events = s.events ++ first :: es ∧
    ∀ e ∈ es, e = .written (g s).2.clock.now
  after : ∀ {s : Stream} {k : Time}, s.IsFree → (g s).2.clock.now ≤ k →
    g (s.cancelling k) = ((g s).1, (g s).2.cancelling k)
  during : ∀ {s : Stream} {k : Time}, s.IsFree → k < (g s).2.clock.now →
    (g (s.cancelling k)).1 = .failed (.cancelled []) ∧ (g (s.cancelling k)).2.clock.now = k ∧
      (g (s.cancelling k)).2.events = s.events ++ [first]

theorem IsFree.delay_nonneg {as : List Action} (h : ∀ a ∈ as, 0 ≤ a.delay) {limit : Time} (hl : 0 ≤ limit) :
    0 ≤ min (as.getD 0 .prompt).delay limit := by
  refine le_min ?_ hl
  cases as with
  | nil => exact le_refl _
  | cons a r => exact h a (List.mem_cons_self ..)

variable {s : Stream} {limit : Time}

theorem write_cancelling (hs : s.clock.cancelAt = none) (k : Time) (payload : Bytes) :
    (s.cancelling k).write limit payload =
      if k < s.clock.now + min (s.writes.getD 0 .prompt).delay limit then
        (.failed (.cancelled []), { s with clock := ⟨k, some k⟩, writes := s.writes.tail, events := s.events ++ [.write payload] })
      else ((s.write limit payload).1, (s.write limit payload).2.cancelling k) := by
  by_cases hk : k < s.clock.now + min (s.writes.getD 0 .prompt).delay limit
  · simp only [write, next_eq, see, cancelling, Clock.await_cancelling, if_pos hk]
  · simp only [write, next_eq, see, cancelling, Clock.await_cancelling, Clock.await_uncancelled hs, if_neg hk]
    cases (s.writes.getD 0 .prompt).fate limit with
    | done u => simp only [arrive_eq]
    | expired | failed e => rfl

theorem read_cancelling (hs : s.clock.cancelAt = none) (k : Time) (n : Int) :
    (s.cancelling k).read limit n =
      if k < s.clock.now + min (s.reads.getD 0 .prompt).delay limit then
        (.failed (.cancelled []), { s with clock := ⟨k, some k⟩, reads := s.reads.tail, events := s.events ++ [.read n] })
      else ((s.read limit n).1, (s.read limit n).2.cancelling k) := by
  by_cases hk : k < s.clock.now + min (s.reads.getD 0 .prompt).delay limit
  · simp only [read, next_eq, see, cancelling, Clock.await_cancelling, if_pos hk]
  · simp only [read, next_eq, see, cancelling, Clock.await_cancelling, Clock.await_uncancelled hs, if_neg hk]
    cases (s.reads.getD 0 .prompt).fate limit with
    | done u =>
      cases (s.reads.getD 0 .prompt).data with
      | some d => rfl
      | none =>
        simp only [take]
        by_cases hn : (s.buffer.length : Int) < n
        · simp only [if_pos hn]
        · simp only [if_neg hn]
    | expired | failed e => rfl

/-- What an operation leaves that takes so long, whatever comes of it. -/
structure Leaves (first : Event) (taken : Time) (s u : Stream) : Prop where
  clock : u.clock = ⟨s.clock.now + taken, none⟩
  writes : ∀ a ∈ u.writes, a ∈ s.writes
  reads : ∀ a ∈ u.reads, a ∈ s.reads
  events : ∃ es, u.events = s.events ++ first :: es ∧ ∀ e ∈ es, e = .written u.clock.now

theorem leaves_write (hs : s.clock.cancelAt = none) (limit : Time) (payload : Bytes) :
    Leaves (.write payload) (min (s.writes.getD 0 .prompt).delay limit) s (s.write limit payload).2 := by
  rw [write_eq hs]
  dsimp only
  split
  · rw [arrive_eq]
    exact ⟨rfl, fun _ => List.mem_of_mem_tail, fun _ => id, [.written _], List.append_assoc .., fun e h => List.mem_singleton.mp h⟩
  · exact ⟨rfl, fun _ => List.mem_of_mem_tail, fun _ => id, [], rfl, nofun⟩

theorem leaves_read (hs : s.clock.cancelAt = none) (limit : Time) (n : Int) :
    Leaves (.read n) (min (s.reads.getD 0 .prompt).delay limit) s (s.read limit n).2 := by
  rw [read_eq hs]
  dsimp only
  cases (s.reads.getD 0 .prompt).fate limit <;> exact ⟨rfl, fun _ => id, fun _ => List.mem_of_mem_tail, [], rfl, nofun⟩

/-- An operation can be cut if it leaves this, and if a caller that gives up within its time cuts it there. -/
theorem interruptible_of_leaves {α : Type} {first : Event} {g : Stream → Outcome α × Stream} {taken : Stream → Time}
    (ht : ∀ {s : Stream}, s.IsFree → 0 ≤ taken s)
    (hl : ∀ {s : Stream}, s.clock.cancelAt = none → Leaves first (taken s) s (g s).2)
    (hc : ∀ {s : Stream}, s.clock.cancelAt = none → ∀ k, ∃ t : Stream,
      g (s.cancelling k) = (if k < s.clock.now + taken s then (.failed (.cancelled []), t) else ((g s).1, (g s).2.cancelling k)) ∧
        t.clock.now = k ∧ t.events = s.events ++ [first]) : Interruptible first g where
  free {s} hs := by
    have h := hl hs.uncancelled
    refine ⟨⟨by rw [h.clock], fun a ha => hs.writes a (h.writes a ha), fun a ha => hs.reads a (h.reads a ha)⟩, ?_⟩
    rw [h.clock]
    exact le_add_of_nonneg_right (ht hs)
  events {s} hs := (hl hs.uncancelled).events
  after {s k} hs hk := by
    obtain ⟨t, hg, -⟩ := hc hs.uncancelled k
    rw [(hl hs.uncancelled).clock] at hk
    rw [hg, if_neg (not_lt.mpr hk)]
  during {s k} hs hk := by
    obtain ⟨t, hg, htime, hevents⟩ := hc hs.uncancelled k
    rw [(hl hs.uncancelled).clock] at hk
    rw [hg, if_pos hk]
    exact ⟨rfl, htime, hevents⟩

theorem interruptible_write (hl : 0 ≤ limit) (payload : Bytes) : Interruptible (.write payload) (write limit payload) :=
  interruptible_of_leaves (fun hs => IsFree.delay_nonneg hs.writes hl) (fun hs => leaves_write hs limit payload)
    fun hs k => ⟨_, write_cancelling hs k payload, rfl, rfl⟩

theorem interruptible_read (hl : 0 ≤ limit) (n : Int) : Interruptible (.read n) (read limit n) :=
  interruptible_of_leaves (fun hs => IsFree.delay_nonneg hs.reads hl) (fun hs => leaves_read hs limit n)
    fun hs k => ⟨_, read_cancelling hs k n, rfl, rfl⟩

end Stream

end SocksTunnel.Script
