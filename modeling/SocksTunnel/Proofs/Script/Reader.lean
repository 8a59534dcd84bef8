import Mathlib.Data.List.Basic
import SocksTunnel.Script.Network

/-
  SocksTunnel.Proofs.Script.Reader — what a reader hears. Chunks arrive batch by batch, and a
  read waits for some of the batches that are still to come. What it takes is the front of
  what the reader has accepted of them; the rest stays for the next read.

  Proved: chunks bring what is accepted of them behind what is there (`buffer_feeds`), a reader
  that is brought up to date or waits is the reader after some of its batches (`deliver_after`,
  `await_waits`), and so a read of either kind either takes from what has arrived by then, fails
  with an error that has, or runs out of time (`readExactly_reads`, `readSome_reads`).
-/

namespace SocksTunnel.Script

namespace Reader

/-! ## Chunks -/

/-- The reader after chunks. -/
def feeds (r : Reader) (cs : List Chunk) : Reader := cs.foldl feed r

/-- The octets that are accepted of chunks; what comes behind the end is lost. -/
def hears : Reader → List Chunk → Bytes
  | _, [] => []
  | r, c :: cs => (if r.loses c then [] else c.data.getD []) ++ hears (r.feed c) cs

variable {r : Reader}

theorem feedAll_snd (r : Reader) (cs : List Chunk) : (r.feedAll cs).2 = r.feeds cs := by
  induction cs generalizing r with
  | nil => rfl
  | cons c cs ih => exact ih (r.feed c)

theorem buffer_feed (r : Reader) (c : Chunk) :
    (r.feed c).buffer = r.buffer ++ if r.loses c then [] else c.data.getD [] := by
  unfold feed
  split
  · exact (List.append_nil _).symm
  · rfl

theorem buffer_feeds (r : Reader) (cs : List Chunk) : (r.feeds cs).buffer = r.buffer ++ r.hears cs := by
  induction cs generalizing r with
  | nil => exact (List.append_nil _).symm
  | cons c cs ih =>
    show ((r.feed c).feeds cs).buffer = _
    rw [ih, buffer_feed, List.append_assoc, hears]

theorem feed_arrivals (r : Reader) (bs : List Batch) (c : Chunk) :
    ({ r with arrivals := bs } : Reader).feed c = { r.feed c with arrivals := bs } := by
  unfold feed loses
  dsimp only
  split <;> rfl

theorem feeds_arrivals (r : Reader) (bs : List Batch) (cs : List Chunk) :
    ({ r with arrivals := bs } : Reader).feeds cs = { r.feeds cs with arrivals := bs } := by
  induction cs generalizing r with
  | nil => rfl
  | cons c cs ih =>
    show (({ r with arrivals := bs } : Reader).feed c).feeds cs = _
    rw [feed_arrivals, ih]
    rfl

/-- An error that is raised after chunks was there before or came with one of them. -/
theorem broken_feeds {e : PeerError} {cs : List Chunk} (h : (r.feeds cs).broken = some e) :
    r.broken = some e ∨ ∃ c ∈ cs, c.error = some e := by
  induction cs generalizing r with
  | nil => exact .inl h
  | cons c cs ih =>
    rcases ih h with h | ⟨d, hd, he⟩
    · unfold feed at h
      split at h
      · exact .inl h
      · dsimp only at h
        split at h
        · exact .inr ⟨c, List.mem_cons_self, h⟩
        · exact .inl h
    · exact .inr ⟨d, List.mem_cons_of_mem c hd, he⟩

theorem feedAll_error {e : PeerError} {cs : List Chunk} (h : (r.feedAll cs).1 = some (.error e)) :
    ∃ c ∈ cs, c.error = some e := by
  induction cs generalizing r with
  | nil => cases h
  | cons c cs ih =>
    change (r.wakes c).or ((r.feed c).feedAll cs).1 = some (.error e) at h
    cases hw : r.wakes c with
    | none =>
      rw [hw, Option.none_or] at h
      obtain ⟨d, hd, he⟩ := ih h
      exact ⟨d, List.mem_cons_of_mem c hd, he⟩
    | some w =>
      rw [hw, Option.some_or] at h
      obtain rfl := Option.some.inj h
      unfold wakes at hw
      split at hw
      · cases hw
      · split at hw
        · cases hw
        · obtain ⟨e', he, hee⟩ := Option.map_eq_some_iff.mp hw
          obtain rfl := Except.error.inj hee
          exact ⟨c, List.mem_cons_self, he⟩

/-! ## Batches -/

/-- The chunks of the first batches to come. -/
def due (r : Reader) (k : Nat) : List Chunk := (r.arrivals.take k).flatMap Batch.chunks

/-- The reader after the first of its batches. -/
def after (r : Reader) (k : Nat) : Reader := { r.feeds (r.due k) with arrivals := r.arrivals.drop k }

theorem feeds_append (r : Reader) (cs ds : List Chunk) : r.feeds (cs ++ ds) = (r.feeds cs).feeds ds :=
  List.foldl_append

theorem due_add (r : Reader) (j k : Nat) : r.due (j + k) = r.due j ++ (r.after j).due k := by
  rw [due, due, due, List.take_add, List.flatMap_append]
  rfl

theorem after_after (r : Reader) (j k : Nat) : (r.after j).after k = r.after (j + k) := by
  have hd : (r.after j).arrivals = r.arrivals.drop j := rfl
  have hf : (r.after j).feeds ((r.after j).due k) = { (r.feeds (r.due j)).feeds ((r.after j).due k) with arrivals := r.arrivals.drop j } :=
    feeds_arrivals ..
  rw [after, hf, hd, List.drop_drop, ← feeds_append, ← due_add]
  rfl

/-- The first batch by itself. -/
theorem after_one (r : Reader) (b : Batch) (bs : List Batch) :
    ({ r with arrivals := b :: bs } : Reader).after 1 = { r.feeds b.chunks with arrivals := bs } := by
  have hd : ({ r with arrivals := b :: bs } : Reader).due 1 = b.chunks := List.flatMap_singleton ..
  rw [after, hd, feeds_arrivals]
  rfl

/-- A reader that is brought up to date is the reader after some of the batches. -/
theorem deliver_after (now : Time) (r : Reader) (bs : List Batch) :
    ∃ k, deliver now r bs = ({ r with arrivals := bs } : Reader).after k := by
  induction bs generalizing r with
  | nil => exact ⟨0, rfl⟩
  | cons b bs ih =>
    unfold deliver
    split
    · obtain ⟨k, hk⟩ := ih (r.feedAll b.chunks).2
      refine ⟨1 + k, ?_⟩
      rw [hk, feedAll_snd, ← after_after, after_one]
    · exact ⟨0, rfl⟩

/-- How a wait ends for a reader from which batches came in: it has enough or its data ended, one of the chunks
brought the error, or the time ran out. -/
inductive Waits (deadline : Option Time) (enough : Reader → Bool) (r : Reader) (k : Nat) : Wait → Prop
  | ready {t : Time} : enough (r.after k) = true ∨ (r.after k).isEnded = true → Waits deadline enough r k (.ready t)
  | failed {t : Time} {e : PeerError} : (∃ c ∈ r.due k, c.error = some e) → Waits deadline enough r k (.failed t e)
  | expired {t : Time} : Waits deadline enough r k (.expired t)
  | stuck : deadline = none → Waits deadline enough r k .stuck

theorem Waits.later {deadline : Option Time} {enough : Reader → Bool} {r : Reader} {j k : Nat} {w : Wait}
    (h : Waits deadline enough (r.after j) k w) : Waits deadline enough r (j + k) w := by
  cases h with
  | ready h => exact .ready (after_after r j k ▸ h)
  | failed h =>
    obtain ⟨c, hc, he⟩ := h
    exact .failed ⟨c, due_add r j k ▸ List.mem_append_right _ hc, he⟩
  | expired => exact .expired
  | stuck h => exact .stuck h

theorem await_waits (deadline : Option Time) {enough : Reader → Bool}
    (he : ∀ r bs, enough { r with arrivals := bs } = enough r) (r : Reader) (bs : List Batch) :
    ∃ k w, await deadline enough r bs = (w, ({ r with arrivals := bs } : Reader).after k) ∧
      Waits deadline enough { r with arrivals := bs } k w := by
  induction bs generalizing r with
  | nil =>
    cases deadline with
    | some t => exact ⟨0, _, rfl, .expired⟩
    | none => exact ⟨0, _, rfl, .stuck rfl⟩
  | cons b bs ih =>
    have hone : ({ r with arrivals := b :: bs } : Reader).after 1 = { (r.feedAll b.chunks).2 with arrivals := bs } := by
      rw [after_one, feedAll_snd]
    -- where the first batch is not enough, the reader after it waits on
    have hnext : ∃ k w,
        await deadline enough (r.feedAll b.chunks).2 bs = (w, ({ r with arrivals := b :: bs } : Reader).after k) ∧
          Waits deadline enough { r with arrivals := b :: bs } k w := by
      obtain ⟨k, w, hw, h⟩ := ih (r.feedAll b.chunks).2
      rw [← hone] at hw h
      rw [after_after] at hw
      exact ⟨1 + k, w, hw, h.later⟩
    unfold await
    split
    · exact ⟨0, _, rfl, .expired⟩
    split
    · rename_i e s hs
      have hc : ∃ c ∈ ({ r with arrivals := b :: bs } : Reader).due 1, c.error = some e := by
        rw [show ({ r with arrivals := b :: bs } : Reader).due 1 = b.chunks from List.flatMap_singleton ..]
        exact feedAll_error (congrArg Prod.fst hs)
      rw [hs] at hone
      exact ⟨1, _, by rw [hone], .failed hc⟩
    · rename_i s hs
      rw [hs] at hone hnext
      split
      · rename_i hready
        refine ⟨1, _, by rw [hone], .ready ?_⟩
        rw [hone, he]
        simpa using hready
      · exact hnext
    · rename_i s hs
      rw [hs] at hnext
      exact hnext

/-! ## Reads -/

/-- How a read ends and what it leaves of the reader: it takes from what has arrived by then, an error that was there
or has arrived is raised, or the time runs out. -/
inductive Reads (enough : Reader → Bool) (finish : Reader → Except PeerError Bytes × Reader) (r : Reader) :
    Outcome Bytes → Reader → Prop
  | served (k : Nat) {b : Bytes} {s : Reader} : enough (r.after k) = true ∨ (r.after k).isEnded = true →
      finish (r.after k) = (.ok b, s) → Reads enough finish r (.done b) s
  | refused (k : Nat) {e : PeerError} {s : Reader} : enough (r.after k) = true ∨ (r.after k).isEnded = true →
      finish (r.after k) = (.error e, s) → Reads enough finish r (.failed e) s
  | raised (k : Nat) {e : PeerError} : r.broken = some e ∨ (∃ c ∈ r.due k, c.error = some e) →
      Reads enough finish r (.failed e) (r.after k)
  | expired (k : Nat) : Reads enough finish r .expired (r.after k)

/-- What a read takes at its end it takes from the buffer. -/
theorem finish_leaves (k : Nat) (r : Reader) : (r.finish k).2.broken = r.broken ∧ (r.finish k).2.arrivals = r.arrivals := by
  unfold finish
  split <;> exact ⟨rfl, rfl⟩

variable {enough : Reader → Bool} {finish : Reader → Except PeerError Bytes × Reader}

theorem Reads.later {j : Nat} {o : Outcome Bytes} {s : Reader} (h : Reads enough finish (r.after j) o s) :
    Reads enough finish r o s := by
  cases h with
  | served k hr hf =>
    rw [after_after] at hr hf
    exact .served _ hr hf
  | refused k hr hf =>
    rw [after_after] at hr hf
    exact .refused _ hr hf
  | raised k he =>
    rw [after_after]
    refine .raised _ ?_
    rcases he with he | ⟨c, hc, he⟩
    · rcases broken_feeds he with he | ⟨c, hc, he⟩
      · exact .inl he
      · exact .inr ⟨c, due_add r j k ▸ List.mem_append_left _ hc, he⟩
    · exact .inr ⟨c, due_add r j k ▸ List.mem_append_right _ hc, he⟩
  | expired k =>
    rw [after_after]
    exact .expired _

end Reader

namespace Network

open Reader

theorem updated_after (n : Network) : ∃ k, n.updated = { n with reader := n.reader.after k } := by
  obtain ⟨k, hk⟩ := deliver_after n.now n.reader n.reader.arrivals
  exact ⟨k, by rw [updated, hk]⟩

theorem readWhen_reads (enough : Reader → Bool) (finish : Reader → Except PeerError Bytes × Reader)
    (he : ∀ r bs, enough { r with arrivals := bs } = enough r) (limit : Time) (n : Network) :
    ∃ o now r, n.readWhen (some limit) enough finish = (o, { n with now := now, reader := r }) ∧
      Reads enough finish n.reader o r := by
  unfold readWhen
  dsimp only
  split
  · rename_i hr
    rw [Bool.or_eq_true] at hr
    rcases hf : finish n.reader with ⟨e | b, r⟩
    · exact ⟨_, n.now, r, rfl, .refused 0 hr hf⟩
    · exact ⟨_, n.now, r, rfl, .served 0 hr hf⟩
  · obtain ⟨k, w, hw, hwaits⟩ := await_waits (some (n.now + limit)) he n.reader n.reader.arrivals
    rw [Option.map_some, hw]
    cases hwaits with
    | @ready t hr =>
      dsimp only
      rcases hf : finish (n.reader.after k) with ⟨e | b, r⟩
      · exact ⟨_, t, r, rfl, .refused k hr hf⟩
      · exact ⟨_, t, r, rfl, .served k hr hf⟩
    | @failed t e hc => exact ⟨.failed e, t, _, rfl, .raised k (.inr hc)⟩
    | @expired t => exact ⟨.expired, t, _, rfl, .expired k⟩
    | stuck h => cases h

/-- What reads of either kind have in common: an error that was raised comes first, and where nothing is asked for nothing
is waited for. -/
def readOnce (limit : Option Time) (k : Nat) (enough : Reader → Bool) (finish : Reader → Except PeerError Bytes × Reader)
    (n : Network) : Outcome Bytes × Network :=
  match n.updated.reader.broken with
  | some e => (.failed e, n.updated)
  | none => if k = 0 then (.done [], n.updated) else n.updated.readWhen limit enough finish

theorem readExactly_eq (limit : Option Time) (k : Nat) (n : Network) :
    n.readExactly limit k = n.readOnce limit k (fun r => decide (k ≤ r.buffer.length)) (Reader.finish k) := by
  have hk : ¬ (k : Int) < 0 := by omega
  unfold readExactly readOnce
  dsimp only
  rw [if_neg hk]
  cases n.updated.reader.broken with
  | some e => rfl
  | none => simp only [Int.natCast_eq_zero, Int.ofNat_le, Int.toNat_natCast]

theorem readSome_eq (limit : Option Time) (k : Nat) (n : Network) :
    n.readSome limit k =
      n.readOnce limit k (fun r => !r.buffer.isEmpty) (fun r => (.ok (r.take k).1, (r.take k).2)) := rfl

/-- A read under a limit for which no octets are enough if none are asked for. -/
theorem readOnce_reads (limit : Time) {k : Nat} {enough : Reader → Bool} {finish : Reader → Except PeerError Bytes × Reader}
    (he : ∀ r bs, enough { r with arrivals := bs } = enough r)
    (hk : k = 0 → ∀ r, enough r = true ∧ finish r = (.ok [], r)) (n : Network) :
    ∃ o now r, n.readOnce (some limit) k enough finish = (o, { n with now := now, reader := r }) ∧
      Reads enough finish n.reader o r := by
  obtain ⟨j, hj⟩ := n.updated_after
  unfold readOnce
  rw [hj]
  dsimp only
  cases hb : (n.reader.after j).broken with
  | some e =>
    have h : Reads enough finish (n.reader.after j) (.failed e) (n.reader.after j) := .raised 0 (.inl hb)
    exact ⟨_, n.now, _, rfl, h.later⟩
  | none =>
    dsimp only
    split
    · rename_i hz
      obtain ⟨henough, hfinish⟩ := hk hz (n.reader.after j)
      have h : Reads enough finish (n.reader.after j) (.done []) (n.reader.after j) := .served 0 (.inl henough) hfinish
      exact ⟨_, n.now, _, rfl, h.later⟩
    · obtain ⟨o, now, r, h, hreads⟩ := readWhen_reads enough finish he limit { n with reader := n.reader.after j }
      exact ⟨o, now, r, h, hreads.later⟩

/-- A read of exactly `k` octets under a limit. -/
theorem readExactly_reads (limit : Time) (k : Nat) (n : Network) :
    ∃ o now r, n.readExactly (some limit) k = (o, { n with now := now, reader := r }) ∧
      Reads (fun r => decide (k ≤ r.buffer.length)) (Reader.finish k) n.reader o r := by
  rw [readExactly_eq]
  refine readOnce_reads limit (fun _ _ => rfl) (fun hk r => ?_) n
  subst hk
  exact ⟨decide_eq_true (Nat.zero_le _), rfl⟩

/-- A read of some octets under a limit. -/
theorem readSome_reads (limit : Time) {k : Nat} (hk : k ≠ 0) (n : Network) :
    ∃ o now r, n.readSome (some limit) k = (o, { n with now := now, reader := r }) ∧
      Reads (fun r => !r.buffer.isEmpty) (fun r => (.ok (r.take k).1, (r.take k).2)) n.reader o r := by
  rw [readSome_eq]
  exact readOnce_reads limit (fun _ _ => rfl) (fun hz => absurd hz hk) n

end Network

end SocksTunnel.Script
