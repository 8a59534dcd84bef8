import SocksTunnel.Proofs.Script.Network

/-
  SocksTunnel.Proofs.Script.Segments — how the data of a proxy is cut into chunks. What
  arrives at one moment may come in one chunk or in many. The finest way to cut it is one
  octet a chunk, and it is the same for all ways to cut the same data (`Recut.fineAll_eq`); a
  chunk with the end of the data or an error stays in one piece. So a network need only be
  compared with the one for which all data is cut like this.

  Proved: such chunks wake and feed a reader as the others do (`feedAll_fine`), and they arrive
  when those do (`fineAll_insert`, `schedule_fine`). So no wait ends otherwise or at another time
  (`await_fine`), and neither does a write, a read or the attempt to connect (`ignoresCuts_write`,
  `ignoresCuts_readExactly`, `ignoresCuts_readSome`, `ignoresCuts_connect`): networks that differ only
  in how data is cut stay so (`simulates_sameOctets`).
-/

namespace SocksTunnel.Script

/-! ## Chunks -/

namespace Chunk

/-- A chunk of nothing but data. -/
def plain (delay : Time) (data : Bytes) : Chunk := ⟨some data, false, none, delay⟩

/-- Chunks of nothing but data are cut otherwise: each into any number of pieces, in order and with the same delay. Pieces may
be empty, and of a chunk without an octet nothing need be left. -/
inductive Recut : List Chunk → List Chunk → Prop
  | nil : Recut [] []
  | keep (c : Chunk) {cs ds : List Chunk} : Recut cs ds → Recut (c :: cs) (c :: ds)
  | cut (delay : Time) (pieces : List Bytes) {cs ds : List Chunk} : Recut cs ds →
      Recut (plain delay pieces.flatten :: cs) (pieces.map (plain delay) ++ ds)

/-- The pieces of a chunk that is cut as finely as it can be. -/
def fine : Chunk → List Chunk
  | ⟨some data, false, none, delay⟩ => data.map fun x => plain delay [x]
  | c => [c]

theorem fine_cases (c : Chunk) : (∃ delay data, c = plain delay data) ∨ c.fine = [c] := by
  obtain ⟨data, isEnd, error, delay⟩ := c
  cases data with
  | none => exact .inr rfl
  | some data =>
    cases isEnd with
    | true => exact .inr rfl
    | false =>
      cases error with
      | some e => exact .inr rfl
      | none => exact .inl ⟨delay, data, rfl⟩

theorem fine_plain (delay : Time) (data : Bytes) : (plain delay data).fine = data.map fun x => plain delay [x] := rfl

theorem delay_fine {c d : Chunk} (h : d ∈ c.fine) : d.delay = c.delay := by
  rcases c.fine_cases with ⟨delay, data, rfl⟩ | hc
  · obtain ⟨x, -, rfl⟩ := List.mem_map.mp h
    rfl
  · rw [hc] at h
    rw [List.mem_singleton.mp h]

/-- Chunks that are cut as finely as they can be. -/
def fineAll (cs : List Chunk) : List Chunk := cs.flatMap fine

/-- The finest way to cut the data is the same. -/
theorem Recut.fineAll_eq {cs ds : List Chunk} (h : Recut cs ds) : fineAll cs = fineAll ds := by
  induction h with
  | nil => rfl
  | keep c _ ih => exact congrArg (c.fine ++ ·) ih
  | cut delay pieces _ ih =>
    have hp : fineAll (pieces.map (plain delay)) = (plain delay pieces.flatten).fine := by
      rw [fineAll, List.flatMap_map, fine_plain, List.map_flatten, List.flatMap]
      rfl
    rw [fineAll, List.flatMap_cons, ← hp, fineAll, fineAll, List.flatMap_append]
    exact congrArg _ ih

end Chunk

/-! ## Batches -/

namespace Batch

/-- The batch that is cut as finely as it can be, if anything is in it. -/
def fine (b : Batch) : Option Batch :=
  match Chunk.fineAll b.chunks with
  | [] => none
  | cs => some ⟨b.time, cs⟩

def fineAll (bs : List Batch) : List Batch := bs.filterMap fine

/-- Batches in the order of their times. -/
def Ordered (bs : List Batch) : Prop := bs.Pairwise fun b c => b.time < c.time

variable {b : Batch} {bs : List Batch} {t : Time}

theorem fineAll_blank (h : Chunk.fineAll b.chunks = []) : fineAll (b :: bs) = fineAll bs :=
  List.filterMap_cons_none (by rw [fine, h])

theorem fineAll_filled (h : Chunk.fineAll b.chunks ≠ []) :
    fineAll (b :: bs) = ⟨b.time, Chunk.fineAll b.chunks⟩ :: fineAll bs := by
  refine List.filterMap_cons_some ?_
  unfold fine
  split
  · contradiction
  · rfl

theorem time_fineAll (h : ∀ b ∈ bs, t < b.time) : ∀ b ∈ fineAll bs, t < b.time := by
  intro c hc
  obtain ⟨b, hb, hf⟩ := List.mem_filterMap.mp hc
  unfold fine at hf
  split at hf
  · cases hf
  · cases hf
    exact h b hb

theorem time_insert {c : Chunk} (h : b ∈ insert t c bs) : b.time = t ∨ ∃ d ∈ bs, d.time = b.time := by
  induction bs with
  | nil => exact .inl (by rw [List.mem_singleton.mp h])
  | cons d bs ih =>
    unfold insert at h
    split at h
    · rcases List.mem_cons.mp h with rfl | h
      · exact .inl rfl
      · exact .inr ⟨b, h, rfl⟩
    split at h
    · rcases List.mem_cons.mp h with rfl | h
      · exact .inl rfl
      · exact .inr ⟨b, List.mem_cons_of_mem d h, rfl⟩
    · rcases List.mem_cons.mp h with rfl | h
      · exact .inr ⟨b, List.mem_cons_self, rfl⟩
      · rcases ih h with ht | ⟨e, he, ht⟩
        · exact .inl ht
        · exact .inr ⟨e, List.mem_cons_of_mem d he, ht⟩

theorem Ordered.insert (h : Ordered bs) (t : Time) (c : Chunk) : Ordered (insert t c bs) := by
  induction bs with
  | nil => exact List.pairwise_singleton _ _
  | cons b bs ih =>
    obtain ⟨hb, hbs⟩ := List.pairwise_cons.mp h
    unfold Batch.insert
    split
    · rename_i hlt
      refine List.pairwise_cons.mpr ⟨fun d hd => ?_, h⟩
      rcases List.mem_cons.mp hd with rfl | hd
      · exact hlt
      · exact lt_trans hlt (hb d hd)
    split
    · rename_i _ heq
      exact List.pairwise_cons.mpr ⟨fun d hd => heq ▸ hb d hd, hbs⟩
    · rename_i hlt hne
      refine List.pairwise_cons.mpr ⟨fun d hd => ?_, ih hbs⟩
      rcases time_insert hd with ht | ⟨e, he, ht⟩
      · rw [ht]
        exact lt_of_le_of_ne (not_lt.mp hlt) (Ne.symm hne)
      · rw [← ht]
        exact hb e he

/-- Adds chunks to the batch of one time. -/
def put (t : Time) (cs : List Chunk) (bs : List Batch) : List Batch := cs.foldl (fun bs c => insert t c bs) bs

theorem put_head (t : Time) (cs ds : List Chunk) (bs : List Batch) : put t ds (⟨t, cs⟩ :: bs) = ⟨t, cs ++ ds⟩ :: bs := by
  induction ds generalizing cs with
  | nil => rw [List.append_nil]; rfl
  | cons d ds ih =>
    have hd : insert t d (⟨t, cs⟩ :: bs) = ⟨t, cs ++ [d]⟩ :: bs := by
      rw [insert, if_neg (lt_irrefl _), if_pos rfl]
    rw [put, List.foldl_cons, hd]
    exact (ih (cs ++ [d])).trans (by rw [List.append_assoc]; rfl)

theorem put_before {cs : List Chunk} (hne : cs ≠ []) (h : ∀ b ∈ bs, t < b.time) : put t cs bs = ⟨t, cs⟩ :: bs := by
  obtain ⟨c, cs, rfl⟩ := List.exists_cons_of_ne_nil hne
  have hc : insert t c bs = ⟨t, [c]⟩ :: bs := by
    cases bs with
    | nil => rfl
    | cons b bs => rw [insert, if_pos (h b List.mem_cons_self)]
  rw [put, List.foldl_cons, hc]
  exact put_head t [c] cs bs

theorem put_after (h : b.time < t) (cs : List Chunk) (bs : List Batch) : put t cs (b :: bs) = b :: put t cs bs := by
  induction cs generalizing bs with
  | nil => rfl
  | cons c cs ih =>
    have hc : insert t c (b :: bs) = b :: insert t c bs := by
      rw [insert, if_neg (not_lt.mpr (le_of_lt h)), if_neg (ne_of_gt h)]
    rw [put, List.foldl_cons, hc]
    exact ih (insert t c bs)

theorem put_append (t : Time) (cs ds : List Chunk) (bs : List Batch) : put t (cs ++ ds) bs = put t ds (put t cs bs) :=
  List.foldl_append

/-- An earlier batch is put before the others, if anything is in it. -/
theorem fineAll_cons (h : ∀ c ∈ bs, b.time < c.time) :
    fineAll (b :: bs) = put b.time (Chunk.fineAll b.chunks) (fineAll bs) := by
  by_cases hb : Chunk.fineAll b.chunks = []
  · rw [fineAll_blank hb, hb]
    rfl
  · rw [fineAll_filled hb, put_before hb (time_fineAll h)]

/-- A chunk may be cut before it is added to the batch of its time, or after. -/
theorem fineAll_insert (h : Ordered bs) (t : Time) (c : Chunk) : fineAll (insert t c bs) = put t c.fine (fineAll bs) := by
  have hc : Chunk.fineAll [c] = c.fine := List.flatMap_singleton ..
  induction bs with
  | nil =>
    have hall : ∀ d ∈ ([] : List Batch), t < d.time := fun _ hd => absurd hd List.not_mem_nil
    rw [insert, fineAll_cons (b := ⟨t, [c]⟩) hall, hc]
  | cons b bs ih =>
    obtain ⟨hb, hbs⟩ := List.pairwise_cons.mp h
    unfold insert
    split
    · rename_i hlt
      have hall : ∀ d ∈ b :: bs, t < d.time := by
        intro d hd
        rcases List.mem_cons.mp hd with rfl | hd
        · exact hlt
        · exact lt_trans hlt (hb d hd)
      rw [fineAll_cons (b := ⟨t, [c]⟩) hall, hc]
    split
    · rename_i _ heq
      subst heq
      have happend : Chunk.fineAll (b.chunks ++ [c]) = Chunk.fineAll b.chunks ++ c.fine := by
        rw [Chunk.fineAll, List.flatMap_append, ← hc]
        rfl
      rw [fineAll_cons (b := ⟨b.time, b.chunks ++ [c]⟩) hb, happend, put_append, fineAll_cons hb]
    · rename_i hlt hne
      have ht : b.time < t := lt_of_le_of_ne (not_lt.mp hlt) (Ne.symm hne)
      by_cases hf : Chunk.fineAll b.chunks = []
      · rw [fineAll_blank hf, fineAll_blank hf, ih hbs]
      · have hput := put_after (b := ⟨b.time, Chunk.fineAll b.chunks⟩) ht c.fine (fineAll bs)
        rw [fineAll_filled hf, fineAll_filled hf, ih hbs, hput]

end Batch

/-! ## Readers -/

namespace Reader

/-- The reader for which all that is still to come is cut as finely as it can be. -/
def fine (r : Reader) : Reader := { r with arrivals := Batch.fineAll r.arrivals }

variable {r : Reader}

/-- What sets out may be cut before or after. -/
theorem schedule_fine (h : Batch.Ordered r.arrivals) (now : Time) (cs : List Chunk) :
    r.fine.schedule now (Chunk.fineAll cs) = (r.schedule now cs).fine ∧
      Batch.Ordered (r.schedule now cs).arrivals := by
  induction cs generalizing r with
  | nil => exact ⟨rfl, h⟩
  | cons c cs ih =>
    obtain ⟨hfine, hordered⟩ := @ih { r with arrivals := Batch.insert (now + c.delay) c r.arrivals } (h.insert _ c)
    refine ⟨Eq.trans ?_ hfine, hordered⟩
    have hput : c.fine.foldl (fun bs d => Batch.insert (now + d.delay) d bs) (Batch.fineAll r.arrivals) =
        Batch.put (now + c.delay) c.fine (Batch.fineAll r.arrivals) :=
      List.foldl_ext _ _ _ fun bs d hd => by rw [Chunk.delay_fine hd]
    unfold schedule fine
    dsimp only
    rw [Chunk.fineAll, List.flatMap_cons, List.foldl_append, hput, Batch.fineAll_insert h, Chunk.fineAll]

theorem feed_fine (r : Reader) (c : Chunk) : r.fine.feed c = (r.feed c).fine := by
  have hl : r.fine.loses c = r.loses c := rfl
  unfold feed
  rw [hl]
  split <;> rfl

theorem feed_plain (r : Reader) (delay : Time) (data : Bytes) :
    r.feed (.plain delay data) = if r.isEnded = true then r else { r with buffer := r.buffer ++ data } := by
  cases h : r.isEnded <;> simp [feed, loses, Chunk.plain, h]

theorem wakes_plain (r : Reader) (delay : Time) (data : Bytes) :
    r.wakes (.plain delay data) = if r.isEnded = true ∨ data = [] then none else some (.ok ()) := by
  cases h : r.isEnded <;> by_cases hd : data = [] <;> simp [wakes, loses, Chunk.plain, h, hd]

theorem feedAll_append (r : Reader) (cs ds : List Chunk) :
    r.feedAll (cs ++ ds) = ((r.feedAll cs).1.or ((r.feedAll cs).2.feedAll ds).1, ((r.feedAll cs).2.feedAll ds).2) := by
  induction cs generalizing r with
  | nil => rfl
  | cons c cs ih =>
    rw [List.cons_append, feedAll, ih]
    exact Prod.ext (Option.or_assoc ..).symm rfl

/-- Data wakes and feeds a reader in one chunk as it does octet by octet. -/
theorem feedAll_fine_chunk (r : Reader) (c : Chunk) : r.feedAll c.fine = (r.wakes c, r.feed c) := by
  rcases c.fine_cases with ⟨delay, data, rfl⟩ | hc
  · rw [Chunk.fine_plain]
    induction data generalizing r with
    | nil =>
      rw [wakes_plain, if_pos (.inr rfl), feed_plain, List.append_nil, ite_self]
      rfl
    | cons x data ih =>
      rw [List.map_cons, feedAll, ih, wakes_plain, wakes_plain, wakes_plain, feed_plain, feed_plain, feed_plain]
      cases h : r.isEnded <;> simp [h]
  · rw [hc]
    exact Prod.ext Option.or_none rfl

/-- Chunks that arrive together wake and feed a reader alike, however they are cut. -/
theorem feedAll_fine (r : Reader) (cs : List Chunk) :
    r.fine.feedAll (Chunk.fineAll cs) = ((r.feedAll cs).1, (r.feedAll cs).2.fine) := by
  induction cs generalizing r with
  | nil => rfl
  | cons c cs ih =>
    have hw : r.fine.wakes c = r.wakes c := rfl
    rw [Chunk.fineAll, List.flatMap_cons, feedAll_append, feedAll_fine_chunk, feed_fine, hw]
    dsimp only
    rw [← Chunk.fineAll, ih]
    rfl

/-- Chunks of which nothing is left tell a reader nothing. -/
theorem feedAll_blank {cs : List Chunk} (h : Chunk.fineAll cs = []) (r : Reader) :
    (r.feedAll cs).1 = none ∧ (r.feedAll cs).2.fine = r.fine := by
  have hall := r.feedAll_fine cs
  rw [h] at hall
  exact ⟨(congrArg Prod.fst hall).symm, (congrArg Prod.snd hall).symm⟩

/-! ## Waiting -/

theorem deliver_early {now : Time} {bs : List Batch} (h : ∀ b ∈ bs, now < b.time) (r : Reader) :
    deliver now r bs = { r with arrivals := bs } := by
  cases bs with
  | nil => rfl
  | cons b bs => rw [deliver, if_neg (not_le.mpr (h b List.mem_cons_self))]

theorem await_early {t : Time} {bs : List Batch} (h : ∀ b ∈ bs, t < b.time) (enough : Reader → Bool) (r : Reader) :
    await (some t) enough r bs = (.expired t, { r with arrivals := bs }) := by
  cases bs with
  | nil => rfl
  | cons b bs => rw [await, Option.filter_some, if_pos (decide_eq_true (h b List.mem_cons_self))]

theorem deliver_fine (now : Time) (r : Reader) {bs : List Batch} (h : Batch.Ordered bs) :
    deliver now r.fine (Batch.fineAll bs) = (deliver now r bs).fine := by
  induction bs generalizing r with
  | nil => rfl
  | cons b bs ih =>
    obtain ⟨hb, hbs⟩ := List.pairwise_cons.mp h
    by_cases hf : Chunk.fineAll b.chunks = []
    · -- nothing is left of the batch, but where it is not due yet it keeps those behind it back
      have hcons : Batch.fineAll (b :: bs) = Batch.fineAll bs := Batch.fineAll_blank hf
      rw [hcons, deliver]
      split
      · rw [← ih _ hbs, (feedAll_blank hf r).2]
      · rename_i hlate
        have hall : ∀ c ∈ Batch.fineAll bs, now < c.time :=
          Batch.time_fineAll fun c hc => lt_trans (not_le.mp hlate) (hb c hc)
        rw [deliver_early hall, ← hcons]
        rfl
    · have hcons : Batch.fineAll (b :: bs) = ⟨b.time, Chunk.fineAll b.chunks⟩ :: Batch.fineAll bs := Batch.fineAll_filled hf
      rw [hcons, deliver, deliver, feedAll_fine]
      dsimp only
      split
      · exact ih _ hbs
      · rw [← hcons]
        rfl

/-- A wait ends alike and at the same time, however all that it waits for is cut. -/
theorem await_fine (deadline : Option Time) {enough : Reader → Bool} (he : ∀ r : Reader, enough r.fine = enough r)
    (r : Reader) {bs : List Batch} (h : Batch.Ordered bs) :
    await deadline enough r.fine (Batch.fineAll bs) =
      ((await deadline enough r bs).1, (await deadline enough r bs).2.fine) := by
  induction bs generalizing r with
  | nil => cases deadline <;> rfl
  | cons b bs ih =>
    obtain ⟨hb, hbs⟩ := List.pairwise_cons.mp h
    by_cases hf : Chunk.fineAll b.chunks = []
    · have hcons : Batch.fineAll (b :: bs) = Batch.fineAll bs := Batch.fineAll_blank hf
      obtain ⟨hnone, hfine⟩ := feedAll_blank hf r
      rw [hcons, await]
      cases hd : deadline.filter (· < b.time) with
      | some t =>
        obtain ⟨rfl, ht⟩ := Option.filter_eq_some_iff.mp hd
        have hall : ∀ c ∈ Batch.fineAll bs, t < c.time :=
          Batch.time_fineAll fun c hc => lt_trans (of_decide_eq_true ht) (hb c hc)
        rw [await_early hall, ← hcons]
        rfl
      | none =>
        rw [← hfine, ih _ hbs, show r.feedAll b.chunks = (none, (r.feedAll b.chunks).2) from Prod.ext hnone rfl]
    · have hcons : Batch.fineAll (b :: bs) = ⟨b.time, Chunk.fineAll b.chunks⟩ :: Batch.fineAll bs := Batch.fineAll_filled hf
      rw [hcons, await, await, feedAll_fine]
      cases deadline.filter (· < b.time) with
      | some t =>
        dsimp only
        rw [← hcons]
        rfl
      | none =>
        rcases r.feedAll b.chunks with ⟨w, s⟩
        cases w with
        | none => exact ih s hbs
        | some w =>
          cases w with
          | error e => rfl
          | ok u =>
            have hend : s.fine.isEnded = s.isEnded := rfl
            dsimp only
            rw [he, hend]
            split
            · rfl
            · exact ih s hbs

/-! ## Reading -/

theorem finish_fine (k : Nat) (r : Reader) : r.fine.finish k = ((r.finish k).1, (r.finish k).2.fine) := by
  have hb : r.fine.buffer = r.buffer := rfl
  unfold finish
  rw [hb]
  split <;> rfl

/-- A read takes nothing out of what is still to come but from the front. -/
theorem Reads.ordered {enough : Reader → Bool} {finish : Reader → Except PeerError Bytes × Reader} {o : Outcome Bytes}
    {s : Reader} (h : Reads enough finish r o s) (hf : ∀ r, (finish r).2.arrivals = r.arrivals)
    (hr : Batch.Ordered r.arrivals) : Batch.Ordered s.arrivals := by
  have hafter : ∀ k, Batch.Ordered (r.after k).arrivals := fun k => List.Pairwise.drop hr
  cases h with
  | served k _ hfin | refused k _ hfin =>
    have hs : s.arrivals = (r.after k).arrivals := by rw [← hf (r.after k), hfin]
    rw [hs]
    exact hafter k
  | raised k _ | expired k => exact hafter k

end Reader

/-! ## Networks -/

/-- The same plan, in which what the proxy sends at once and after each write is cut otherwise. -/
structure Plan.Recut (p q : Plan) : Prop where
  connecting : p.connecting = q.connecting
  initial : Chunk.Recut p.initial q.initial
  drains : p.drains = q.drains
  replies : List.Forall₂ Chunk.Recut p.replies q.replies
  closing : p.closing = q.closing

/-- The plan in which all that the proxy sends is cut as finely as it can be. -/
def Plan.fine (p : Plan) : Plan :=
  { p with initial := Chunk.fineAll p.initial, replies := p.replies.map Chunk.fineAll }

theorem Plan.Recut.fine_eq {p q : Plan} (h : p.Recut q) : p.fine = q.fine := by
  have hreplies : p.replies.map Chunk.fineAll = q.replies.map Chunk.fineAll := by
    rw [← List.forall₂_eq_eq_eq, List.forall₂_map_left_iff, List.forall₂_map_right_iff]
    exact h.replies.imp fun _ _ hc => hc.fineAll_eq
  rw [fine, fine, h.connecting, h.initial.fineAll_eq, h.drains, hreplies, h.closing]

namespace Network

/-- The network with such a plan, for which all that is still to come is cut like this, too. -/
def fine (n : Network) : Network := { n with plan := n.plan.fine, reader := n.reader.fine }

/-- What is still to come is in the order of its times. -/
def Ordered (n : Network) : Prop := Batch.Ordered n.reader.arrivals

/-- An operation that makes no difference between ways to cut. -/
def IgnoresCuts {α : Type} (f : Network → α × Network) : Prop :=
  ∀ {n : Network}, n.Ordered → f n.fine = ((f n).1, (f n).2.fine) ∧ (f n).2.Ordered

variable {n m : Network}

theorem reply_fine (h : n.Ordered) : n.fine.reply = n.reply.fine ∧ n.reply.Ordered := by
  obtain ⟨hs, ho⟩ := Reader.schedule_fine h n.now (n.plan.replies.headD [])
  have hhead : (n.plan.replies.map Chunk.fineAll).headD [] = Chunk.fineAll (n.plan.replies.headD []) := by
    cases n.plan.replies <;> rfl
  rw [reply_eq, reply_eq]
  refine ⟨?_, ho⟩
  unfold fine Plan.fine
  dsimp only
  rw [hhead, hs, List.map_tail]

theorem ignoresCuts_write (limit : Time) (payload : Bytes) : IgnoresCuts (write (some limit) payload) := by
  intro n h
  have ha : n.fine.plan.drains = n.plan.drains := rfl
  rw [write_eq, write_eq, ha]
  dsimp only
  split
  · obtain ⟨hr, ho⟩ := reply_fine (n := { hand payload n with now := n.now + min (Action.next n.plan.drains).1.delay limit }) h
    exact ⟨congrArg _ hr, ho⟩
  · exact ⟨rfl, h⟩

theorem ignoresCuts_connect (limit : Time) (proxy : Endpoint) : IgnoresCuts (connect limit proxy) := by
  intro n h
  have ha : n.fine.plan.connecting = n.plan.connecting := rfl
  rw [connect_eq, connect_eq, ha]
  dsimp only
  split
  · obtain ⟨hs, ho⟩ := Reader.schedule_fine h (n.now + min n.plan.connecting.delay limit) n.plan.initial
    refine ⟨?_, ho⟩
    have hr : n.fine.reader.schedule (n.fine.now + min n.plan.connecting.delay limit) n.fine.plan.initial = _ := hs
    rw [hr]
    rfl
  · exact ⟨rfl, h⟩

theorem updated_fine (h : n.Ordered) : n.fine.updated = n.updated.fine := by
  have hd : n.fine.reader.deliver n.fine.now n.fine.reader.arrivals = _ := Reader.deliver_fine n.now n.reader h
  rw [updated, hd]
  rfl

theorem ordered_updated (h : n.Ordered) : n.updated.Ordered := by
  obtain ⟨k, hk⟩ := n.updated_after
  rw [hk]
  exact List.Pairwise.drop h

theorem readWhen_fine (limit : Option Time) {enough : Reader → Bool} {finish : Reader → Except PeerError Bytes × Reader}
    (he : ∀ r : Reader, enough r.fine = enough r) (hf : ∀ r : Reader, finish r.fine = ((finish r).1, (finish r).2.fine))
    (h : n.Ordered) :
    n.fine.readWhen limit enough finish = ((n.readWhen limit enough finish).1, (n.readWhen limit enough finish).2.fine) := by
  have hr : n.fine.reader = n.reader.fine ∧ n.fine.now = n.now := ⟨rfl, rfl⟩
  have hend : n.reader.fine.isEnded = n.reader.isEnded := rfl
  have hcome : n.reader.fine.arrivals = Batch.fineAll n.reader.arrivals := rfl
  unfold readWhen
  rw [hr.1, hr.2, he, hend, hcome, Reader.await_fine _ he _ h]
  dsimp only
  split
  · rw [hf]
    rcases finish n.reader with ⟨_ | b, r⟩ <;> rfl
  · rcases n.reader.await (limit.map (n.now + ·)) enough n.reader.arrivals with ⟨w, r⟩
    cases w with
    | ready t =>
      dsimp only
      rw [hf]
      rcases finish r with ⟨_ | b, r'⟩ <;> rfl
    | failed t e => rfl
    | expired t => rfl
    | stuck => rfl

theorem readOnce_fine (limit : Option Time) (k : Nat) {enough : Reader → Bool}
    {finish : Reader → Except PeerError Bytes × Reader} (he : ∀ r : Reader, enough r.fine = enough r)
    (hf : ∀ r : Reader, finish r.fine = ((finish r).1, (finish r).2.fine)) (h : n.Ordered) :
    n.fine.readOnce limit k enough finish =
      ((n.readOnce limit k enough finish).1, (n.readOnce limit k enough finish).2.fine) := by
  have hb : n.updated.fine.reader.broken = n.updated.reader.broken := rfl
  unfold readOnce
  rw [updated_fine h, hb]
  cases n.updated.reader.broken with
  | some e => rfl
  | none =>
    dsimp only
    split
    · rfl
    · exact readWhen_fine limit he hf (ordered_updated h)

theorem ignoresCuts_readExactly (limit : Time) (k : Nat) : IgnoresCuts (readExactly (some limit) k) := by
  intro n h
  constructor
  · rw [readExactly_eq, readExactly_eq]
    exact readOnce_fine (some limit) k (fun _ => rfl) (Reader.finish_fine k) h
  · obtain ⟨o, now, r, hr, hreads⟩ := readExactly_reads limit k n
    rw [hr]
    exact hreads.ordered (fun r => (Reader.finish_leaves k r).2) h

theorem ignoresCuts_readSome (limit : Time) {k : Nat} (hk : k ≠ 0) : IgnoresCuts (readSome (some limit) k) := by
  intro n h
  constructor
  · rw [readSome_eq, readSome_eq]
    exact readOnce_fine (some limit) k (fun _ => rfl) (fun _ => rfl) h
  · obtain ⟨o, now, r, hr, hreads⟩ := readSome_reads limit hk n
    rw [hr]
    exact hreads.ordered (fun _ => rfl) h

/-- Networks that are the same in all but how the data that is still to come is cut. -/
structure SameOctets (n m : Network) : Prop where
  ordered : n.Ordered ∧ m.Ordered
  fine : n.fine = m.fine

theorem SameOctets.sameEnd {α : Type} {f : Network → α × Network} (hf : IgnoresCuts f) (h : SameOctets n m) :
    SameEnd SameOctets (f n) (f m) := by
  obtain ⟨hn, hno⟩ := hf h.ordered.1
  obtain ⟨hm, hmo⟩ := hf h.ordered.2
  rw [h.fine, hm] at hn
  obtain ⟨ho, hs⟩ := Prod.mk.inj hn
  exact ⟨(f n).1, (f n).2, (f m).2, rfl, by rw [← ho], ⟨⟨hno, hmo⟩, hs.symm⟩⟩

theorem SameOctets.now (h : SameOctets n m) : n.now = m.now := by
  have hnow : n.fine.now = m.fine.now := by rw [h.fine]
  exact hnow

theorem SameOctets.written (h : SameOctets n m) : n.written = m.written := by
  have hwritten : n.fine.written = m.fine.written := by rw [h.fine]
  exact hwritten

/-- Nothing is to come before there is a connection. -/
theorem SameOctets.start {p q : Plan} (h : p.Recut q) : SameOctets (.start p) (.start q) where
  ordered := ⟨List.Pairwise.nil, List.Pairwise.nil⟩
  fine := by
    have hp : ∀ p : Plan, (Network.start p).fine = Network.start p.fine := fun _ => rfl
    rw [hp, hp, h.fine_eq]

/-- The octets that are there to be read at a moment if nothing is read until then. -/
def unread (t : Time) (n : Network) : Bytes := ({ n with now := t } : Network).updated.reader.buffer

theorem unread_fine (t : Time) (h : n.Ordered) : n.fine.unread t = n.unread t := by
  have hu : ({ n.fine with now := t } : Network).updated = ({ n with now := t } : Network).updated.fine :=
    updated_fine (n := { n with now := t }) h
  rw [unread, hu]
  rfl

theorem SameOctets.unread (h : SameOctets n m) (t : Time) : n.unread t = m.unread t := by
  rw [← unread_fine t h.ordered.1, h.fine, unread_fine t h.ordered.2]

theorem simulates_sameOctets : Simulates SameOctets where
  write limit payload _ _ h := h.sameEnd (ignoresCuts_write limit payload)
  readExactly limit k _ _ h := h.sameEnd (ignoresCuts_readExactly limit k)
  readSome limit _ _ h := h.sameEnd (ignoresCuts_readSome limit (by decide))

end Network

end SocksTunnel.Script
