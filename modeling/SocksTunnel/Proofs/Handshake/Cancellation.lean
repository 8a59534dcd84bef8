import SocksTunnel.Proofs.Script.Cancelling

/-
  SocksTunnel.Proofs.Handshake.Cancellation — a handshake whose caller gives up. A timeline
  lists what is seen of a handshake that nobody gives up, events of its stream and entries of
  its log, each with its time: an operation starts when the one before has ended, and the
  entry that it leaves is made when it ends.

  Proved: every operation and every exchange is cut at the moment the caller gives up
  (`cut_run`). So a handshake that ends by that moment is the same, and any other ends
  there as cancelled, with what its timeline lists up to then and nothing else
  (`connect_cancelled`).
-/

namespace SocksTunnel

open Script

/-- What is seen of a handshake. -/
inductive Happening where
  | event (e : Event)
  | entry (e : Entry)

/-- What is seen, each with its time. -/
abbrev Timeline := List (Time × Happening)

namespace Timeline

def events (l : Timeline) : List Event := l.filterMap fun x =>
  match x.2 with
  | .event e => some e
  | .entry _ => none

def entries (l : Timeline) : List Entry := l.filterMap fun x =>
  match x.2 with
  | .event _ => none
  | .entry e => some e

/-- What is seen by a moment. -/
def upTo (k : Time) (l : Timeline) : Timeline := l.filter fun x => x.1 ≤ k

variable {l m : Timeline} {k : Time}

theorem events_append : events (l ++ m) = events l ++ events m := List.filterMap_append

theorem entries_append : entries (l ++ m) = entries l ++ entries m := List.filterMap_append

theorem upTo_append : upTo k (l ++ m) = upTo k l ++ upTo k m := List.filter_append ..

theorem upTo_of_le (h : ∀ x ∈ l, x.1 ≤ k) : upTo k l = l := List.filter_eq_self.mpr fun x hx => decide_eq_true (h x hx)

theorem upTo_of_lt (h : ∀ x ∈ l, k < x.1) : upTo k l = [] :=
  List.filter_eq_nil_iff.mpr fun x hx => by simpa using h x hx

/-- What is seen of one operation: its start, and all else when it ends. -/
def Spans (a b : Time) (x : Happening) (l : Timeline) : Prop := ∃ rest, l = (a, x) :: rest ∧ ∀ y ∈ rest, y.1 = b

variable {a b : Time} {x : Happening}

theorem Spans.within (h : l.Spans a b x) (hab : a ≤ b) : ∀ y ∈ l, a ≤ y.1 ∧ y.1 ≤ b := by
  obtain ⟨rest, rfl, hrest⟩ := h
  intro y hy
  rcases List.mem_cons.mp hy with rfl | hy
  · exact ⟨le_refl _, hab⟩
  · rw [hrest y hy]
    exact ⟨hab, le_refl _⟩

theorem Spans.sorted (h : l.Spans a b x) (hab : a ≤ b) : l.Pairwise fun y z => y.1 ≤ z.1 := by
  obtain ⟨rest, rfl, hrest⟩ := h
  refine List.pairwise_cons.mpr ⟨fun y hy => ?_, ?_⟩
  · rw [hrest y hy]
    exact hab
  · exact List.pairwise_of_forall_mem_list fun y hy z hz => by rw [hrest y hy, hrest z hz]

theorem Spans.upTo (h : l.Spans a b x) (hk : a ≤ k) (hlt : k < b) : l.upTo k = [(a, x)] := by
  obtain ⟨rest, rfl, hrest⟩ := h
  have hnone : Timeline.upTo k rest = [] := upTo_of_lt fun y hy => by rw [hrest y hy]; exact hlt
  rw [Timeline.upTo, List.filter_cons, if_pos (decide_eq_true hk)]
  exact congrArg _ hnone

end Timeline

/-- The time of an event of an operation: the end that it names, or the start. -/
def Script.Event.time (start : Time) : Event → Time
  | written t => t
  | _ => start

namespace Session

def now (s : Session Stream) : Time := s.stream.clock.now

/-- The session under a caller that gives up at a moment. -/
def cancelling (k : Time) (s : Session Stream) : Session Stream := { s with stream := s.stream.cancelling k }

/-- What an operation adds. -/
def between (s u : Session Stream) : Timeline :=
  ((u.stream.events.drop s.stream.events.length).map fun e => (e.time s.now, .event e)) ++
    (u.entries.drop s.entries.length).map fun e => (u.now, .entry e)

/-- What an operation adds, and then what is seen of what follows it if it succeeds. -/
def followed {α : Type} (m : Session Stream → Except Failure α × Session Stream) (tail : α → Session Stream → Timeline)
    (s : Session Stream) : Timeline :=
  match m s with
  | (.ok a, u) => s.between u ++ tail a u
  | (.error _, u) => s.between u

/-- What is seen of an exchange. -/
def timeline (t : Timeouts) : Exchange → Session Stream → Timeline
  | .done e => fun s => [(s.now, .entry e)]
  | .fail none _ => fun _ => []
  | .fail (some e) _ => fun s => [(s.now, .entry e)]
  | .send payload next => followed (send t.write payload) fun _ => timeline t next
  | .receive n next => followed (receive t.read n) fun data => timeline t (next data)

/-! ## What a caller that gives up cuts -/

/-- Steps that end like this from a session, and show what a timeline lists; under a caller that gives up they are the
same if they end by then, and otherwise are cancelled there. -/
structure Cut {α : Type} (m : Session Stream → Except Failure α × Session Stream) (s : Session Stream)
    (o : Except Failure α) (u : Session Stream) (l : Timeline) : Prop where
  result : m s = (o, u)
  free : u.stream.IsFree
  later : s.now ≤ u.now
  events : u.stream.events = s.stream.events ++ l.events
  entries : u.entries = s.entries ++ l.entries
  within : ∀ x ∈ l, s.now ≤ x.1 ∧ x.1 ≤ u.now
  sorted : l.Pairwise fun x y => x.1 ≤ y.1
  after : ∀ {k}, u.now ≤ k → m (s.cancelling k) = (o, u.cancelling k)
  during : ∀ {k}, s.now ≤ k → k < u.now → ∃ v, m (s.cancelling k) = (.error (.peer (.cancelled [])), v) ∧ v.now = k ∧
    v.stream.events = s.stream.events ++ (l.upTo k).events ∧ v.entries = s.entries ++ (l.upTo k).entries

variable {α β : Type} {m : Session Stream → Except Failure α × Session Stream} {s u : Session Stream} {l : Timeline}

/-- Steps, and what follows them if they succeed. -/
def andThen (m : Session Stream → Except Failure α × Session Stream)
    (next : α → Session Stream → Except Failure β × Session Stream) (s : Session Stream) : Except Failure β × Session Stream :=
  match m s with
  | (.ok a, u) => next a u
  | (.error f, u) => (.error f, u)

variable {next : α → Session Stream → Except Failure β × Session Stream}

theorem andThen_ok {a : α} (h : m s = (.ok a, u)) : andThen m next s = next a u := by rw [andThen, h]

theorem andThen_error {f : Failure} (h : m s = (.error f, u)) : andThen m next s = (.error f, u) := by rw [andThen, h]

theorem Cut.error {f : Failure} (h : Cut m s (.error f) u l) : Cut (andThen m next) s (.error f) u l where
  result := andThen_error h.result
  free := h.free
  later := h.later
  events := h.events
  entries := h.entries
  within := h.within
  sorted := h.sorted
  after hk := andThen_error (h.after hk)
  during hk hlt := by
    obtain ⟨v, hv, rest⟩ := h.during hk hlt
    exact ⟨v, andThen_error hv, rest⟩

theorem Cut.trans {a : α} {o : Except Failure β} {v : Session Stream} {l' : Timeline} (h : Cut m s (.ok a) u l)
    (h' : Cut (next a) u o v l') : Cut (andThen m next) s o v (l ++ l') where
  result := by rw [andThen_ok h.result, h'.result]
  free := h'.free
  later := le_trans h.later h'.later
  events := by rw [h'.events, h.events, Timeline.events_append, List.append_assoc]
  entries := by rw [h'.entries, h.entries, Timeline.entries_append, List.append_assoc]
  within x hx := by
    rcases List.mem_append.mp hx with hx | hx
    · exact ⟨(h.within x hx).1, le_trans (h.within x hx).2 h'.later⟩
    · exact ⟨le_trans h.later (h'.within x hx).1, (h'.within x hx).2⟩
  sorted := List.pairwise_append.mpr
    ⟨h.sorted, h'.sorted, fun x hx y hy => le_trans (h.within x hx).2 (h'.within y hy).1⟩
  after hk := by rw [andThen_ok (h.after (le_trans h'.later hk)), h'.after hk]
  during {k} hk hlt := by
    rw [Timeline.upTo_append]
    by_cases hu : u.now ≤ k
    · -- the first steps are over by then, and all of them was seen
      obtain ⟨w, hw, hn, he, hes⟩ := h'.during hu hlt
      rw [Timeline.upTo_of_le fun x hx => le_trans (h.within x hx).2 hu, Timeline.events_append, Timeline.entries_append]
      refine ⟨w, ?_, hn, ?_, ?_⟩
      · rw [andThen_ok (h.after hu), hw]
      · rw [he, h.events, List.append_assoc]
      · rw [hes, h.entries, List.append_assoc]
    · -- and otherwise what follows them is not seen at all
      have hu := not_le.mp hu
      obtain ⟨w, hw, rest⟩ := h.during hk hu
      rw [Timeline.upTo_of_lt fun x hx => lt_of_lt_of_le hu (h'.within x hx).1, List.append_nil]
      exact ⟨w, andThen_error hw, rest⟩

theorem Cut.followed {tail : α → Session Stream → Timeline} (h : Cut m s (m s).1 (m s).2 (s.between (m s).2))
    (hn : ∀ a {u : Session Stream}, u.stream.IsFree → Cut (next a) u (next a u).1 (next a u).2 (tail a u)) :
    Cut (andThen m next) s (andThen m next s).1 (andThen m next s).2 (followed m tail s) := by
  cases hm : m s with
  | mk o u =>
    rw [hm] at h
    cases o with
    | error f =>
      rw [andThen_error hm, Session.followed, hm]
      exact h.error
    | ok a =>
      rw [andThen_ok hm, Session.followed, hm]
      exact h.trans (hn a h.free)

/-! ## Operations -/

/-- An operation of the stream: what its outcome means, how many octets it adds to those sent and received, and the entry
that it leaves. -/
def operate (g : Stream → Outcome α × Stream) (meaning : Outcome α → Except Failure β) (count : β → Nat × Nat)
    (entry : β → Entry) (s : Session Stream) : Except Failure β × Session Stream :=
  match meaning (g s.stream).1 with
  | .ok b => (.ok b, ⟨(g s.stream).2, s.sent + (count b).1, s.received + (count b).2, s.entries ++ [entry b]⟩)
  | .error f => (.error f, { s with stream := (g s.stream).2 })

theorem between_events (s u : Session Stream) : (s.between u).events = u.stream.events.drop s.stream.events.length := by
  have he : ∀ (t : Time) (es : List Entry), Timeline.events (es.map fun e => (t, .entry e)) = [] := by
    intro t es
    simp [Timeline.events, List.filterMap_map]
  rw [between, Timeline.events_append, he, List.append_nil, Timeline.events, List.filterMap_map]
  exact List.filterMap_some

theorem between_entries (s u : Session Stream) : (s.between u).entries = u.entries.drop s.entries.length := by
  have he : ∀ (f : Event → Time) (es : List Event), Timeline.entries (es.map fun e => (f e, .event e)) = [] := by
    intro f es
    simp [Timeline.entries, List.filterMap_map]
  rw [between, Timeline.entries_append, he, List.nil_append, Timeline.entries, List.filterMap_map]
  exact List.filterMap_some

theorem between_spans {first : Event} (hfirst : ∀ t, first.time t = t) {es : List Event} {ns : List Entry}
    (he : u.stream.events = s.stream.events ++ first :: es) (ht : ∀ e ∈ es, e = .written u.now)
    (hn : u.entries = s.entries ++ ns) : (s.between u).Spans s.now u.now (.event first) := by
  refine ⟨_, by rw [between, he, hn, List.drop_left, List.drop_left, List.map_cons, hfirst]; rfl, fun x hx => ?_⟩
  rcases List.mem_append.mp hx with hx | hx
  · obtain ⟨e, hmem, rfl⟩ := List.mem_map.mp hx
    rw [ht e hmem]
    rfl
  · obtain ⟨e, -, rfl⟩ := List.mem_map.mp hx
    rfl

theorem cut_operate {g : Stream → Outcome α × Stream} {meaning : Outcome α → Except Failure β} {first : Event}
    (hg : Stream.Interruptible first g) (hfirst : ∀ t, first.time t = t)
    (hm : meaning (.failed (.cancelled [])) = .error (.peer (.cancelled []))) (count : β → Nat × Nat) (entry : β → Entry)
    (hs : s.stream.IsFree) :
    let r := operate g meaning count entry s
    Cut (operate g meaning count entry) s r.1 r.2 (s.between r.2) := by
  intro r
  have hstream : r.2.stream = (g s.stream).2 := by
    show (operate g meaning count entry s).2.stream = _
    unfold operate
    split <;> rfl
  have hnow : r.2.now = (g s.stream).2.clock.now := by rw [now, hstream]
  obtain ⟨ns, hn⟩ : ∃ ns, r.2.entries = s.entries ++ ns := by
    show ∃ ns, (operate g meaning count entry s).2.entries = _
    unfold operate
    split
    · exact ⟨_, rfl⟩
    · exact ⟨[], (List.append_nil _).symm⟩
  obtain ⟨es, he, htimes⟩ := hg.events hs
  obtain ⟨hfree, hlater⟩ := hg.free hs
  rw [← hstream] at he hfree hlater
  rw [← hnow] at htimes
  have hspans := between_spans hfirst he htimes hn
  have hevents := between_events s r.2
  have hentries := between_entries s r.2
  rw [he, List.drop_left] at hevents
  rw [hn, List.drop_left] at hentries
  exact {
    result := rfl
    free := hfree
    later := hlater
    events := by rw [he, hevents]
    entries := by rw [hn, hentries]
    within := hspans.within hlater
    sorted := hspans.sorted hlater
    after := by
      intro k hk
      have hx : g (s.cancelling k).stream = ((g s.stream).1, (g s.stream).2.cancelling k) := hg.after hs (hnow ▸ hk)
      show operate g meaning count entry (s.cancelling k) =
        ((operate g meaning count entry s).1, (operate g meaning count entry s).2.cancelling k)
      unfold operate
      rw [hx]
      cases meaning (g s.stream).1 <;> rfl
    during := by
      intro k hk hlt
      obtain ⟨ho, hw, hev⟩ := hg.during hs (hnow ▸ hlt)
      have hx : meaning (g (s.cancelling k).stream).1 = .error (.peer (.cancelled [])) := by
        rw [show (g (s.cancelling k).stream).1 = _ from ho, hm]
      refine ⟨{ s.cancelling k with stream := (g (s.stream.cancelling k)).2 }, ?_, hw, ?_, ?_⟩
      · rw [operate, hx]
        rfl
      · rw [hspans.upTo hk hlt]
        exact hev
      · rw [hspans.upTo hk hlt]
        exact (List.append_nil _).symm }

/-- What the outcome of a write means. -/
def ofWrite (limit : Duration) : Outcome Unit → Except Failure Unit
  | .done _ => .ok ()
  | .expired => .error (.handshake (.expired .write limit))
  | .failed e => .error (.ofPeer .write limit e)

/-- What the outcome of a read of `n` octets means. -/
def ofRead (limit : Duration) (n : Int) : Outcome Bytes → Except Failure Bytes
  | .done data => exactly n data
  | .expired => .error (.handshake (.expired .read limit))
  | .failed e => .error (.ofRead limit n e)

theorem send_eq_operate {limit : Duration} (hz : limit.isZero = false) (payload : Bytes) (s : Session Stream) :
    s.send limit payload = operate (Stream.write limit.milliseconds payload) (ofWrite limit) (fun _ => (payload.length, 0))
      (fun _ => .sent payload.length) s := by
  simp only [send, write, hz, Bool.false_eq_true, if_false, operate]
  rw [show Transport.write limit.milliseconds payload s.stream = s.stream.write limit.milliseconds payload from rfl]
  cases s.stream.write limit.milliseconds payload with
  | mk o u => cases o <;> rfl

theorem receive_eq_operate {limit : Duration} (hz : limit.isZero = false) (n : Int) (s : Session Stream) :
    s.receive limit n = operate (Stream.read limit.milliseconds n) (ofRead limit n) (fun data => (0, data.length))
      (fun data => .received data.length) s := by
  simp only [receive, read, hz, Bool.false_eq_true, if_false, operate]
  rw [show Transport.read limit.milliseconds n s.stream = s.stream.read limit.milliseconds n from rfl]
  cases s.stream.read limit.milliseconds n with
  | mk o u =>
    cases o with
    | done data =>
      simp only [ofRead]
      cases exactly n data <;> rfl
    | expired | failed e => rfl

theorem between_self (s : Session Stream) : s.between s = [] := by
  rw [between, List.drop_length, List.drop_length]
  rfl

/-- What fails before the stream is touched. -/
theorem cut_unstarted (f : Failure) (hs : s.stream.IsFree) :
    Cut (fun s => (.error f, s)) s (.error f : Except Failure α) s [] where
  result := rfl
  free := hs
  later := le_refl _
  events := (List.append_nil _).symm
  entries := (List.append_nil _).symm
  within := nofun
  sorted := .nil
  after _ := rfl
  during hk hlt := absurd hlt (not_lt.mpr hk)

theorem cut_send (limit : Duration) (payload : Bytes) (hs : s.stream.IsFree) :
    Cut (send limit payload) s (s.send limit payload).1 (s.send limit payload).2 (s.between (s.send limit payload).2) := by
  cases hz : limit.isZero with
  | true =>
    have hf : send limit payload = fun s : Session Stream => (.error (.handshake (.expired .write limit)), s) := by
      funext s
      simp only [send, write, hz, if_true]
    rw [hf, between_self]
    exact cut_unstarted _ hs
  | false =>
    rw [funext (send_eq_operate hz payload)]
    exact cut_operate (Stream.interruptible_write limit.milliseconds_nonneg payload) (fun _ => rfl) rfl _ _ hs

theorem cut_receive (limit : Duration) (n : Int) (hs : s.stream.IsFree) :
    Cut (receive limit n) s (s.receive limit n).1 (s.receive limit n).2 (s.between (s.receive limit n).2) := by
  cases hz : limit.isZero with
  | true =>
    have hf : receive limit n = fun s : Session Stream => (.error (.handshake (.expired .read limit)), s) := by
      funext s
      simp only [receive, read, hz, if_true]
    rw [hf, between_self]
    exact cut_unstarted _ hs
  | false =>
    rw [funext (receive_eq_operate hz n)]
    exact cut_operate (Stream.interruptible_read limit.milliseconds_nonneg n) (fun _ => rfl) rfl _ _ hs

theorem cut_noted (o : Except Failure Unit) (e : Entry) (hs : s.stream.IsFree) :
    Cut (fun s => (o, s.note e)) s o (s.note e) [(s.now, .entry e)] where
  result := rfl
  free := hs
  later := le_refl _
  events := (List.append_nil _).symm
  entries := rfl
  within x hx := by
    obtain rfl := List.mem_singleton.mp hx
    exact ⟨le_refl _, le_refl _⟩
  sorted := List.pairwise_singleton ..
  after _ := rfl
  during hk hlt := absurd hlt (not_lt.mpr hk)

/-- Every exchange is cut, operation by operation. -/
theorem cut_run (t : Timeouts) (x : Exchange) (hs : s.stream.IsFree) :
    Cut (run t x) s (s.run t x).1 (s.run t x).2 (timeline t x s) := by
  induction x generalizing s with
  | done e => exact cut_noted (.ok ()) e hs
  | fail e f =>
    cases e with
    | none => exact cut_unstarted (.handshake f) hs
    | some e => exact cut_noted (.error (.handshake f)) e hs
  | send payload next ih =>
    have hrun : run t (.send payload next) = andThen (send t.write payload) fun _ => run t next := by
      funext s
      rw [run, andThen]
      cases s.send t.write payload with
      | mk o u => cases o <;> rfl
    rw [hrun]
    exact (cut_send t.write payload hs).followed fun _ _ hu => ih hu
  | receive n next ih =>
    have hrun : run t (.receive n next) = andThen (receive t.read n) fun data => run t (next data) := by
      funext s
      rw [run, andThen]
      cases s.receive t.read n with
      | mk o u => cases o <;> rfl
    rw [hrun]
    exact (cut_receive t.read n hs).followed fun data _ hu => ih data hu

end Session

/-! ## Handshakes -/

namespace Route

/-- What is seen of a handshake along a route. -/
def timeline (r : Route) (s : Session Stream) : Timeline :=
  match r.exchange with
  | .error _ => []
  | .ok x =>
    match r.timeouts with
    | .error _ => []
    | .ok t => s.timeline t x

theorem cut_connect (r : Route) {s : Session Stream} (hs : s.stream.IsFree) :
    Session.Cut r.connect s (r.connect s).1 (r.connect s).2 (r.timeline s) := by
  unfold connect timeline
  cases r.exchange with
  | error f => exact Session.cut_unstarted (.fault f) hs
  | ok x =>
    cases r.timeouts with
    | error f => exact Session.cut_unstarted (.fault f) hs
    | ok t => exact Session.cut_run t x hs

/-- Under a caller that gives up, a handshake that would have ended by then is the same. Any other ends there as
cancelled, and its events and entries are those that the handshake has up to then if nobody gives up: operations start
and end in the order of their times, and none starts later. -/
theorem connect_cancelled (r : Route) {s : Stream} (hs : s.IsFree) {c : Time} (hc : 0 < c) :
    let whole := r.connect (Session.start s)
    let cut := r.connect (Session.start (s.cancelling (s.clock.now + c)))
    let seen := r.timeline (Session.start s)
    (whole.2.stream.events = s.events ++ seen.events ∧ whole.2.entries = seen.entries ∧
      seen.Pairwise (fun x y => x.1 ≤ y.1) ∧ ∀ x ∈ seen, s.clock.now ≤ x.1 ∧ x.1 ≤ whole.2.now) ∧
    (whole.2.now - s.clock.now ≤ c → cut = (whole.1, whole.2.cancelling (s.clock.now + c))) ∧
    (c < whole.2.now - s.clock.now → cut.1 = .error (.peer (.cancelled [])) ∧
      cut.2.stream.events = s.events ++ (seen.upTo (s.clock.now + c)).events ∧
      cut.2.entries = (seen.upTo (s.clock.now + c)).entries ∧ cut.2.now - s.clock.now = c) := by
  intro whole cut seen
  have h : Session.Cut r.connect (Session.start s) whole.1 whole.2 seen := cut_connect r hs
  refine ⟨⟨h.events, h.entries, h.sorted, h.within⟩, fun hle => h.after (sub_le_iff_le_add'.mp hle), fun hlt => ?_⟩
  have hk : (Session.start s).now ≤ s.clock.now + c := le_add_of_nonneg_right (le_of_lt hc)
  obtain ⟨v, hv, hn, he, hes⟩ := h.during hk (lt_sub_iff_add_lt'.mp hlt)
  have hcut : cut = (.error (.peer (.cancelled [])), v) := hv
  rw [hcut]
  exact ⟨rfl, he, hes, by rw [hn, add_sub_cancel_left]⟩

/-- A caller that gives up in the middle of the first read. -/
theorem connect_cancelled_reading :
    let r := Route.socks5 (.ipv4 .zero) 80 (.timeouts (.uniform .ten))
    let s : Stream := ⟨⟨0, none⟩, [], [[5, 0]], [⟨100, none, none⟩], [⟨300, none, none⟩], []⟩
    let cut := r.connect (Session.start (s.cancelling (s.clock.now + 250)))
    s.IsFree ∧ cut.1 = .error (.peer (.cancelled [])) ∧
      cut.2.stream.events = [.write [5, 1, 0], .written 100, .read 2] ∧ cut.2.entries.length = 1 ∧
      cut.2.now - s.clock.now = 250 := by
  intro r s cut
  have hs : s.IsFree := by
    refine ⟨rfl, ?_, ?_⟩ <;> intro a ha <;> obtain rfl := List.mem_singleton.mp ha <;> decide +kernel
  obtain ⟨-, -, hlate⟩ := connect_cancelled r hs (c := 250) (by decide +kernel)
  obtain ⟨ho, he, hes, hn⟩ := hlate (by decide +kernel)
  have hevents : s.events ++ ((r.timeline (Session.start s)).upTo (s.clock.now + 250)).events =
      [.write [5, 1, 0], .written 100, .read 2] := by decide +kernel
  have hentries : ((r.timeline (Session.start s)).upTo (s.clock.now + 250)).entries.length = 1 := by decide +kernel
  rw [hevents] at he
  rw [← hes] at hentries
  have hcut : cut = r.connect (Session.start (s.cancelling (s.clock.now + 250))) := rfl
  rw [hcut]
  exact ⟨hs, ho, he, hentries, hn⟩

end Route

end SocksTunnel
