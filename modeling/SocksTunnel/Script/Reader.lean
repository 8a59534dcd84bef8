import SocksTunnel.Script.Action

/-
  SocksTunnel.Script.Reader — the receiving end of a scripted connection. Chunks of data,
  the end of the data and errors arrive at their own times; chunks of one moment arrive
  together, in the order in which they were scheduled. A reader that waits is woken by the
  first of them that brings anything. After an error every read fails, whatever is
  buffered, and data after the end is lost.

  A read of exactly `n` octets waits until it has them all and keeps the surplus; at the
  end of the data it gives up what there is. A read of some octets waits only if there are
  none.

  Proved: chunks of one moment bring their data in order (`buffer_feedAll`), and a
  schedule keeps every chunk (`chunks_insert`).
-/

namespace SocksTunnel.Script

/-- What arrives in one piece: data, then the end of the data, then an error. -/
structure Chunk where
  data : Option Bytes
  isEnd : Bool
  error : Option PeerError
  delay : Time
  deriving Repr

/-- Chunks that arrive at one moment. -/
structure Batch where
  time : Time
  chunks : List Chunk
  deriving Repr

/-- Adds a chunk to the batch of its time; the batches are in the order of their times. -/
def Batch.insert (t : Time) (c : Chunk) : List Batch → List Batch
  | [] => [⟨t, [c]⟩]
  | b :: r =>
    if t < b.time then ⟨t, [c]⟩ :: b :: r
    else if t = b.time then ⟨t, b.chunks ++ [c]⟩ :: r
    else b :: insert t c r

structure Reader where
  buffer : Bytes
  isEnded : Bool
  broken : Option PeerError
  arrivals : List Batch
  deriving Repr

namespace Reader

def empty : Reader := ⟨[], false, none, []⟩

/-- Lets chunks arrive, each after its own delay. -/
def schedule (now : Time) (chunks : List Chunk) (r : Reader) : Reader :=
  { r with arrivals := chunks.foldl (fun bs c => Batch.insert (now + c.delay) c bs) r.arrivals }

/-- Whether a chunk is lost, since its data comes after the end. -/
def loses (r : Reader) (c : Chunk) : Bool := r.isEnded && c.data.isSome

def feed (r : Reader) (c : Chunk) : Reader :=
  if r.loses c then r
  else
    { r with buffer := r.buffer ++ c.data.getD [], isEnded := r.isEnded || c.isEnd,
             broken := if c.error.isSome then c.error else r.broken }

/-- What a chunk tells a reader that waits: to look again, or an error; nothing if it brings nothing. -/
def wakes (r : Reader) (c : Chunk) : Option (Except PeerError Unit) :=
  if r.loses c then none
  else if c.data.getD [] ≠ [] ∨ c.isEnd then some (.ok ())
  else c.error.map .error

/-- What the first of the chunks that wakes a reader tells it, and the reader after all of them. -/
def feedAll : Reader → List Chunk → Option (Except PeerError Unit) × Reader
  | r, [] => (none, r)
  | r, c :: rest =>
    let (w, s) := feedAll (r.feed c) rest
    ((r.wakes c).or w, s)

/-- Everything that is due by now. -/
def deliver (now : Time) : Reader → List Batch → Reader
  | r, [] => { r with arrivals := [] }
  | r, b :: rest => if b.time ≤ now then deliver now (r.feedAll b.chunks).2 rest else { r with arrivals := b :: rest }

/-- How a wait ends: the reader has enough or its data ended, it was told an error, the limit passed
first, or nothing will ever come. -/
inductive Wait where
  | ready (now : Time)
  | failed (now : Time) (e : PeerError)
  | expired (now : Time)
  | stuck
  deriving Repr

/-- Waits batch by batch until the reader has enough. -/
def await (deadline : Option Time) (enough : Reader → Bool) : Reader → List Batch → Wait × Reader
  | r, [] =>
    match deadline with
    | some t => (.expired t, { r with arrivals := [] })
    | none => (.stuck, { r with arrivals := [] })
  | r, b :: rest =>
    match deadline.filter (· < b.time) with
    | some t => (.expired t, { r with arrivals := b :: rest })
    | none =>
      match r.feedAll b.chunks with
      | (some (.error e), s) => (.failed b.time e, { s with arrivals := rest })
      | (some (.ok _), s) =>
        if enough s || s.isEnded then (.ready b.time, { s with arrivals := rest }) else await deadline enough s rest
      | (none, s) => await deadline enough s rest

/-- Takes up to `n` octets. -/
def take (n : Nat) (r : Reader) : Bytes × Reader := (r.buffer.take n, { r with buffer := r.buffer.drop n })

/-- Exactly `n` octets of what there is; at the end of the data there may be fewer. -/
def finish (n : Nat) (r : Reader) : Except PeerError Bytes × Reader :=
  if r.buffer.length < n then (.error (.incomplete r.buffer (some n)), { r with buffer := [] })
  else
    let (b, r) := r.take n
    (.ok b, r)

theorem buffer_feedAll {r : Reader} (h : r.isEnded = false) (cs : List Chunk) (hc : ∀ c ∈ cs, c.isEnd = false) :
    (r.feedAll cs).2.buffer = r.buffer ++ cs.flatMap fun c => c.data.getD [] := by
  induction cs generalizing r with
  | nil => simp [feedAll]
  | cons c rest ih =>
    have h0 : (r.feed c).isEnded = false := by
      simp [feed, loses, h, hc c (by simp)]
    have h1 : (r.feed c).buffer = r.buffer ++ c.data.getD [] := by
      simp [feed, loses, h]
    show ((r.feed c).feedAll rest).2.buffer = _
    rw [ih h0 fun d hd => hc d (by simp [hd]), h1]
    simp

theorem chunks_insert (t : Time) (c : Chunk) (bs : List Batch) :
    ((Batch.insert t c bs).flatMap Batch.chunks).length = (bs.flatMap Batch.chunks).length + 1 := by
  induction bs with
  | nil => rfl
  | cons b r ih =>
    unfold Batch.insert
    split
    · simp [Nat.add_comm]
    · split
      · simp only [List.flatMap_cons, List.length_append, List.length_singleton]; omega
      · simp only [List.flatMap_cons, List.length_append, ih]; omega

end Reader

end SocksTunnel.Script
