import SocksTunnel.Handshake.Session
import SocksTunnel.Script.Reader

/-
  SocksTunnel.Script.Network — a scripted network with one proxy: how the attempt to
  connect goes, what the proxy sends at once and after each write, how long writes take
  and how closing goes. What was written counts from the moment it was handed over, even
  if it is not carried away.

  Proved: a write is kept whatever comes of it (`written_write`), and closing again
  changes nothing (`close_close`).
-/

namespace SocksTunnel.Script

structure Plan where
  connecting : Action
  initial : List Chunk
  drains : List Action
  replies : List (List Chunk)
  closing : Action
  deriving Repr

structure Network where
  plan : Plan
  now : Time
  reader : Reader
  connects : List Endpoint
  written : List Bytes
  /-- Nothing before there is a connection. -/
  isClosing : Option Bool
  closeCalls : Nat
  deriving Repr

namespace Network

def start (p : Plan) : Network := ⟨p, 0, .empty, [], [], none, 0⟩

/-- Waits for an action; nobody gives up. -/
def await (limit : Option Time) (a : Action) (n : Network) : Outcome Unit × Network :=
  let (o, c) := Clock.await ⟨n.now, none⟩ limit a
  (o, { n with now := c.now })

def connect (limit : Time) (proxy : Endpoint) (n : Network) : Outcome Unit × Network :=
  match await (some limit) n.plan.connecting { n with connects := n.connects ++ [proxy] } with
  | (.done _, n) => (.done (), { n with isClosing := some false, reader := n.reader.schedule n.now n.plan.initial })
  | r => r

/-- The next reply sets out. -/
def reply (n : Network) : Network :=
  match n.plan.replies with
  | [] => n
  | cs :: rest => { n with plan := { n.plan with replies := rest }, reader := n.reader.schedule n.now cs }

/-- The data counts as written before it is known to be carried away. -/
def hand (payload : Bytes) (n : Network) : Network :=
  { n with written := n.written ++ [payload], plan := { n.plan with drains := (Action.next n.plan.drains).2 } }

def write (limit : Option Time) (payload : Bytes) (n : Network) : Outcome Unit × Network :=
  match await limit (Action.next n.plan.drains).1 (hand payload n) with
  | (.done _, n) => (.done (), n.reply)
  | r => r

/-! ## Reading -/

/-- The words for a size below zero. -/
def negativeSize : Text := .lit "readexactly size can not be less than zero"

/-- The network with everything that is due by now. -/
def updated (n : Network) : Network := { n with reader := n.reader.deliver n.now n.reader.arrivals }

/-- Reads once there is enough, or the data has ended. -/
def readWhen (limit : Option Time) (enough : Reader → Bool) (finish : Reader → Except PeerError Bytes × Reader)
    (n : Network) : Outcome Bytes × Network :=
  let complete (now : Time) (r : Reader) : Outcome Bytes × Network :=
    match finish r with
    | (.ok b, r) => (.done b, { n with now := now, reader := r })
    | (.error e, r) => (.failed e, { n with now := now, reader := r })
  if enough n.reader || n.reader.isEnded then complete n.now n.reader
  else
    match n.reader.await (limit.map (n.now + ·)) enough n.reader.arrivals with
    | (.ready t, r) => complete t r
    | (.failed t e, r) => (.failed e, { n with now := t, reader := r })
    | (.expired t, r) => (.expired, { n with now := t, reader := r })
    | (.stuck, r) => (.failed (.runtime []), { n with reader := r })

/-- Exactly `k` octets. -/
def readExactly (limit : Option Time) (k : Int) (n : Network) : Outcome Bytes × Network :=
  let n := n.updated
  if k < 0 then (.failed (.badValue negativeSize), n)
  else
    match n.reader.broken with
    | some e => (.failed e, n)
    | none =>
      if k = 0 then (.done [], n)
      else readWhen limit (fun r => decide (k ≤ r.buffer.length)) (Reader.finish k.toNat) n

/-- Some octets, at most `k`; none at the end of the data. -/
def readSome (limit : Option Time) (k : Nat) (n : Network) : Outcome Bytes × Network :=
  let n := n.updated
  match n.reader.broken with
  | some e => (.failed e, n)
  | none =>
    if k = 0 then (.done [], n)
    else
      readWhen limit (fun r => !r.buffer.isEmpty) (fun r => let (b, r) := r.take k; (.ok b, r)) n

/-- How much one read asks for. -/
def blockSize : Nat := 65536

/-- Block by block up to the end of the data; what was read is lost if a block fails. -/
def readBlocks (limit : Option Time) : Nat → Bytes → Network → Outcome Bytes × Network
  | 0, _, n => (.failed (.runtime []), n)
  | fuel + 1, got, n =>
    match readSome limit blockSize n with
    | (.done [], n) => (.done got, n)
    | (.done b, n) => readBlocks limit fuel (got ++ b) n
    | r => r

/-- As many reads as there can be: each takes octets that are here or still to come. -/
def readBound (n : Network) : Nat :=
  n.reader.buffer.length + ((n.reader.arrivals.flatMap Batch.chunks).flatMap fun c => c.data.getD []).length + 1

/-- At most `k` octets, or all up to the end for a negative `k`. -/
def read (limit : Option Time) (k : Int) (n : Network) : Outcome Bytes × Network :=
  if k < 0 then readBlocks limit (readBound n) [] n else readSome limit k.toNat n

/-! ## Closing -/

def close (n : Network) : Network :=
  if n.isClosing = some false then { n with isClosing := some true, closeCalls := n.closeCalls + 1 } else n

def awaitClosed (n : Network) : Outcome Unit × Network := await none n.plan.closing n

instance : Transport Network where
  write limit := write (some limit)
  read limit := readExactly (some limit)

theorem written_write (limit : Option Time) (payload : Bytes) (n : Network) :
    (n.write limit payload).2.written = n.written ++ [payload] := by
  unfold write await
  split
  · rename_i h
    simp only [Prod.mk.injEq] at h
    obtain ⟨-, rfl⟩ := h
    unfold reply
    split <;> rfl
  · rfl

theorem close_close (n : Network) : n.close.close = n.close := by
  unfold close
  split <;> simp_all

end Network

end SocksTunnel.Script
