import SocksTunnel.Handshake.Session
import SocksTunnel.Script.Action

/-
  SocksTunnel.Script.Stream — a scripted stream: every write that succeeds brings the next
  reply into a buffer, and every read takes octets out of it. Each operation uses up one
  action of its own kind. What happens is kept as events in their order.

  A read of more than the buffer holds ends the stream: it empties the buffer.

  Proved: a read that succeeds without data of its own takes what it returns from the front
  of the buffer (`take_eq_ok`).
-/

namespace SocksTunnel.Script

inductive Event where
  | write (payload : Bytes)
  | written (at_ : Time)
  | read (n : Int)
  deriving DecidableEq, Repr

structure Stream where
  clock : Clock
  buffer : Bytes
  replies : List Bytes
  writes : List Action
  reads : List Action
  events : List Event
  deriving Repr

namespace Stream

def see (s : Stream) (e : Event) : Stream := { s with events := s.events ++ [e] }

/-- The next reply arrives in the buffer. -/
def arrive (s : Stream) : Stream :=
  match s.replies with
  | [] => s
  | r :: rest => { s with buffer := s.buffer ++ r, replies := rest }

def write (limit : Time) (payload : Bytes) (s : Stream) : Outcome Unit × Stream :=
  let (a, rest) := Action.next s.writes
  let s := see { s with writes := rest } (.write payload)
  match s.clock.await (some limit) a with
  | (.done _, c) => (.done (), see (arrive { s with clock := c }) (.written c.now))
  | (o, c) => (o, { s with clock := c })

/-- Where a slice that is `n` long ends, a negative `n` counted from the back. -/
def cut (n : Int) (length : Nat) : Nat := if n < 0 then (length + n).toNat else n.toNat

/-- Takes `n` octets from the buffer. -/
def take (n : Int) (s : Stream) : Except PeerError Bytes × Stream :=
  if (s.buffer.length : Int) < n then (.error (.incomplete s.buffer (some n)), { s with buffer := [] })
  else
    let k := cut n s.buffer.length
    (.ok (s.buffer.take k), { s with buffer := s.buffer.drop k })

def read (limit : Time) (n : Int) (s : Stream) : Outcome Bytes × Stream :=
  let (a, rest) := Action.next s.reads
  let s := see { s with reads := rest } (.read n)
  match s.clock.await (some limit) a with
  | (.done _, c) =>
    let s := { s with clock := c }
    match a.data with
    | some d => (.done d, s)
    | none =>
      match s.take n with
      | (.ok d, s) => (.done d, s)
      | (.error e, s) => (.failed e, s)
  | (.expired, c) => (.expired, { s with clock := c })
  | (.failed e, c) => (.failed e, { s with clock := c })

instance : Transport Stream := ⟨write, read⟩

theorem take_eq_ok {n : Int} {s : Stream} {b : Bytes} (h : (s.take n).1 = .ok b) :
    s.buffer = b ++ (s.take n).2.buffer := by
  unfold take at h ⊢
  split
  · rename_i hn; rw [if_pos hn] at h; cases h
  · rename_i hn
    rw [if_neg hn] at h
    cases h
    simp

end Stream

end SocksTunnel.Script
