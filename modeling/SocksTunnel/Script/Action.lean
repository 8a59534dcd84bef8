import SocksTunnel.Transport

/-
  SocksTunnel.Script.Action — what a scripted peer does in one operation: it waits, then
  fails or goes on, perhaps with data of its own. An operation that takes longer than its
  limit ends at the limit, and one that is still running when the caller gives up ends
  there.

  Proved: an action within its limit ends after its delay (`span_of_le`), one past it
  at the limit (`span_of_lt`).
-/

namespace SocksTunnel.Script

structure Action where
  delay : Time
  error : Option PeerError
  data : Option Bytes
  deriving Repr

namespace Action

/-- Succeeds at once. -/
def prompt : Action := ⟨0, none, none⟩

/-- The next of the actions that a script still has, or a prompt success. -/
def next : List Action → Action × List Action
  | [] => (prompt, [])
  | a :: r => (a, r)

end Action

/-- A clock, and the moment at which the caller gives up, if it does. -/
structure Clock where
  now : Time
  cancelAt : Option Time
  deriving DecidableEq, Repr

namespace Clock

/-- Whether the caller gives up before a moment. -/
def cancels (c : Clock) (t : Time) : Option Time := c.cancelAt.filter (· < t)

/-- How much later an operation ends, if there is a limit. -/
def span (limit : Option Time) (delay : Time) : Time :=
  match limit with
  | some l => if l < delay then l else delay
  | none => delay

def isLate (limit : Option Time) (delay : Time) : Bool :=
  match limit with
  | some l => decide (l < delay)
  | none => false

/-- Waits for an action to end, under a limit if there is one. -/
def await (c : Clock) (limit : Option Time) (a : Action) : Outcome Unit × Clock :=
  let finish := c.now + span limit a.delay
  match c.cancels finish with
  | some t => (.failed (.cancelled []), { c with now := t })
  | none =>
    let c := { c with now := finish }
    if isLate limit a.delay then (.expired, c)
    else
      match a.error with
      | some e => (.failed e, c)
      | none => (.done (), c)

theorem span_of_le {l d : Time} (h : d ≤ l) : span (some l) d = d := by
  simp only [span]
  rw [if_neg (Rat.not_lt.mpr h)]

theorem span_of_lt {l d : Time} (h : l < d) : span (some l) d = l := by
  simp only [span]
  rw [if_pos h]

end Clock

end SocksTunnel.Script
