import SocksTunnel.Script.Network

/-
  SocksTunnel.Script.Conversation — a plan that grows while a conversation with a proxy
  goes on. What the proxy says is a reply to the messages that it was told so far, and it
  is there at once. So time passes on such a network only while somebody waits for more
  than was said.

  Proved: hearing something adds its data behind all that was said before, if it was not
  told more in between (`heard_hear`).
-/

namespace SocksTunnel.Script

namespace Chunk

def ofData (b : Bytes) : Chunk := ⟨some b, false, none, 0⟩

/-- Nothing more will be said. -/
def ending : Chunk := ⟨none, true, none, 0⟩

def ofError (e : PeerError) : Chunk := ⟨none, false, some e, 0⟩

end Chunk

namespace Plan

/-- A proxy that accepts the connection and says nothing. -/
def silent : Plan := ⟨.prompt, [], [], [], .prompt⟩

/-- A proxy that cannot be reached. -/
def unreachable (e : PeerError) : Plan := { silent with connecting := ⟨0, some e, none⟩ }

/-- A proxy that takes longer than a limit to accept the connection. -/
def late (limit : Time) : Plan := { silent with connecting := ⟨limit + 1, none, none⟩ }

/-- Adds a chunk to the reply to message `k`. -/
def hearAfter (c : Chunk) : Nat → List (List Chunk) → List (List Chunk)
  | 0, [] => [[c]]
  | 0, r :: rs => (r ++ [c]) :: rs
  | k + 1, [] => [] :: hearAfter c k []
  | k + 1, r :: rs => r :: hearAfter c k rs

/-- The proxy, which was told `k` messages, says something. -/
def hear (k : Nat) (c : Chunk) (p : Plan) : Plan :=
  match k with
  | 0 => { p with initial := p.initial ++ [c] }
  | k + 1 => { p with replies := hearAfter c k p.replies }

/-- Message `k` cannot be carried away. -/
def lose (k : Nat) (e : PeerError) (p : Plan) : Plan :=
  { p with drains := List.replicate k .prompt ++ [⟨0, some e, none⟩] }

/-- All chunks in the order of the messages before them. -/
def heard (p : Plan) : List Chunk := p.initial ++ p.replies.flatten

theorem flatten_hearAfter (c : Chunk) (k : Nat) (rs : List (List Chunk)) (h : rs.length ≤ k + 1) :
    (hearAfter c k rs).flatten = rs.flatten ++ [c] := by
  induction k generalizing rs with
  | zero =>
    match rs, h with
    | [], _ => rfl
    | [r], _ => simp [hearAfter]
  | succ k ih =>
    cases rs with
    | nil => simp [hearAfter, ih [] (by simp)]
    | cons r rs => simp [hearAfter, ih rs (by simpa using h)]

theorem heard_hear (k : Nat) (c : Chunk) (p : Plan) (h : p.replies.length ≤ k) : (p.hear k c).heard = p.heard ++ [c] := by
  cases k with
  | zero => simp [hear, heard, List.eq_nil_of_length_eq_zero (Nat.le_zero.mp h)]
  | succ k => simp [hear, heard, flatten_hearAfter c k p.replies h]

end Plan

end SocksTunnel.Script
