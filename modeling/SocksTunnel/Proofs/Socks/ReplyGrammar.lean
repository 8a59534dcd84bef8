import Mathlib.Data.List.Basic
import SocksTunnel.Socks.Message

/-
  SocksTunnel.Proofs.Socks.ReplyGrammar — SOCKS5 replies as whole runs of octets. The
  client reads a reply in parts, each of a size that an earlier part decides; the grammar
  says at once which octets are a reply, and the decision says in which order the flaws of
  one count when there are several.

  Proved: every address of the grammar is a bound address (`exists_boundAddress`), the
  decision finds no flaw exactly where a reply stands in front that grants the tunnel
  (`judge_eq_none_iff`), and then it leaves what follows that reply (`judge_append`).
  Reserved octet, bound address and bound port do not count (`Alike.judge_fst`).
-/

namespace SocksTunnel

/-- The octet at a place, zero where there is none. -/
def Bytes.octet (b : Bytes) (i : Nat) : UInt8 := b.getD i 0

/-! ## The grammar -/

namespace Reply

/-- The address behind the code of its type: four octets, sixteen, or a name with its length in front. -/
inductive IsAddress : UInt8 → Bytes → Prop
  | ipv4 {a : Bytes} : a.length = 4 → IsAddress 1 a
  | ipv6 {a : Bytes} : a.length = 16 → IsAddress 4 a
  | name (n : UInt8) {a : Bytes} : a.length = n.toNat → IsAddress 3 (n :: a)

/-- A reply with this status: version 5, the status, any reserved octet, the type of the address, the
address and a port. -/
inductive IsReply (status : UInt8) : Bytes → Prop
  | mk (reserved type : UInt8) {address port : Bytes} : IsAddress type address → port.length = 2 →
      IsReply status (5 :: status :: reserved :: type :: (address ++ port))

/-! ## The decision -/

/-- What a status by itself means. -/
def statusError (status : UInt8) : Option HandshakeError :=
  if status = 0 then none
  else if status ≤ 8 then some (.rejected 5 status (((Socks5Status.ofCode? status).bind Socks5Status.reason?).getD []))
  else some (.malformed (.status status))

/-- The first flaw of the octets behind a header, of which `n` are the address, and what it leaves unread. -/
def judgeAddress (status : UInt8) (n : Nat) (rest : Bytes) : Option HandshakeError × Bytes :=
  if rest.length < n then (some (.endOfStream n rest.length), [])
  else if rest.length < n + 2 then (some (.endOfStream 2 (rest.length - n)), [])
  else (statusError status, rest.drop (n + 2))

/-- The first flaw of a reply to the request, and what it leaves unread. -/
def judge (b : Bytes) : Option HandshakeError × Bytes :=
  if b.length < 4 then (some (.endOfStream 4 b.length), [])
  else if b.octet 0 ≠ 5 then (some (.malformed (.version (b.octet 0).toNat)), b.drop 4)
  else if b.octet 3 = 1 then judgeAddress (b.octet 1) 4 (b.drop 4)
  else if b.octet 3 = 4 then judgeAddress (b.octet 1) 16 (b.drop 4)
  else if b.octet 3 = 3 then
    if b.length < 5 then (some (.endOfStream 1 0), [])
    else judgeAddress (b.octet 1) (b.octet 4).toNat (b.drop 5)
  else (some (.malformed (.addressType (b.octet 3).toNat)), b.drop 4)

/-- The first flaw of a reply to the greeting, and what it leaves unread; nothing for the choice of no
authentication. -/
def judgeMethod (b : Bytes) : Option (HandshakeError × Bytes) :=
  if b.length < 2 then some (.endOfStream 2 b.length, [])
  else if b.octet 0 ≠ 5 then some (.malformed (.methodVersion (b.octet 0).toNat), b.drop 2)
  else if b.octet 1 ≠ 0 then some (.noMethod (b.octet 1) (methodReason (b.octet 1).toNat), b.drop 2)
  else none

/-- Replies that differ at most in the reserved octet, the bound address and the bound port. -/
structure Alike (b c : Bytes) : Prop where
  length : b.length = c.length
  version : b.octet 0 = c.octet 0
  status : b.octet 1 = c.octet 1
  type : b.octet 3 = c.octet 3
  name : b.octet 3 = 3 → b.octet 4 = c.octet 4

end Reply

/-! ## Addresses -/

theorem Ipv4.exists_ofBytes? {b : Bytes} (h : b.length = 4) : ∃ a, Ipv4.ofBytes? b = some a := by
  match b, h with
  | [p, q, r, s], _ => exact ⟨⟨p, q, r, s⟩, rfl⟩

theorem Ipv6.length_pairs (b : Bytes) : (Ipv6.pairs b).length = b.length / 2 := by
  fun_induction Ipv6.pairs b with
  | case1 high low r ih => simp only [List.length_cons, ih]; omega
  | case2 b h =>
    match b, h with
    | [], _ => rfl
    | [_], _ => simp
    | p :: q :: r, h => exact absurd rfl (h p q r)

theorem Ipv6.exists_ofBytes? {b : Bytes} (h : b.length = 16) : ∃ a, Ipv6.ofBytes? b = some a := by
  have hg : (Ipv6.pairs b).length = 8 := by rw [Ipv6.length_pairs, h]
  exact ⟨_, by rw [ofBytes?, if_pos h, ofGroups?, dif_pos hg]⟩

namespace Reply

/-- Every address of the grammar is a bound address, an empty name none at all. -/
theorem exists_boundAddress {t : AddressType} {a : Bytes} (h : IsAddress t.code a) :
    ∃ bound, boundAddress t a = .ok bound := by
  cases t with
  | ipv4 =>
    cases h with
    | ipv4 hl =>
      obtain ⟨x, hx⟩ := Ipv4.exists_ofBytes? hl
      exact ⟨some (.ipv4 x), by simp [boundAddress, Destination.decode, hx]⟩
  | ipv6 =>
    cases h with
    | ipv6 hl =>
      obtain ⟨x, hx⟩ := Ipv6.exists_ofBytes? hl
      exact ⟨some (.ipv6 x), by simp [boundAddress, Destination.decode, hx]⟩
  | domain =>
    cases h with
    | @name n name hl =>
      cases name with
      | nil =>
        have hn : n = 0 := UInt8.toNat_inj.mp hl.symm
        exact ⟨none, by simp [boundAddress, hn]⟩
      | cons c r =>
        have hb : 1 ≤ (c :: r).length ∧ (c :: r).length ≤ 255 := by
          have := n.toNat_lt
          simp only [List.length_cons] at hl ⊢
          omega
        refine ⟨some (.domain (c :: r) hb), ?_⟩
        simp only [boundAddress, Destination.decode, hl.symm, if_true, Destination.ofName, dif_pos hb]
        simp

/-! ## The decision against the grammar -/

theorem statusError_eq_none_iff {status : UInt8} : statusError status = none ↔ status = 0 := by
  unfold statusError
  by_cases h : status = 0
  · simp [h]
  · rw [if_neg h]
    split <;> simp [h]

theorem judgeAddress_append {status : UInt8} {n : Nat} {a port rest : Bytes} (ha : a.length = n)
    (hp : port.length = 2) : judgeAddress status n (a ++ (port ++ rest)) = (statusError status, rest) := by
  have h1 : ¬ (a ++ (port ++ rest)).length < n := by simp only [List.length_append]; omega
  have h2 : ¬ (a ++ (port ++ rest)).length < n + 2 := by simp only [List.length_append]; omega
  have hd : (a ++ (port ++ rest)).drop (n + 2) = rest := by
    rw [← List.append_assoc]
    exact List.drop_left' (by simp only [List.length_append]; omega)
  rw [judgeAddress, if_neg h1, if_neg h2, hd]

/-- The decision behind a header that is there. -/
theorem judge_cons (v status reserved type : UInt8) (r : Bytes) :
    judge (v :: status :: reserved :: type :: r) =
      if v ≠ 5 then (some (.malformed (.version v.toNat)), r)
      else if type = 1 then judgeAddress status 4 r
      else if type = 4 then judgeAddress status 16 r
      else if type = 3 then
        match r with
        | [] => (some (.endOfStream 1 0), [])
        | n :: name => judgeAddress status n.toNat name
      else (some (.malformed (.addressType type.toNat)), r) := by
  rw [judge, if_neg (by simp only [List.length_cons]; omega)]
  cases r with
  | nil => rfl
  | cons n name =>
    rw [if_neg (show ¬ (v :: status :: reserved :: type :: n :: name).length < 5 by
      simp only [List.length_cons]; omega)]
    rfl

/-- A reply in front of other octets is decided by its status and leaves those. -/
theorem judge_append {status : UInt8} {reply : Bytes} (h : IsReply status reply) (rest : Bytes) :
    judge (reply ++ rest) = (statusError status, rest) := by
  obtain ⟨reserved, type, ha, hp⟩ := h
  cases ha with
  | ipv4 hl => simp [judge_cons, judgeAddress_append hl hp]
  | ipv6 hl => simp [judge_cons, judgeAddress_append hl hp]
  | name n hl => simp [judge_cons, judgeAddress_append hl hp]

/-- No flaw in what follows a header: it starts with the address and a port. -/
theorem judgeAddress_eq_none {status : UInt8} {n : Nat} {rest : Bytes} (h : (judgeAddress status n rest).1 = none) :
    status = 0 ∧ ∃ a port more, rest = a ++ (port ++ more) ∧ a.length = n ∧ port.length = 2 := by
  unfold judgeAddress at h
  split at h
  · cases h
  · split at h
    · cases h
    · rename_i h1 h2
      refine ⟨statusError_eq_none_iff.mp h, rest.take n, (rest.drop n).take 2, rest.drop (n + 2), ?_, ?_, ?_⟩
      · rw [← List.drop_drop, List.take_append_drop, List.take_append_drop]
      · exact List.length_take_of_le (by omega)
      · exact List.length_take_of_le (by rw [List.length_drop]; omega)

theorem judge_eq_none {b : Bytes} (h : (judge b).1 = none) : ∃ reply rest, b = reply ++ rest ∧ IsReply 0 reply := by
  match b with
  | [] | [_] | [_, _] | [_, _, _] => cases h
  | v :: status :: reserved :: type :: r =>
    rw [judge_cons] at h
    split at h
    · cases h
    rename_i hv
    obtain rfl : v = 5 := by simpa using hv
    split at h
    · rename_i ht
      obtain ⟨rfl, a, port, more, rfl, ha, hp⟩ := judgeAddress_eq_none h
      subst ht
      exact ⟨_, more, by simp, .mk reserved 1 (.ipv4 ha) hp⟩
    split at h
    · rename_i ht
      obtain ⟨rfl, a, port, more, rfl, ha, hp⟩ := judgeAddress_eq_none h
      subst ht
      exact ⟨_, more, by simp, .mk reserved 4 (.ipv6 ha) hp⟩
    split at h
    · rename_i ht
      subst ht
      cases r with
      | nil => cases h
      | cons n name =>
        obtain ⟨rfl, a, port, more, rfl, ha, hp⟩ := judgeAddress_eq_none h
        exact ⟨_, more, by simp, .mk reserved 3 (.name n ha) hp⟩
    · cases h

theorem judge_eq_none_iff {b : Bytes} : (judge b).1 = none ↔ ∃ reply, reply <+: b ∧ IsReply 0 reply := by
  constructor
  · intro h
    obtain ⟨reply, rest, rfl, hr⟩ := judge_eq_none h
    exact ⟨reply, List.prefix_append reply rest, hr⟩
  · rintro ⟨reply, ⟨rest, rfl⟩, hr⟩
    rw [judge_append hr rest]
    rfl

theorem judgeMethod_cons (v m : UInt8) (r : Bytes) :
    judgeMethod (v :: m :: r) =
      if v ≠ 5 then some (.malformed (.methodVersion v.toNat), r)
      else if m ≠ 0 then some (.noMethod m (methodReason m.toNat), r)
      else none := by
  rw [judgeMethod, if_neg (by simp only [List.length_cons]; omega)]
  rfl

theorem judgeMethod_eq_none_iff {b : Bytes} : judgeMethod b = none ↔ [5, 0] <+: b := by
  match b with
  | [] | [_] => simp [judgeMethod]
  | v :: m :: r =>
    rw [judgeMethod_cons]
    by_cases hv : v = 5 <;> by_cases hm : m = 0 <;> simp [hv, hm, eq_comm]

/-! ## What does not count -/

theorem judgeAddress_fst_congr (status : UInt8) (n : Nat) {r s : Bytes} (h : r.length = s.length) :
    (judgeAddress status n r).1 = (judgeAddress status n s).1 := by
  unfold judgeAddress
  rw [h]
  split
  · rfl
  · split <;> rfl

theorem Alike.judge_fst {b c : Bytes} (h : Alike b c) : (judge b).1 = (judge c).1 := by
  have hd : ∀ k, (b.drop k).length = (c.drop k).length := by
    intro k
    rw [List.length_drop, List.length_drop, h.length]
  unfold judge
  rw [h.length, h.version, h.type, h.status]
  split
  · rfl
  split
  · rfl
  split
  · exact judgeAddress_fst_congr _ _ (hd 4)
  split
  · exact judgeAddress_fst_congr _ _ (hd 4)
  split
  · rename_i h3
    split
    · rfl
    · rw [h.name (h.type.trans h3)]
      exact judgeAddress_fst_congr _ _ (hd 5)
  · rfl

end Reply

end SocksTunnel
