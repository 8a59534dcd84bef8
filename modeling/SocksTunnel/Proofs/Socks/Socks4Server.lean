import SocksTunnel.Proofs.Address.Quad
import SocksTunnel.Proofs.Route.Checks

/-
  SocksTunnel.Proofs.Socks.Socks4Server — what a server takes from a stream that begins with a
  request of SOCKS4: eight octets, and then a user up to the first zero. Nothing else tells it
  where the request ends. Port and address may have zeros of their own, so that it looks for
  one only behind them.

  Proved: a server takes what stands in front of the stream and leaves the rest
  (`take_eq_some_iff`), and it cannot be done before it has all of that (`take_prefix`). Every
  route of SOCKS4 that can be made is taken as it was asked for, and its request ends where the
  server stops; what would end it earlier is refused when the route is made
  (`request_taken`).
-/

namespace SocksTunnel

/-- The octets in front of the first zero and those behind it. -/
def Bytes.cutZero : Bytes → Option (Bytes × Bytes)
  | [] => none
  | o :: r => if o = 0 then some ([], r) else (cutZero r).map fun c => (o :: c.1, c.2)

theorem Bytes.cutZero_eq_some_iff {b u rest : Bytes} : cutZero b = some (u, rest) ↔ 0 ∉ u ∧ b = u ++ 0 :: rest := by
  induction b generalizing u with
  | nil => simp [cutZero]
  | cons o r ih =>
    rw [cutZero]
    by_cases ho : o = 0
    · rw [if_pos ho]
      constructor
      · intro h
        cases h
        exact ⟨List.not_mem_nil, by rw [ho]; rfl⟩
      · rintro ⟨hu, hb⟩
        cases u with
        | nil => rw [(List.cons.inj hb).2]
        | cons c s => exact absurd (List.mem_cons.mpr (.inl (ho.symm.trans (List.cons.inj hb).1))) hu
    · rw [if_neg ho, Option.map_eq_some_iff]
      constructor
      · rintro ⟨c, hc, h⟩
        cases h
        obtain ⟨hu, hr⟩ := ih.mp hc
        exact ⟨List.not_mem_cons_of_ne_of_not_mem (Ne.symm ho) hu, congrArg (o :: ·) hr⟩
      · rintro ⟨hu, hb⟩
        cases u with
        | nil => exact absurd (List.cons.inj hb).1 ho
        | cons c s =>
          obtain ⟨rfl, hr⟩ := List.cons.inj hb
          exact ⟨(s, rest), ih.mpr ⟨List.not_mem_of_not_mem_cons hu, hr⟩, rfl⟩

/-! ## The server -/

namespace Socks4Server

/-- What a server takes from a request. -/
structure Demand where
  version : UInt8
  command : UInt8
  port : Port
  address : Ipv4
  user : Bytes
  deriving DecidableEq, Repr

/-- Takes the first request of a stream and leaves the octets behind it; nothing while there is no whole one. -/
def take : Bytes → Option (Demand × Bytes)
  | v :: c :: p :: q :: w :: x :: y :: z :: r =>
    (Bytes.cutZero r).map fun cut => (⟨v, c, Bytes.toUInt16 p q, ⟨w, x, y, z⟩, cut.1⟩, cut.2)
  | _ => none

/-- The octets that a demand is taken from. -/
def Demand.octets (d : Demand) : Bytes :=
  d.version :: d.command :: (Bytes.ofUInt16 d.port ++ d.address.toBytes ++ (d.user ++ [0]))

variable {b rest : Bytes} {d : Demand}

/-- A server takes what stands in front, which has no zero in its user. -/
theorem take_eq_some_iff : take b = some (d, rest) ↔ 0 ∉ d.user ∧ b = d.octets ++ rest := by
  constructor
  · intro h
    unfold take at h
    split at h
    · rename_i v c p q w x y z r
      obtain ⟨cut, hcut, h⟩ := Option.map_eq_some_iff.mp h
      cases h
      obtain ⟨hu, rfl⟩ := Bytes.cutZero_eq_some_iff.mp hcut
      refine ⟨hu, ?_⟩
      rw [Demand.octets, Bytes.ofUInt16_toUInt16]
      simp [Ipv4.toBytes]
    · cases h
  · rintro ⟨hu, rfl⟩
    obtain ⟨v, c, port, address, user⟩ := d
    have hcut : Bytes.cutZero (user ++ [0] ++ rest) = some (user, rest) :=
      Bytes.cutZero_eq_some_iff.mpr ⟨hu, by rw [List.append_assoc]; rfl⟩
    show (Bytes.cutZero (user ++ [0] ++ rest)).map (fun cut =>
      (Demand.mk v c (Bytes.toUInt16 _ _) address cut.1, cut.2)) = _
    rw [hcut, Bytes.toUInt16_ofNat]
    rfl

/-- A server that is done with all of its octets would not have been done with fewer. -/
theorem take_prefix (h : take b = some (d, [])) {n : Nat} (hn : n < b.length) : take (b.take n) = none := by
  cases ht : take (b.take n) with
  | none => rfl
  | some out =>
    obtain ⟨e, left⟩ := out
    obtain ⟨hu, he⟩ := take_eq_some_iff.mp ht
    have hb : b = e.octets ++ (left ++ b.drop n) := by
      rw [← List.append_assoc, ← he, List.take_append_drop]
    have hall : take b = some (e, left ++ b.drop n) := take_eq_some_iff.mpr ⟨hu, hb⟩
    have hnone : left ++ b.drop n = [] := congrArg Prod.snd (Option.some.inj (hall.symm.trans h))
    have hlen : (b.drop n).length = 0 := by rw [(List.append_eq_nil_iff.mp hnone).2, List.length_nil]
    rw [List.length_drop] at hlen
    omega

end Socks4Server

/-! ## Routes -/

namespace Route

open Socks4Server

/-- A request that is written, has this user behind eight octets and in front of a last one, and is taken as a demand to
connect there, by a server that leaves everything behind it and waits for as long as a part is missing. -/
def IsTakenAs (r : Route) (address : Ipv4) (port : Port) (user : Bytes) : Prop :=
  ∃ raw, r.request = .ok raw ∧ raw.length = 9 + user.length ∧
    (∀ rest, take (raw ++ rest) = some (⟨4, Socks4Command.connect.code, port, address, user⟩, rest)) ∧
    ∀ n < raw.length, take (raw.take n) = none

/-- A user, and the octets that it stands for. -/
inductive IsUser : Value → Bytes → Prop
  | text (t : Text) : IsUser (.text t) (Text.utf8 t)
  | data (b : Bytes) : IsUser (.bytes b) b

variable {r r' : Route} {a a' : Ipv4} {p p' : Port} {u u' : Bytes} {address port name : Value}

theorem IsUser.toBytes_eq (h : IsUser name u) : name.toBytes = .ok (.bytes u) := by
  cases h <;> rfl

theorem isTakenAs_of_request (hu : 0 ∉ u) (h : r.request = .ok (Socks4Request.encode ⟨p, a, u⟩)) : r.IsTakenAs a p u := by
  have hoctets : Socks4Request.encode ⟨p, a, u⟩ = Demand.octets ⟨4, Socks4Command.connect.code, p, a, u⟩ := by
    simp [Socks4Request.encode, Demand.octets]
  have htake : ∀ rest, take (Socks4Request.encode ⟨p, a, u⟩ ++ rest) =
      some (⟨4, Socks4Command.connect.code, p, a, u⟩, rest) := fun rest =>
    take_eq_some_iff.mpr ⟨hu, by rw [hoctets]⟩
  have hall := htake []
  rw [List.append_nil] at hall
  refine ⟨_, h, ?_, htake, fun n hn => take_prefix hall hn⟩
  simp only [Socks4Request.encode, List.length_append, List.length_cons, List.length_nil, Bytes.length_ofUInt16,
    Ipv4.length_toBytes]
  omega

/-- What is taken differently was asked for with other octets. -/
theorem IsTakenAs.inj (h : r.IsTakenAs a p u) (h' : r'.IsTakenAs a' p' u') (he : r.request = r'.request) :
    a = a' ∧ p = p' ∧ u = u' := by
  obtain ⟨raw, hr, -, ht, -⟩ := h
  obtain ⟨raw', hr', -, ht', -⟩ := h'
  obtain rfl : raw = raw' := Except.ok.inj (hr.symm.trans (he.trans hr'))
  have hsame := congrArg Prod.fst (Option.some.inj ((ht []).symm.trans (ht' [])))
  cases hsame
  exact ⟨rfl, rfl, rfl⟩

theorem ofSettings_socks4_eq (ha : address.socks4Address = .ok a) (hp : port.port = .ok p) (timeouts : Value) :
    ofSettings .socks4 [address, port, timeouts] = .ok (.socks4 a p timeouts) := by
  simp only [ofSettings, ha, hp, bind, Except.bind]

theorem ofSettings_socks4User_broken (ha : address.socks4Address = .ok a) (hp : port.port = .ok p) (b : BrokenText)
    (timeouts : Value) : ofSettings .socks4User [address, port, .broken b, timeouts] =
      .error (.coding (.unencodable b.refusal)) := by
  simp only [ofSettings, ha, hp, user_broken, bind, Except.bind]

theorem ofSettings_socks4User_eq (ha : address.socks4Address = .ok a) (hp : port.port = .ok p) (hu : IsUser name u)
    (timeouts : Value) : ofSettings .socks4User [address, port, name, timeouts] =
      if 0 ∈ u then .error .nullInUser else .ok (.socks4User a p (.bytes u) timeouts) := by
  by_cases h0 : 0 ∈ u
  · simp only [ofSettings, ha, hp, user_of_toBytes hu.toBytes_eq, if_pos h0, bind, Except.bind]
  · simp only [ofSettings, ha, hp, user_of_toBytes hu.toBytes_eq, if_neg h0, bind, Except.bind]

/-- Every address and port that can be sent, with a user in text or data, makes a route exactly if there is no zero among
the octets of the user, and it is refused as a bad value otherwise, as is a user in broken text, which has no octets;
without a user it always makes one. The request of the route is written and taken with that address, that port and those octets, nothing of it is left and nothing behind it
belongs to it. So requests that differ in one of the three have different octets. -/
theorem request_taken :
    (∀ {address port : Value} {a : Ipv4} {p : Port}, address.socks4Address = .ok a → port.port = .ok p → ∀ timeouts : Value,
      (∃ r, ofSettings .socks4 [address, port, timeouts] = .ok r ∧ r.IsTakenAs a p []) ∧
      (∀ b : BrokenText, ∃ f : Fault,
        ofSettings .socks4User [address, port, .broken b, timeouts] = .error f ∧ f.isBadValue = true) ∧
      ∀ {name : Value} {u : Bytes}, IsUser name u →
        (0 ∉ u → ∃ r, ofSettings .socks4User [address, port, name, timeouts] = .ok r ∧ r.IsTakenAs a p u) ∧
        (0 ∈ u → ∃ f : Fault, ofSettings .socks4User [address, port, name, timeouts] = .error f ∧ f.kind = .value)) ∧
    ∀ {r r' : Route} {a a' : Ipv4} {p p' : Port} {u u' : Bytes}, r.IsTakenAs a p u → r'.IsTakenAs a' p' u' →
      r.request = r'.request → a = a' ∧ p = p' ∧ u = u' := by
  refine ⟨fun ha hp timeouts => ⟨?_, fun b => ⟨_, ofSettings_socks4User_broken ha hp b timeouts, rfl⟩,
    fun hname => ⟨fun hu => ?_, fun hu => ?_⟩⟩, fun h h' he => h.inj h' he⟩
  · refine ⟨_, ofSettings_socks4_eq ha hp timeouts, isTakenAs_of_request List.not_mem_nil ?_⟩
    exact request_socks4 _ _ timeouts
  · rw [ofSettings_socks4User_eq ha hp hname, if_neg hu]
    exact ⟨_, rfl, isTakenAs_of_request hu (request_socks4User _ _ _ timeouts)⟩
  · rw [ofSettings_socks4User_eq ha hp hname, if_pos hu]
    exact ⟨_, rfl, rfl⟩

/-- Zeros in port and address do not end a request; one in the user would, and is refused. -/
theorem request_taken_zeros :
    let address : Value := .text (.lit "10.0.0.0")
    (address.socks4Address = .ok ⟨10, 0, 0, 0⟩ ∧ (Value.int 0).port = .ok 0) ∧
    (∃ r r', ofSettings .socks4User [address, .int 0, .text (.lit "é"), .nothing] = .ok r ∧
      ofSettings .socks4 [address, .int 0, .nothing] = .ok r' ∧ r.IsTakenAs ⟨10, 0, 0, 0⟩ 0 [0xc3, 0xa9] ∧
      r.request = .ok [4, 1, 0, 0, 10, 0, 0, 0, 0xc3, 0xa9, 0] ∧ r.request ≠ r'.request) ∧
    ∃ f : Fault, ofSettings .socks4User [address, .int 0, .bytes [97, 0, 98], .nothing] = .error f ∧ f.kind = .value := by
  intro address
  have ha : address.socks4Address = .ok ⟨10, 0, 0, 0⟩ := by
    have htext : Text.lit "10.0.0.0" = Ipv4.text ⟨10, 0, 0, 0⟩ := by decide
    rw [Value.socks4Address_text, Ipv4.parse, Ipv4.parseShown_eq_ok_iff.mpr htext]
    rfl
  have hp : (Value.int 0).port = .ok 0 := rfl
  have hz : 0 ∉ Text.utf8 (.lit "é") := by decide
  obtain ⟨⟨r', hr', ht'⟩, -, huser⟩ := request_taken.1 ha hp .nothing
  obtain ⟨r, hr, ht⟩ := (huser (.text (.lit "é"))).1 hz
  refine ⟨⟨ha, hp⟩, ⟨r, r', hr, hr', ht, ?_, fun he => ?_⟩, (huser (.data [97, 0, 98])).2 (by decide)⟩
  · rw [ofSettings_socks4User_eq ha hp (.text (.lit "é")), if_neg hz] at hr
    obtain rfl := Except.ok.inj hr
    exact request_socks4User ⟨10, 0, 0, 0⟩ 0 (Text.utf8 (.lit "é")) .nothing
  · exact absurd (request_taken.2 ht ht' he).2.2 (by decide)

end Route

end SocksTunnel
