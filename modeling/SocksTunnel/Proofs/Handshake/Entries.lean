import SocksTunnel.Proofs.Handshake.Course

/-
  SocksTunnel.Proofs.Handshake.Entries — what a handshake leaves in the log, over any stream
  at all: an entry for each operation that succeeded, and at most one for its result.

  Proved: a run leaves no other entries than those of its operations and of its exchange
  (`run_entries`), so that the entries of a handshake are its own and none of them is an
  error (`Route.connect_entries`, `Entry.level_of_isOfHandshake`).
-/

namespace SocksTunnel

/-- Entries that a handshake makes. -/
def Entry.isOfHandshake : Entry → Bool
  | sent _ | received _ | established4 .. | rejected4 _ | established5 .. | unusableMethod _ | rejected5 _ => true
  | _ => false

theorem Entry.level_of_isOfHandshake {e : Entry} (h : e.isOfHandshake = true) : e.level ≠ .error := by
  cases e <;> first | cases h; done | simp [level, Level.debug, Level.warning, Level.error]

namespace Exchange

/-- Every entry that the exchange may leave for its result is of this kind. -/
def Notes (P : Entry → Prop) : Exchange → Prop
  | done e => P e
  | fail e _ => ∀ x ∈ e, P x
  | send _ next => next.Notes P
  | receive _ next => ∀ b, (next b).Notes P

end Exchange

namespace Session

variable {σ : Type} [Transport σ]

theorem send_entries (limit : Duration) (payload : Bytes) (s : Session σ) :
    (s.send limit payload).2.entries = s.entries ∨ (s.send limit payload).2.entries = s.entries ++ [.sent payload.length] := by
  cases h : (s.send limit payload).1 with
  | error f => exact .inl (by rw [send_error h])
  | ok u => exact .inr (send_ok h).2

theorem receive_entries (limit : Duration) (n : Int) (s : Session σ) :
    (s.receive limit n).2.entries = s.entries ∨
      ∃ data : Bytes, (s.receive limit n).2.entries = s.entries ++ [.received data.length] := by
  cases h : (s.receive limit n).1 with
  | error f => exact .inl (by rw [receive_error h])
  | ok data => exact .inr ⟨data, (receive_ok h).2⟩

/-- The entries that are new satisfy a condition. -/
def Adds (P : Entry → Prop) (before after : List Entry) : Prop := ∀ e ∈ after, e ∈ before ∨ P e

theorem Adds.refl {P : Entry → Prop} (es : List Entry) : Adds P es es := fun _ he => .inl he

theorem Adds.snoc {P : Entry → Prop} {e : Entry} (he : P e) (es : List Entry) : Adds P es (es ++ [e]) := by
  intro d hd
  rcases List.mem_append.mp hd with hd | hd
  · exact .inl hd
  · exact .inr (List.mem_singleton.mp hd ▸ he)

theorem Adds.trans {P : Entry → Prop} {es fs gs : List Entry} (h : Adds P es fs) (h' : Adds P fs gs) : Adds P es gs :=
  fun e he => (h' e he).elim (h e) .inr

/-- A run leaves the entries of its operations and of its exchange, and no others. -/
theorem run_entries {P : Entry → Prop} (hsent : ∀ n, P (.sent n)) (hreceived : ∀ n, P (.received n)) (t : Timeouts)
    {x : Exchange} (hx : x.Notes P) (s : Session σ) : Adds P s.entries (run t x s).2.entries := by
  induction x generalizing s with
  | done e => exact .snoc hx _
  | fail e f =>
    cases e with
    | none => exact .refl _
    | some e => exact .snoc (hx e rfl) _
  | send payload next ih =>
    have hs : Adds P s.entries (s.send t.write payload).2.entries := by
      rcases send_entries t.write payload s with h | h
      · exact h ▸ .refl _
      · exact h ▸ .snoc (hsent _) _
    simp only [run]
    generalize s.send t.write payload = a at hs
    obtain ⟨_ | u, s'⟩ := a
    · exact hs
    · exact hs.trans (ih hx s')
  | receive n next ih =>
    have hs : Adds P s.entries (s.receive t.read n).2.entries := by
      rcases receive_entries t.read n s with h | ⟨data, h⟩
      · exact h ▸ .refl _
      · exact h ▸ .snoc (hreceived _) _
    simp only [run]
    generalize s.receive t.read n = a at hs
    obtain ⟨_ | data, s'⟩ := a
    · exact hs
    · exact hs.trans (ih data (hx data) s')

end Session

/-! ## The entries of the exchanges -/

namespace Exchange

/-- The entries of an exchange are those of a handshake. -/
abbrev Own (x : Exchange) : Prop := x.Notes fun e => e.isOfHandshake = true

theorem own_malformed (d : ReplyDefect) : (malformed d).Own := nofun

theorem own_ofStatus4 (a : Ipv4) (p : Port) (status : UInt8) : (ofStatus4 a p status).Own := by
  unfold ofStatus4
  split
  · exact own_malformed _
  · split
    · rfl
    · rintro e ⟨⟩
      rfl

theorem own_socks4 (request : Bytes) (a : Ipv4) (p : Port) : (socks4 request a p).Own := by
  intro raw
  unfold afterReply4
  split
  · exact own_malformed _
  · exact own_ofStatus4 a p _

theorem own_ofStatus5 (r : Socks5Request) (status : UInt8) (bound : Option Destination) (q : Port) :
    (ofStatus5 r status bound q).Own := by
  unfold ofStatus5
  split
  · exact own_malformed _
  · split
    · rfl
    · rintro e ⟨⟩
      rfl

theorem own_afterAddress (r : Socks5Request) (status : UInt8) (t : AddressType) (payload : Bytes) :
    (afterAddress r status t payload).Own := by
  unfold afterAddress
  split
  · exact own_malformed _
  · intro raw
    dsimp only
    split
    · exact own_malformed _
    · exact own_ofStatus5 ..

theorem own_readAddress (r : Socks5Request) (status : UInt8) (t : AddressType) : (readAddress r status t).Own := by
  cases t with
  | ipv4 => exact fun b => own_afterAddress ..
  | ipv6 => exact fun b => own_afterAddress ..
  | domain =>
    intro raw
    unfold readName
    dsimp only
    split
    · exact own_afterAddress ..
    · exact fun name => own_afterAddress ..

theorem own_socks5 (r : Socks5Request) : (socks5 r).Own := by
  intro raw
  unfold afterMethod
  split
  · exact own_malformed _
  split
  · intro header
    unfold afterHeader
    split
    · exact own_malformed _
    · exact own_readAddress ..
  · rintro e ⟨⟩
    rfl

end Exchange

theorem Route.exchange_own {r : Route} {x : Exchange} (hx : r.exchange = .ok x) : x.Own := by
  rcases exchange_cases hx with ⟨request, a, p, -, -, rfl⟩ | ⟨d, p, -, rfl⟩
  · exact Exchange.own_socks4 request a p
  · exact Exchange.own_socks5 ⟨d, p⟩

/-- All entries that a handshake makes are its own. -/
theorem Route.connect_entries {σ : Type} [Transport σ] (r : Route) (s : σ) :
    ∀ e ∈ (r.connect (Session.start s)).2.entries, e.isOfHandshake = true := by
  intro e he
  unfold connect at he
  cases hx : r.exchange with
  | error f =>
    rw [hx] at he
    cases he
  | ok x =>
    cases ht : r.timeouts with
    | error f =>
      rw [hx, ht] at he
      cases he
    | ok t =>
      rw [hx, ht] at he
      exact (Session.run_entries (fun _ => rfl) (fun _ => rfl) t (exchange_own hx) _ e he).resolve_left List.not_mem_nil

end SocksTunnel
