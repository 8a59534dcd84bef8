import SocksTunnel.Connection
import SocksTunnel.Proofs.Script.Segments

/-
  SocksTunnel.Proofs.Handshake.Segments — a handshake with a proxy whose data arrives in
  pieces. The reads of a handshake ask for some octets at a time, and what they get does not
  end where a piece ends; none of them can tell one way to cut the data from another.

  Proved: connecting goes alike however the data is cut (`enter_sameOctets`), and so a tunnel
  is made or fails alike, with the same messages, at the same time, and with the same octets left
  for the tunnel, those included that are still to come (`connect_recut`).
-/

namespace SocksTunnel

open Script

namespace Connection

variable {c d : Connection}

theorem enter_sameOctets (limit : Duration) (proxy : Endpoint) (h : c.network.SameOctets d.network)
    (he : c.entries = d.entries) :
    (c.enter limit proxy).1 = (d.enter limit proxy).1 ∧
      (c.enter limit proxy).2.network.SameOctets (d.enter limit proxy).2.network ∧
      (c.enter limit proxy).2.entries = (d.enter limit proxy).2.entries := by
  unfold enter
  split
  · exact ⟨rfl, h, he⟩
  · obtain ⟨o, n, m, hn, hm, h'⟩ := h.sameEnd (Network.ignoresCuts_connect limit.milliseconds proxy)
    unfold through
    rw [hn, hm]
    cases o with
    | done u =>
      refine ⟨rfl, h', ?_⟩
      show c.entries ++ [.connected proxy] = d.entries ++ [.connected proxy]
      rw [he]
    | expired => exact ⟨rfl, h', he⟩
    | failed e => exact ⟨rfl, h', he⟩

theorem handshake_sameOctets (r : Route) (h : c.network.SameOctets d.network) (he : c.entries = d.entries) :
    (c.handshake r.connect).1 = (d.handshake r.connect).1 ∧
      (c.handshake r.connect).2.network.SameOctets (d.handshake r.connect).2.network ∧
      (c.handshake r.connect).2.entries = (d.handshake r.connect).2.entries := by
  obtain ⟨o, s, u, hs, hu, h'⟩ := r.connect_agrees_under (fun t _ => Network.simulates_sameOctets.under t)
    (s := Session.start c.network) (u := Session.start d.network) ⟨h, rfl, rfl, rfl⟩
  unfold handshake
  rw [hs, hu]
  refine ⟨rfl, h'.stream, ?_⟩
  show c.entries ++ s.entries = d.entries ++ u.entries
  rw [he, h'.entries]

end Connection

namespace Route

/-- However a proxy cuts what it sends, a handshake with it has the same result, writes the same messages and takes as long,
and leaves the same octets unread. What is still to come does not differ but in how it is cut, either. A chunk that arrives just
when a limit passes is no exception: it is in time, and so are its pieces. -/
theorem connect_recut (r : Route) (limit : Duration) (proxy : Endpoint) {p q : Plan} (h : p.Recut q) :
    let c := (Connection.start p).enter limit proxy
    let d := (Connection.start q).enter limit proxy
    let a := c.2.handshake r.connect
    let b := d.2.handshake r.connect
    (c.1 = d.1 ∧ c.2.network.now = d.2.network.now) ∧
      a.1 = b.1 ∧ a.2.entries = b.2.entries ∧ a.2.network.written = b.2.network.written ∧
      a.2.network.now = b.2.network.now ∧ (∀ t, a.2.network.unread t = b.2.network.unread t) ∧
      a.2.network.SameOctets b.2.network := by
  intro c d a b
  obtain ⟨ho, hn, he⟩ := Connection.enter_sameOctets limit proxy (c := .start p) (d := .start q) (.start h) rfl
  obtain ⟨hresult, hsame, hentries⟩ := Connection.handshake_sameOctets r hn he
  exact ⟨⟨ho, hn.now⟩, hresult, hentries, hsame.written, hsame.now, hsame.unread, hsame⟩

/-- Both replies of a SOCKS5 proxy come in pieces, the second with octets for the tunnel behind it. -/
theorem connect_recut_replies :
    let r := Route.socks5 (.ipv4 .zero) 80 (.timeouts (.uniform .ten))
    let proxy : Endpoint := ⟨.text (.lit "proxy"), .int 1080⟩
    let reply : Bytes := [5, 0, 0, 3, 2, 0x61, 0x62, 0, 80, 7, 8]
    let pieces : List Bytes := [[5, 0, 0, 3, 2, 0x61], [0x62, 0], [80, 7], [8]]
    let p : Plan := ⟨⟨20, none, none⟩, [], [], [[.plain 30 [5, 0]], [.plain 40 reply, .plain 60 [9]]], .prompt⟩
    let q : Plan := { p with replies := [[.plain 30 [5], .plain 30 [0]], pieces.map (.plain 40) ++ [.plain 60 [9]]] }
    let b := ((Connection.start q).enter .ten proxy).2.handshake r.connect
    p.Recut q ∧ b.1.isOk = true ∧ b.2.network.written.length = 2 ∧ b.2.network.now = 90 ∧
      b.2.network.unread 90 = [7, 8] ∧ b.2.network.unread 110 = [7, 8, 9] := by
  intro r proxy reply pieces p q b
  have h : p.Recut q := {
    connecting := rfl
    initial := .nil
    drains := rfl
    replies := .cons (.cut 30 [[5], [0]] .nil) (.cons (.cut 40 pieces (.keep _ .nil)) .nil)
    closing := rfl }
  obtain ⟨-, hresult, -, hwritten, hnow, hunread, -⟩ := connect_recut r .ten proxy h
  have hb : b = ((Connection.start q).enter .ten proxy).2.handshake r.connect := rfl
  rw [hb, ← hresult, ← hwritten, ← hnow, ← hunread, ← hunread]
  exact ⟨h, by decide +kernel, by decide +kernel, by decide +kernel, by decide +kernel, by decide +kernel⟩

end Route

end SocksTunnel
