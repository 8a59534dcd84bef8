import SocksTunnel.Command.Run
import SocksTunnel.Proofs.Command.Settings
import SocksTunnel.Proofs.Handshake.Failures
import SocksTunnel.Proofs.Route.Checks

/-
  SocksTunnel.Proofs.Command.Addressing — which destinations a run can address. SOCKS4 takes a
  dotted quad, and a user without a zero octet if there is one; SOCKS5 takes the text of an
  address or a name of 1 to 255 octets, and of broken text an address alone. The port has sixteen
  bits in all of them.

  Proved: settings of a command line have a route exactly if it is so (`addressable_iff`), and
  the handshake along it can be carried out (`route_usable`). Where there is no route the
  reason is a bad value, unless destination or port is a list (`isBadValue_of_route`).
-/

namespace SocksTunnel

/-- The destination is one that the protocol can address. -/
def Settings.Addressable (s : Settings) : Prop :=
  (∃ n : Int, s.get .destinationPort = .int n ∧ 0 ≤ n ∧ n ≤ 65535) ∧
    match Command.protocolOf (s.get .protocol) with
    | .socks4 => (s.get .destination).IsQuad
    | .socks4User => (s.get .destination).IsQuad ∧ ∀ u, s.get .user = .bytes u → 0 ∉ u
    | .socks5 => (s.get .destination).IsDestination

namespace Command

theorem route_nothing {s : Settings} (h : s.get .destination = .nothing) : route s = .error .noDestination := by
  simp only [route, h]

/-- The settings that a route is made of, where there is a destination. -/
theorem route_eq {s : Settings} (h : s.get .destination ≠ .nothing) : route s =
    match protocolOf (s.get .protocol) with
    | .socks4 => Route.ofSettings .socks4 [s.get .destination, s.get .destinationPort, s.get .timeouts]
    | .socks4User => Route.ofSettings .socks4User [s.get .destination, s.get .destinationPort, s.get .user, s.get .timeouts]
    | .socks5 => Route.ofSettings .socks5 [s.get .destination, s.get .destinationPort, s.get .timeouts] := by
  unfold route
  generalize s.get .destination = d at h
  cases d with
  | nothing => exact absurd rfl h
  | _ => cases protocolOf (s.get .protocol) <;> rfl

variable {s : Settings}

theorem port_isOk (hs : s.Prepared) : (s.get .destinationPort).port.isOk = true ↔
    ∃ n, s.get .destinationPort = .int n ∧ 0 ≤ n ∧ n ≤ 65535 := by
  rcases hs.port with h | ⟨n, h⟩
  · rw [h]
    exact ⟨nofun, by rintro ⟨n, hn, -⟩; cases hn⟩
  · rw [h, Value.port_int_isOk]
    exact ⟨fun hn => ⟨n, rfl, hn⟩, by rintro ⟨m, hm, hn⟩; cases hm; exact hn⟩

theorem user_isOk (hs : s.Prepared) : (Route.user (s.get .user)).isOk = true ↔ ∀ u, s.get .user = .bytes u → 0 ∉ u := by
  rcases hs.user with h | ⟨u, h⟩
  · rw [h]
    exact ⟨fun _ => nofun, fun _ => rfl⟩
  · rw [h, Route.user_bytes_isOk]
    exact ⟨by rintro hu _ ⟨⟩; exact hu, fun hu => hu u rfl⟩

/-- An empty list is no destination of any protocol. -/
theorem route_list (h : s.get .destination = .list []) : (route s).isOk = false := by
  have h4 : (Value.list []).socks4Address.isOk = false := by decide
  rw [route_eq (by rw [h]; exact nofun), h]
  cases protocolOf (s.get .protocol) with
  | socks4 => rw [Route.ofSettings_socks4_isOk, h4, Bool.false_and]
  | socks4User => rw [Route.ofSettings_socks4User_isOk, h4, Bool.false_and]
  | socks5 => rfl

/-- What can be addressed is text or broken text. -/
theorem not_addressable (h : ∀ ss, s.get .destination ≠ .ofSigns ss) : ¬ s.Addressable := by
  have hquad : ¬ (s.get .destination).IsQuad := fun ⟨d, hd, _⟩ => h d.signs (hd.trans (Value.ofSigns_signs d).symm)
  have hdestination : ¬ (s.get .destination).IsDestination := by
    rintro (⟨d, hd, -⟩ | ⟨b, hb, -⟩)
    · exact h d.signs (hd.trans (Value.ofSigns_signs d).symm)
    · exact h b.signs (hb.trans (Value.ofSigns_broken b).symm)
  rintro ⟨-, h⟩
  split at h
  · exact hquad h
  · exact hquad h.1
  · exact hdestination h

/-- A run has a route exactly if the destination can be addressed. -/
theorem addressable_iff (hs : s.Prepared) : s.Addressable ↔ (route s).isOk = true := by
  rcases hs.destination with h | h | ⟨ss, h⟩
  · have hno : ¬ s.Addressable := not_addressable fun ss hss => Value.ofSigns_ne rfl ss (hss.symm.trans h)
    rw [route_nothing h]
    exact ⟨fun h => absurd h hno, nofun⟩
  · have hno : ¬ s.Addressable := not_addressable fun ss hss => Value.ofSigns_ne rfl ss (hss.symm.trans h)
    rw [route_list h]
    exact ⟨fun h => absurd h hno, nofun⟩
  · rw [Settings.Addressable, route_eq (by rw [h]; exact Value.ofSigns_ne rfl ss), h, ← port_isOk hs]
    cases protocolOf (s.get .protocol) with
    | socks4 => rw [Route.ofSettings_socks4_isOk, Bool.and_eq_true, Value.socks4Address_signs_isOk, and_comm]
    | socks4User =>
      rw [Route.ofSettings_socks4User_isOk, Bool.and_eq_true, Bool.and_eq_true, Value.socks4Address_signs_isOk,
        user_isOk hs, and_left_comm]
    | socks5 =>
      rw [Route.ofSettings_socks5_isOk, Bool.and_eq_true, Route.destination_signs, Value.toDestination_signs_isOk,
        and_comm]

/-- Text and a number are refused as bad values alone. -/
theorem isBadValue_of_route (hs : s.Prepared) (hd : s.get .destination ≠ .list []) (hp : s.get .destinationPort ≠ .list [])
    {f : Fault} (h : route s = .error f) : f.isBadValue = true := by
  rcases hs.destination with h' | h' | ⟨ss, h'⟩
  · rw [route_nothing h'] at h
    cases h
    rfl
  · exact absurd h' hd
  · obtain ⟨n, hn⟩ := hs.port.resolve_left hp
    rw [route_eq (by rw [h']; exact Value.ofSigns_ne rfl ss), h', hn] at h
    obtain ⟨h4, h4u, h5⟩ := Route.rejects_ofSettings ss n hs.user (s.get .timeouts)
    cases hprotocol : protocolOf (s.get .protocol) with
    | socks4 =>
      rw [hprotocol] at h
      exact h4 f h
    | socks4User =>
      rw [hprotocol] at h
      exact h4u f h
    | socks5 =>
      rw [hprotocol] at h
      exact h5 f h

/-- A list as user counts as none. -/
theorem connect4_list (a : Ipv4) (p : Port) : Route.connect4 a p (.list []) = Route.connect4 a p (.bytes []) := rfl

/-- The route of a run has the timeouts of its settings, and its request can be written. -/
theorem route_usable (hs : s.Prepared) {r : Route} (h : route s = .ok r) :
    r.given = s.get .timeouts ∧ ∃ request x, r.request = .ok request ∧ r.exchange = .ok x := by
  have hd : s.get .destination ≠ .nothing := by
    intro hd
    rw [route_nothing hd] at h
    cases h
  rw [route_eq hd] at h
  cases hprotocol : protocolOf (s.get .protocol) with
  | socks4 =>
    rw [hprotocol] at h
    obtain ⟨a, -, h⟩ := Except.bind_eq_ok_iff.mp h
    obtain ⟨p, -, h⟩ := Except.bind_eq_ok_iff.mp h
    obtain rfl := Except.ok.inj h
    exact ⟨rfl, _, _, Route.request_socks4 .., by rw [Route.exchange_socks4, Route.request_socks4]; rfl⟩
  | socks4User =>
    rw [hprotocol] at h
    obtain ⟨a, -, h⟩ := Except.bind_eq_ok_iff.mp h
    obtain ⟨p, -, h⟩ := Except.bind_eq_ok_iff.mp h
    obtain ⟨u, hu, h⟩ := Except.bind_eq_ok_iff.mp h
    obtain rfl := Except.ok.inj h
    have hrequest : ∃ b, (Route.socks4User a p u (s.get .timeouts)).request = .ok b := by
      have hbytes := Route.user_eq_ok hu
      rcases hs.user with h | ⟨b, h⟩
      · rw [h] at hbytes
        obtain rfl : .list [] = u := Except.ok.inj hbytes
        exact ⟨_, (connect4_list a p).trans (Route.connect4_bytes a p [])⟩
      · rw [h] at hbytes
        obtain rfl : .bytes b = u := Except.ok.inj hbytes
        exact ⟨_, Route.request_socks4User a p b _⟩
    obtain ⟨b, hb⟩ := hrequest
    exact ⟨rfl, b, _, hb, by rw [Route.exchange_socks4User, hb]; rfl⟩
  | socks5 =>
    rw [hprotocol] at h
    obtain ⟨d, -, h⟩ := Except.bind_eq_ok_iff.mp h
    obtain ⟨p, -, h⟩ := Except.bind_eq_ok_iff.mp h
    obtain rfl := Except.ok.inj h
    exact ⟨rfl, _, _, Route.request_socks5 .., rfl⟩

end Command

end SocksTunnel
