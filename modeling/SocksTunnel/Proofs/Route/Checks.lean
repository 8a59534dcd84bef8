import SocksTunnel.Proofs.Address.Quad
import SocksTunnel.Proofs.Text.Utf8
import SocksTunnel.Route.Basic

/-
  SocksTunnel.Proofs.Route.Checks — the checks that a route is made through, one part after the
  other: address or destination, port, user.

  Proved: which settings each check accepts (`socks4Address_signs_isOk`, `toDestination_signs_isOk`,
  `port_int_isOk`, `user_bytes_isOk`), and that what they refuse is a bad value
  (`rejects_ofSettings`). A user in text is refused exactly if it has a zero character
  (`user_text`), and broken text is no user (`user_broken`).
-/

namespace SocksTunnel

/-! ## What is accepted -/

namespace Value

theorem socks4Address_text (d : Text) : (text d).socks4Address = (Ipv4.parse d).mapError .address := rfl

theorem socks4Address_text_isOk (d : Text) : (text d).socks4Address.isOk = (Ipv4.parse? d).isSome := by
  rw [socks4Address_text, Except.isOk_mapError, Ipv4.parse?]
  cases Ipv4.parse d <;> rfl

theorem toDestination_text_isOk (d : Text) : (text d).toDestination.isOk = true ↔
    (Destination.address? d).isSome = true ∨ 1 ≤ (Text.utf8 d).length ∧ (Text.utf8 d).length ≤ 255 := by
  rw [toDestination_text, Except.isOk_mapError, Destination.ofText]
  cases Destination.address? d with
  | some a => simp [Except.isOk, Except.toBool]
  | none =>
    dsimp only
    unfold Destination.ofName
    split
    · rename_i h
      simp [Except.isOk, Except.toBool, h]
    · rename_i h
      simp [Except.isOk, Except.toBool, h]

/-- Text that is a dotted quad. -/
def IsQuad (v : Value) : Prop := ∃ d, v = text d ∧ (Ipv4.parse? d).isSome = true

/-- Text that is an address or a name of 1 to 255 octets, or broken text that is an address. -/
def IsDestination (v : Value) : Prop :=
  (∃ d, v = text d ∧ ((Destination.address? d).isSome = true ∨ 1 ≤ (Text.utf8 d).length ∧ (Text.utf8 d).length ≤ 255)) ∨
    ∃ b, v = broken b ∧ (Destination.address? b.plain).isSome = true

theorem socks4Address_signs_isOk (ss : List Sign) : (ofSigns ss).socks4Address.isOk = true ↔ (ofSigns ss).IsQuad := by
  rcases Sign.text_or_broken ss with ⟨d, rfl⟩ | ⟨b, rfl⟩
  · rw [ofSigns_signs, socks4Address_text_isOk]
    exact ⟨fun h => ⟨d, rfl, h⟩, by rintro ⟨_, ⟨⟩, h⟩; exact h⟩
  · obtain ⟨e, he⟩ := Ipv4.parseBroken_isError b
    rw [ofSigns_broken, socks4Address, he]
    exact ⟨nofun, by rintro ⟨_, ⟨⟩, -⟩⟩

theorem toDestination_signs_isOk (ss : List Sign) : (ofSigns ss).toDestination.isOk = true ↔ (ofSigns ss).IsDestination := by
  rcases Sign.text_or_broken ss with ⟨d, rfl⟩ | ⟨b, rfl⟩
  · rw [ofSigns_signs, toDestination_text_isOk]
    exact ⟨fun h => .inl ⟨d, rfl, h⟩, by rintro (⟨_, ⟨⟩, h⟩ | ⟨_, ⟨⟩, -⟩); exact h⟩
  · have hok : (broken b).toDestination.isOk = (Destination.address? b.plain).isSome := by
      rw [toDestination]
      cases Destination.address? b.plain <;> rfl
    rw [ofSigns_broken, hok]
    exact ⟨fun h => .inr ⟨b, rfl, h⟩, by rintro (⟨_, ⟨⟩, -⟩ | ⟨_, ⟨⟩, h⟩); exact h⟩

theorem port_int_isOk (n : Int) : (int n).port.isOk = true ↔ 0 ≤ n ∧ n ≤ 65535 := by
  show (portOfInt n).isOk = true ↔ _
  unfold portOfInt maxPort
  split
  · rename_i h
    simp [Except.isOk, Except.toBool, h]
  · rename_i h
    simp [Except.isOk, Except.toBool, h]

end Value

namespace Route

theorem user_bytes_isOk (u : Bytes) : (user (.bytes u)).isOk = true ↔ 0 ∉ u := by
  by_cases h : 0 ∈ u
  · simp [user, hasZero, h, bind, Except.bind, Except.isOk, Except.toBool]
  · simp [user_bytes h, h, Except.isOk, Except.toBool]

theorem bind_isOk {α β : Type} {e : Except Fault α} {k : α → Except Fault β} {b : Bool} (hk : ∀ a, (k a).isOk = b) :
    (e >>= k).isOk = (e.isOk && b) := by
  cases e with
  | error f => rfl
  | ok a => exact hk a

theorem ofSettings_socks4_isOk (a p t : Value) :
    (ofSettings .socks4 [a, p, t]).isOk = (a.socks4Address.isOk && p.port.isOk) := by
  have h : (ofSettings .socks4 [a, p, t]).isOk = (a.socks4Address.isOk && (p.port.isOk && true)) :=
    bind_isOk fun _ => bind_isOk fun _ => rfl
  rwa [Bool.and_true] at h

theorem ofSettings_socks4User_isOk (a p u t : Value) :
    (ofSettings .socks4User [a, p, u, t]).isOk = (a.socks4Address.isOk && (p.port.isOk && (user u).isOk)) := by
  have h : (ofSettings .socks4User [a, p, u, t]).isOk = (a.socks4Address.isOk && (p.port.isOk && ((user u).isOk && true))) :=
    bind_isOk fun _ => bind_isOk fun _ => bind_isOk fun _ => rfl
  rwa [Bool.and_true] at h

theorem ofSettings_socks5_isOk (d p t : Value) :
    (ofSettings .socks5 [d, p, t]).isOk = ((destination d).isOk && p.port.isOk) := by
  have h : (ofSettings .socks5 [d, p, t]).isOk = ((destination d).isOk && (p.port.isOk && true)) :=
    bind_isOk fun _ => bind_isOk fun _ => rfl
  rwa [Bool.and_true] at h

/-! ## How the rest is refused -/

/-- Whatever fails here is a bad value. -/
abbrev Rejects {α : Type} (e : Except Fault α) : Prop := e.FailsOnly fun f => f.isBadValue = true

theorem rejects_socks4Address (ss : List Sign) : Rejects (Value.ofSigns ss).socks4Address := by
  have h : ∃ e : Except AddressError Ipv4, (Value.ofSigns ss).socks4Address = e.mapError .address := by
    rcases Sign.text_or_broken ss with ⟨d, rfl⟩ | ⟨b, rfl⟩
    · exact ⟨_, by rw [Value.ofSigns_signs, Value.socks4Address_text]⟩
    · exact ⟨_, by rw [Value.ofSigns_broken, Value.socks4Address]⟩
  obtain ⟨e, he⟩ := h
  intro f hf
  obtain ⟨x, -, rfl⟩ := Except.mapError_eq_error_iff.mp (he ▸ hf)
  exact Fault.isBadValue_address x

theorem rejects_toDestination (ss : List Sign) : Rejects (Value.ofSigns ss).toDestination := by
  rcases Sign.text_or_broken ss with ⟨d, rfl⟩ | ⟨b, rfl⟩
  · rw [Value.ofSigns_signs, Value.toDestination_text]
    intro f hf
    obtain ⟨e, -, rfl⟩ := Except.mapError_eq_error_iff.mp hf
    exact Fault.isBadValue_destination e
  · rw [Value.ofSigns_broken, Value.toDestination]
    split
    · exact .ok _
    · exact .error rfl

theorem rejects_socks4Address_text (d : Text) : Rejects (Value.text d).socks4Address := by
  rw [← Value.ofSigns_signs]
  exact rejects_socks4Address d.signs

theorem rejects_toDestination_text (d : Text) : Rejects (Value.text d).toDestination := by
  rw [← Value.ofSigns_signs]
  exact rejects_toDestination d.signs

theorem destination_signs (ss : List Sign) : destination (.ofSigns ss) = (Value.ofSigns ss).toDestination := by
  rcases Sign.text_or_broken ss with ⟨d, rfl⟩ | ⟨b, rfl⟩
  · rw [Value.ofSigns_signs]
    rfl
  · rw [Value.ofSigns_broken]
    rfl

theorem rejects_port (n : Int) : Rejects (Value.int n).port := by
  show Rejects (Value.portOfInt n)
  unfold Value.portOfInt
  split
  · exact .ok _
  · exact .error rfl

theorem rejects_user {v : Value} (hv : v = .list [] ∨ ∃ u, v = .bytes u) : Rejects (user v) := by
  rcases hv with rfl | ⟨u, rfl⟩
  · exact .ok _
  · by_cases h : 0 ∈ u
    · have hu : user (.bytes u) = .error .nullInUser := by simp [user, hasZero, h, bind, Except.bind]
      rw [hu]
      exact .error rfl
    · rw [user_bytes h]
      exact .ok _

theorem rejects_ofSettings (ss : List Sign) (n : Int) {u : Value} (hu : u = .list [] ∨ ∃ b, u = .bytes b) (t : Value) :
    Rejects (ofSettings .socks4 [.ofSigns ss, .int n, t]) ∧ Rejects (ofSettings .socks4User [.ofSigns ss, .int n, u, t]) ∧
      Rejects (ofSettings .socks5 [.ofSigns ss, .int n, t]) := by
  have hd : Rejects (destination (.ofSigns ss)) := by
    rw [destination_signs]
    exact rejects_toDestination ss
  refine ⟨?_, ?_, ?_⟩
  · exact (rejects_socks4Address ss).bind fun _ => (rejects_port n).bind fun _ => .ok _
  · exact (rejects_socks4Address ss).bind fun _ => (rejects_port n).bind fun _ => (rejects_user hu).bind fun _ => .ok _
  · exact hd.bind fun _ => (rejects_port n).bind fun _ => .ok _

/-! ## Users -/

/-- A user that is data, or becomes it, is refused exactly if there is a zero octet in it. -/
theorem user_of_toBytes {v : Value} {u : Bytes} (h : v.toBytes = .ok (.bytes u)) :
    user v = if 0 ∈ u then .error .nullInUser else .ok (.bytes u) := by
  rw [user, h]
  show (if u.contains 0 = true then _ else _) = _
  simp only [List.contains_iff_mem]

theorem user_text (name : Text) :
    user (.text name) = if '\x00' ∈ name then .error .nullInUser else .ok (.bytes (Text.utf8 name)) := by
  rw [user_of_toBytes (Value.toBytes_text name)]
  simp only [Text.zero_mem_utf8_iff]

/-- A user in broken text is refused at its first run of surrogates. -/
theorem user_broken (b : BrokenText) : user (.broken b) = .error (.coding (.unencodable b.refusal)) := rfl

end Route

end SocksTunnel
