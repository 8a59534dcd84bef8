import SocksTunnel.Proofs.Handshake.Drafts
import SocksTunnel.Proofs.Route.Line

/-
  SocksTunnel.Proofs.Route.Refusal — what becomes of a line that is not read. Every part of a line
  is refused with an error of its own, except the user: nobody asks in time whether it can be sent,
  so a zero in it, or a surrogate, ends in a plain fault.

  Proved: a line of text is read or refused for one of its parts, unless all that is wrong with it
  is a zero in its user; a broken line likewise, unless all that is wrong with it are the surrogates
  in its user. Surrogates may stand in the scope of an address, and nowhere else (`read_refuses`).
-/

namespace SocksTunnel

namespace Line

/-- A line that describes a route but for a zero in its user. -/
def HasZeroInUser (p : Protocol) (t : Text) : Prop :=
  p = .socks4User ∧ ∃ place name limits a q s,
    t.splitOn ' ' = [place, name, limits] ∧ IsPlace place a q ∧ IsLimits limits s ∧ '\x00' ∈ name

/-- A broken line that describes a route but for the surrogates in its user, `name`. -/
def HasBrokenUser (p : Protocol) (b name : BrokenText) : Prop :=
  p = .socks4User ∧ ∃ (place limits : Text) (a : Ipv4) (q : Port) (s : Timeouts),
    b.signs.splitOn (.char ' ') = [place.signs, name.signs, limits.signs] ∧ IsPlace place a q ∧ IsLimits limits s

/-- A broken line and the route that it describes: the destination alone is broken, and still an address. -/
def DescribesBroken (b : BrokenText) (r : Route) : Prop :=
  ∃ (dest : BrokenText) (port limits : Text) (d : Destination) (p : Port) (s : Timeouts),
    b.signs.splitOn (.char ' ') = [dest.signs, port.signs, limits.signs] ∧ Destination.address? dest.plain = some d ∧
      port.readInt? = some (p.toNat : Int) ∧ IsLimits limits s ∧ r = .socks5 d p (.timeouts s)

end Line

namespace Route

open Line

/-! ## Refusals -/

/-- Whatever fails here fails for a part of the line. -/
abbrev Refuses {α : Type} (e : Except Failure α) : Prop := e.FailsOnly fun f => ∃ part v, f = .wrong part v

/-- A part that is checked for bad values alone spoils that part. -/
theorem Rejects.refuses {α : Type} {e : Except Fault α} (he : Rejects e) (part : ConfigurationPart) (v : Text) :
    Refuses (inPart part (.text v) e) :=
  he.mapError fun _ hf => ⟨part, v, if_pos hf⟩

theorem refuses_readPort (t : Text) : Refuses (Value.readPort (.text t)) := by
  rcases Value.readPort_cases t with ⟨p, hp, -⟩ | ⟨hp, -⟩
  · rw [hp]
    exact .ok p
  · rw [hp]
    exact .error ⟨.port, t, rfl⟩

theorem refuses_readTimeouts (t : Text) : Refuses (Value.readTimeouts (.text t)) := by
  simp only [Value.readTimeouts]
  split
  · exact .ok _
  · exact .error ⟨.timeouts, t, rfl⟩

theorem refuses_splitHostPort (t : Text) : Refuses (Value.splitHostPort t) := by
  intro f hf
  rcases Value.splitHostPort_eq_error_iff.mp hf with ⟨rfl, -⟩ | ⟨-, port, rfl, -⟩
  · exact ⟨.address, t, rfl⟩
  · exact ⟨.port, port, rfl⟩

theorem refuses_addressPort (t : Text) : Refuses (addressPort (.text t)) := by
  intro f hf
  rcases Except.bind_eq_error_iff.mp hf with hf | ⟨_, hpair, hf⟩
  · exact (refuses_splitHostPort t).map _ f hf
  · obtain ⟨⟨host, p⟩, -, rfl⟩ := Except.map_eq_ok_iff.mp hpair
    exact ((Rejects.refuses (rejects_socks4Address_text host) .address t).bind fun _ => .ok _) f hf

theorem refuses_read4 (place limits : Text) : Refuses (read4 (.text place) (.text limits)) :=
  (refuses_addressPort place).bind fun _ => (refuses_readTimeouts limits).bind fun _ => .ok _

theorem refuses_read5 (dest port limits : Text) : Refuses (read5 (.text dest) (.text port) (.text limits)) :=
  (Rejects.refuses (rejects_toDestination_text dest) .address dest).bind fun _ =>
    (refuses_readPort port).bind fun _ => (refuses_readTimeouts limits).bind fun _ => .ok _

/-- A zero in the user is told only after everything else was found in order. -/
theorem read4User_eq_error {place name limits : Text} {f : Failure}
    (h : read4User (.text place) (.text name) (.text limits) = .error f) :
    (∃ part v, f = .wrong part v) ∨
      f = .fault .nullInUser ∧ ∃ a p s, IsPlace place a p ∧ IsLimits limits s ∧ '\x00' ∈ name := by
  rcases Except.bind_eq_error_iff.mp h with hp | ⟨⟨a, p⟩, hplace, h'⟩
  · exact .inl (refuses_addressPort place f hp)
  rcases Except.bind_eq_error_iff.mp h' with hl | ⟨s, hlimits, -⟩
  · exact .inl (refuses_readTimeouts limits f hl)
  rw [addressPort_eq_ok_iff] at hplace
  rw [← isLimits_iff] at hlimits
  rw [read4User_of_parts hplace hlimits] at h
  split at h
  · exact .inr ⟨(Except.error.inj h).symm, a, p, s, hplace, hlimits, ‹_›⟩
  · cases h

theorem read_eq_error {p : Protocol} {t : Text} {f : Failure} (h : read p (.text t) = .error f) :
    (∃ part v, f = .wrong part v) ∨ f = .fault .nullInUser ∧ HasZeroInUser p t := by
  rw [read, readText] at h
  rcases readParts_cases Value.text p (.text t) (t.splitOn ' ') with
    ⟨place, limits, rfl, hs, hread⟩ | ⟨place, name, limits, rfl, hs, hread⟩ | ⟨dest, port, limits, rfl, hs, hread⟩ |
    hread
  · exact .inl (refuses_read4 _ _ f (hread.symm.trans h))
  · rcases read4User_eq_error (hread.symm.trans h) with hw | ⟨hf, a, q, s, hplace, hlimits, hzero⟩
    · exact .inl hw
    · exact .inr ⟨hf, rfl, _, _, _, a, q, s, hs, hplace, hlimits, hzero⟩
  · exact .inl (refuses_read5 _ _ _ f (hread.symm.trans h))
  · exact .inl ⟨.fields, t, Except.error.inj (h.symm.trans hread)⟩

theorem read_of_zero {p : Protocol} {t : Text} (h : HasZeroInUser p t) :
    read p (.text t) = .error (.fault .nullInUser) := by
  obtain ⟨rfl, place, name, limits, a, q, s, parts, hplace, hlimits, hzero⟩ := h
  rw [read, readText, parts]
  exact (read4User_of_parts hplace hlimits).trans (if_pos hzero)

/-! ## Broken lines -/

/-- Whatever fails here fails for a part of the line, which may be broken. -/
abbrev Spoils {α : Type} (e : Except Failure α) : Prop := e.FailsOnly fun f => ∃ part v, f = .configuration ⟨part, v⟩

theorem Rejects.spoils {α : Type} {e : Except Fault α} (he : Rejects e) (part : ConfigurationPart) (v : Value) :
    Spoils (inPart part v e) :=
  he.mapError fun _ hf => ⟨part, v, if_pos hf⟩

/-- A part that is only read where it is text, and refused where it is not. -/
structure ReadsText {α : Type} (ss : List Sign) (e : Except Failure α) : Prop where
  spoils : Spoils e
  isText : ∀ a, e = .ok a → ∃ t : Text, ss = t.signs

theorem readsText {α : Type} {e : Value → Except Failure α} (htext : ∀ t, Refuses (e (.text t)))
    (hbroken : ∀ b, ∃ part v, e (.broken b) = .error (.configuration ⟨part, v⟩)) (ss : List Sign) :
    ReadsText ss (e (.ofSigns ss)) := by
  rcases Sign.text_or_broken ss with ⟨t, rfl⟩ | ⟨b, rfl⟩
  · rw [Value.ofSigns_signs]
    refine ⟨fun f hf => ?_, fun _ _ => ⟨t, rfl⟩⟩
    obtain ⟨part, v, rfl⟩ := htext t f hf
    exact ⟨part, .text v, rfl⟩
  · rw [Value.ofSigns_broken]
    obtain ⟨part, v, hf⟩ := hbroken b
    rw [hf]
    exact ⟨.error ⟨part, v, rfl⟩, fun _ h => nomatch h⟩

theorem addressPort_broken (b : BrokenText) :
    ∃ part v, addressPort (.broken b) = .error (.configuration ⟨part, v⟩) := by
  rw [addressPort]
  rcases Value.hostPort_broken b with ⟨host, p, hcut⟩ | ⟨part, v, hcut⟩
  · obtain ⟨e, he⟩ := Ipv4.parseBroken_isError host
    have haddress : (Value.broken host).socks4Address = .error (.address e) := by rw [Value.socks4Address, he]; rfl
    refine ⟨.address, .broken b, ?_⟩
    rw [hcut]
    show (inPart .address (.broken b) (Value.broken host).socks4Address >>= _) = _
    rw [haddress]
    rfl
  · refine ⟨part, v, ?_⟩
    rw [hcut]
    rfl

theorem readsText_addressPort : ∀ ss, ReadsText ss (addressPort (.ofSigns ss)) :=
  readsText refuses_addressPort addressPort_broken

theorem readsText_port : ∀ ss, ReadsText ss (Value.readPort (.ofSigns ss)) :=
  readsText refuses_readPort fun b => ⟨.port, .broken b, rfl⟩

theorem readsText_timeouts : ∀ ss, ReadsText ss (Value.readTimeouts (.ofSigns ss)) :=
  readsText refuses_readTimeouts fun b => ⟨.timeouts, .broken b, rfl⟩

theorem toDestination_broken_eq_ok_iff {b : BrokenText} {d : Destination} :
    (Value.broken b).toDestination = .ok d ↔ Destination.address? b.plain = some d := by
  rw [Value.toDestination]
  cases Destination.address? b.plain <;> simp

theorem spoils_read4 (place limits : List Sign) : Spoils (read4 (.ofSigns place) (.ofSigns limits)) :=
  (readsText_addressPort place).spoils.bind fun _ => (readsText_timeouts limits).spoils.bind fun _ => .ok _

theorem spoils_read5 (dest port limits : List Sign) : Spoils (read5 (.ofSigns dest) (.ofSigns port) (.ofSigns limits)) :=
  (Rejects.spoils (rejects_toDestination dest) _ _).bind fun _ =>
    (readsText_port port).spoils.bind fun _ => (readsText_timeouts limits).spoils.bind fun _ => .ok _

theorem read4_isText {place limits : List Sign} {r : Route} (h : read4 (.ofSigns place) (.ofSigns limits) = .ok r) :
    (∃ t : Text, place = t.signs) ∧ ∃ t : Text, limits = t.signs := by
  obtain ⟨x, hplace, h⟩ := Except.bind_eq_ok_iff.mp h
  obtain ⟨s, hlimits, -⟩ := Except.bind_eq_ok_iff.mp h
  exact ⟨(readsText_addressPort place).isText _ hplace, (readsText_timeouts limits).isText _ hlimits⟩

/-- A broken part spoils the line, unless it is the user: then nothing else is wrong where its turn comes. -/
theorem read4User_of_broken {place name limits : List Sign} {w : BrokenText} (hw : w.signs ∈ [place, name, limits]) :
    (∃ part v, read4User (.ofSigns place) (.ofSigns name) (.ofSigns limits) = .error (.configuration ⟨part, v⟩)) ∨
      ∃ (t u : Text) (a : Ipv4) (p : Port) (s : Timeouts),
        place = t.signs ∧ name = w.signs ∧ limits = u.signs ∧ IsPlace t a p ∧ IsLimits u s ∧
          read4User (.ofSigns place) (.ofSigns name) (.ofSigns limits) =
            .error (.fault (.coding (.unencodable w.refusal))) := by
  rw [read4User]
  cases hplace : addressPort (.ofSigns place) with
  | error f =>
    obtain ⟨part, v, rfl⟩ := (readsText_addressPort place).spoils f hplace
    exact .inl ⟨part, v, rfl⟩
  | ok x =>
    cases hlimits : Value.readTimeouts (.ofSigns limits) with
    | error f =>
      obtain ⟨part, v, rfl⟩ := (readsText_timeouts limits).spoils f hlimits
      exact .inl ⟨part, v, rfl⟩
    | ok s =>
      obtain ⟨a, p⟩ := x
      obtain ⟨t, rfl⟩ := (readsText_addressPort place).isText _ hplace
      obtain ⟨u, rfl⟩ := (readsText_timeouts limits).isText _ hlimits
      obtain rfl : w.signs = name := by simpa [w.signs_ne] using hw
      rw [Value.ofSigns_signs] at hplace hlimits
      refine .inr ⟨t, u, a, p, s, rfl, rfl, rfl, addressPort_eq_ok_iff.mp hplace, isLimits_iff.mpr hlimits, ?_⟩
      rw [Value.ofSigns_broken]
      rfl

/-- Only a destination may have surrogates and be read. -/
theorem read_broken_eq_ok_iff {p : Protocol} {b : BrokenText} {r : Route} :
    read p (.broken b) = .ok r ↔ r.protocol = p ∧ DescribesBroken b r := by
  rw [read, readBroken]
  constructor
  · intro h
    obtain ⟨w, hw⟩ := Text.exists_broken_part b ' '
    rcases readParts_cases Value.ofSigns p (.broken b) (b.signs.splitOn (.char ' ')) with
      ⟨place, limits, rfl, hs, hread⟩ | ⟨place, name, limits, rfl, hs, hread⟩ | ⟨dest, port, limits, rfl, hs, hread⟩ |
      hread
    · obtain ⟨⟨t, rfl⟩, u, rfl⟩ := read4_isText (hread.symm.trans h)
      simp [hs, w.signs_ne] at hw
    · rcases read4User_of_broken (hs ▸ hw) with ⟨part, v, hf⟩ | ⟨-, -, -, -, -, -, -, -, -, -, hf⟩
      · cases (hread.trans hf).symm.trans h
      · cases (hread.trans hf).symm.trans h
    · obtain ⟨d, hdest, h'⟩ := Except.bind_eq_ok_iff.mp (hread.symm.trans h)
      obtain ⟨q, hport, h'⟩ := Except.bind_eq_ok_iff.mp h'
      obtain ⟨s, hlimits, hr⟩ := Except.bind_eq_ok_iff.mp h'
      obtain ⟨t, rfl⟩ := (readsText_port port).isText _ hport
      obtain ⟨u, rfl⟩ := (readsText_timeouts limits).isText _ hlimits
      obtain rfl : w.signs = dest := by simpa [hs, w.signs_ne] using hw
      rw [Value.ofSigns_signs] at hport hlimits
      rw [inPart_eq_ok_iff, Value.ofSigns_broken, toDestination_broken_eq_ok_iff] at hdest
      obtain rfl := Except.ok.inj hr
      exact ⟨rfl, w, t, u, d, q, s, hs, hdest, Value.readPort_text_eq_ok_iff.mp hport, isLimits_iff.mpr hlimits, rfl⟩
    · cases hread.symm.trans h
  · rintro ⟨rfl, dest, port, limits, d, q, s, hs, hdest, hport, hlimits, rfl⟩
    have hd : inPart .address (.broken dest) (Value.broken dest).toDestination = .ok d :=
      inPart_eq_ok_iff.mpr (toDestination_broken_eq_ok_iff.mpr hdest)
    rw [hs]
    show read5 (.ofSigns dest.signs) (.ofSigns port.signs) (.ofSigns limits.signs) = _
    rw [Value.ofSigns_broken, Value.ofSigns_signs, Value.ofSigns_signs, read5, hd,
      Value.readPort_text_eq_ok_iff.mpr hport, isLimits_iff.mp hlimits]
    rfl

theorem read_broken_eq_error {p : Protocol} {b : BrokenText} {f : Failure} (h : read p (.broken b) = .error f) :
    (∃ part v, f = .configuration ⟨part, v⟩) ∨
      ∃ name, f = .fault (.coding (.unencodable name.refusal)) ∧ HasBrokenUser p b name := by
  rw [read, readBroken] at h
  obtain ⟨w, hw⟩ := Text.exists_broken_part b ' '
  rcases readParts_cases Value.ofSigns p (.broken b) (b.signs.splitOn (.char ' ')) with
    ⟨place, limits, rfl, hs, hread⟩ | ⟨place, name, limits, rfl, hs, hread⟩ | ⟨dest, port, limits, rfl, hs, hread⟩ |
    hread
  · exact .inl (spoils_read4 place limits f (hread.symm.trans h))
  · rcases read4User_of_broken (hs ▸ hw) with ⟨part, v, hf⟩ | ⟨t, u, a, q, s, rfl, rfl, rfl, hplace, hlimits, hf⟩
    · exact .inl ⟨part, v, Except.error.inj (h.symm.trans (hread.trans hf))⟩
    · exact .inr ⟨w, Except.error.inj (h.symm.trans (hread.trans hf)), rfl, t, u, a, q, s, hs, hplace, hlimits⟩
  · exact .inl (spoils_read5 dest port limits f (hread.symm.trans h))
  · exact .inl ⟨.fields, .broken b, Except.error.inj (h.symm.trans hread)⟩

theorem read_of_broken_user {p : Protocol} {b name : BrokenText} (h : HasBrokenUser p b name) :
    read p (.broken b) = .error (.fault (.coding (.unencodable name.refusal))) := by
  obtain ⟨rfl, place, limits, a, q, s, hs, hplace, hlimits⟩ := h
  rw [read, readBroken, hs]
  show read4User (.ofSigns place.signs) (.ofSigns name.signs) (.ofSigns limits.signs) = _
  rw [Value.ofSigns_signs, Value.ofSigns_broken, Value.ofSigns_signs, read4User, addressPort_eq_ok_iff.mpr hplace,
    isLimits_iff.mp hlimits]
  rfl

/-! ## Lines -/

/-- A route that was read can be used: its timeouts are given, and its request can be written. -/
theorem usable_of_read {p : Protocol} {v : Value} {r : Route} (h : read p v = .ok r) :
    r.protocol = p ∧ (∃ s, r.timeouts = .ok s) ∧ ∃ b, r.request = .ok b := by
  cases v with
  | text t =>
    obtain ⟨hprotocol, hd⟩ := read_eq_ok_iff.mp h
    refine ⟨hprotocol, ?_⟩
    cases hd with
    | socks4 => exact ⟨⟨_, rfl⟩, _, request_socks4 ..⟩
    | socks4User => exact ⟨⟨_, rfl⟩, _, request_socks4User ..⟩
    | socks5 => exact ⟨⟨_, rfl⟩, _, request_socks5 ..⟩
  | broken b =>
    obtain ⟨hprotocol, _, _, _, d, q, s, -, -, -, -, rfl⟩ := read_broken_eq_ok_iff.mp h
    exact ⟨hprotocol, ⟨s, rfl⟩, _, request_socks5 ..⟩
  | _ => cases h

/-- What a SOCKS5 route offers is the greeting of that one method. -/
theorem write_offer {r : Route} (h : r.protocol = .socks5) :
    ∃ m, r.offer = some m ∧ (GreetingDraft.offering (.list [.ofOctet AuthMethod.noAuth.code])).write = .ok m := by
  cases r with
  | socks4 => cases h
  | socks4User => cases h
  | socks5 => exact ⟨_, rfl, Steps.write_greeting⟩

/-- A line is read exactly if it describes a route, and a route that is read has a port of sixteen bits, timeouts that are
finite and not negative, and a request and an offer that can be written. A line that is not read is refused for one of its
parts, unless all that is wrong with it is a zero in its user. Of a broken line the same is true, unless all that is wrong
with it is its user: that has surrogates, for which there are no octets. -/
theorem read_refuses (p : Protocol) (t : Text) :
    (∀ r, read p (.text t) = .ok r ↔ r.protocol = p ∧ Describes t r) ∧
    (∀ v r, read p v = .ok r → r.port.toNat ≤ 65535 ∧
      (∃ s, r.timeouts = .ok s ∧ ∀ ph, (s.get ph).number.isFinite = true ∧ (s.get ph).number.isNegative = false) ∧
      (∃ b, r.request = .ok b) ∧
      (p = .socks5 → ∃ m, r.offer = some m ∧
        (GreetingDraft.offering (.list [.ofOctet AuthMethod.noAuth.code])).write = .ok m)) ∧
    (read p (.text t) = .error (.fault .nullInUser) ↔ HasZeroInUser p t) ∧
    (¬ HasZeroInUser p t →
      (∃ r, read p (.text t) = .ok r) ∨ ∃ part v, read p (.text t) = .error (.wrong part v)) ∧
    ∀ b : BrokenText,
      (∀ r, read p (.broken b) = .ok r ↔ r.protocol = p ∧ DescribesBroken b r) ∧
      (∀ name, HasBrokenUser p b name → read p (.broken b) = .error (.fault (.coding (.unencodable name.refusal)))) ∧
      ((∀ name, ¬ HasBrokenUser p b name) →
        (∃ r, read p (.broken b) = .ok r) ∨ ∃ part v, read p (.broken b) = .error (.configuration ⟨part, v⟩)) := by
  refine ⟨fun r => read_eq_ok_iff, fun v r h => ?_, ⟨fun h => ?_, read_of_zero⟩, fun hz => ?_, fun b => ?_⟩
  · obtain ⟨hprotocol, ⟨s, hs⟩, hb⟩ := usable_of_read h
    refine ⟨Nat.le_of_lt_succ r.port.toNat_lt, ⟨s, hs, fun ph => ?_⟩, hb, fun h5 => write_offer (hprotocol.trans h5)⟩
    exact ⟨(s.get ph).isFinite, (s.get ph).notNegative⟩
  · rcases read_eq_error h with ⟨part, v, hf⟩ | ⟨-, hz⟩
    · cases hf
    · exact hz
  · cases h : read p (.text t) with
    | ok r => exact .inl ⟨r, rfl⟩
    | error f =>
      rcases read_eq_error h with ⟨part, v, rfl⟩ | ⟨-, hz'⟩
      · exact .inr ⟨part, v, rfl⟩
      · exact absurd hz' hz
  · refine ⟨fun r => read_broken_eq_ok_iff, fun name => read_of_broken_user, fun hno => ?_⟩
    cases h : read p (.broken b) with
    | ok r => exact .inl ⟨r, rfl⟩
    | error f =>
      rcases read_broken_eq_error h with ⟨part, v, rfl⟩ | ⟨name, -, hname⟩
      · exact .inr ⟨part, v, rfl⟩
      · exact absurd hname (hno name)

/-- Brackets, a sign and an underscore in the port, a digit of another script in the timeouts; a user that is a single
surrogate, and a zone with one. -/
theorem read_refuses_spelled :
    let line : Text := .lit "[1.2.3.4]:+8_0 bob 0.5:1e1:\u0664"
    let limits : Timeouts := ⟨⟨⟨0x3fe0000000000000⟩, by decide +kernel, by decide +kernel⟩, .ten,
      ⟨⟨0x4010000000000000⟩, by decide +kernel, by decide +kernel⟩⟩
    let r := socks4User ⟨1, 2, 3, 4⟩ 80 (.bytes (Text.utf8 (.lit "bob"))) (.timeouts limits)
    let name : BrokenText := ⟨[.surrogate ⟨0xdc80, by decide⟩], rfl⟩
    let named : BrokenText := ⟨Text.signs (.lit "1.2.3.4:80 ") ++ name.signs ++ Text.signs (.lit " 8:8:8"), by decide +kernel⟩
    let zoned : BrokenText := ⟨Text.signs (.lit "fe80::1%") ++ name.signs ++ Text.signs (.lit " 80 8:8:8"), by decide +kernel⟩
    (Describes line r ∧ ¬ HasZeroInUser .socks4User line ∧ read .socks4User (.text line) = .ok r ∧
      (∃ b, r.request = .ok b) ∧
      ((∃ r, read .socks4User (.text line) = .ok r) ∨ ∃ part v, read .socks4User (.text line) = .error (.wrong part v))) ∧
      (HasBrokenUser .socks4User named name ∧
        read .socks4User (.broken named) = .error (.fault (.coding (.unencodable name.refusal)))) ∧
      (∀ name, ¬ HasBrokenUser .socks5 zoned name) ∧ ∃ r, read .socks5 (.broken zoned) = .ok r := by
  intro line limits r name named zoned
  obtain ⟨hread, husable, hzero, hrefused, hbroken⟩ := read_refuses .socks4User line
  have hplace : IsPlace (.lit "[1.2.3.4]:+8_0") ⟨1, 2, 3, 4⟩ 80 :=
    ⟨.lit "+8_0", by decide, by decide +kernel, .inr (by decide +kernel)⟩
  have hlimits : IsLimits (.lit "0.5:1e1:\u0664") limits :=
    ⟨.lit "0.5", .lit "1e1", .lit "\u0664", by decide +kernel, by decide +kernel, by decide +kernel, by decide +kernel⟩
  have hparts : line.splitOn ' ' = [Text.lit "[1.2.3.4]:+8_0", Text.lit "bob", Text.lit "0.5:1e1:\u0664"] := by decide +kernel
  have hd : Describes line r := .socks4User hparts hplace hlimits (by decide)
  have hok := (hread r).mpr ⟨rfl, hd⟩
  have hno : ¬ HasZeroInUser .socks4User line := by
    intro h
    rw [hzero.mpr h] at hok
    cases hok
  have huniform : IsLimits (.lit "8:8:8") (.uniform ⟨⟨0x4020000000000000⟩, by decide +kernel, by decide +kernel⟩) :=
    ⟨.lit "8", .lit "8", .lit "8", by decide +kernel, by decide +kernel, by decide +kernel, by decide +kernel⟩
  have hnamed : HasBrokenUser .socks4User named name :=
    ⟨rfl, .lit "1.2.3.4:80", .lit "8:8:8", ⟨1, 2, 3, 4⟩, 80, _, by decide +kernel,
      ⟨.lit "80", by decide, by decide +kernel, .inl (by decide +kernel)⟩, huniform⟩
  have hfree : ∀ name, ¬ HasBrokenUser .socks5 zoned name := fun _ h => absurd h.1 (by decide)
  -- the surrogate stays in the scope as a terminal shows it
  let zone : BrokenText := ⟨Text.signs (.lit "fe80::1%") ++ name.signs, by decide +kernel⟩
  let d : Destination := .ipv6 ⟨[0xfe80, 0, 0, 0, 0, 0, 0, 1], some (.lit "\\udc80"), rfl, by decide⟩
  have hzoned : DescribesBroken zoned (.socks5 d 80 (.timeouts (.uniform ⟨⟨0x4020000000000000⟩, by decide +kernel,
      by decide +kernel⟩))) :=
    ⟨zone, .lit "80", .lit "8:8:8", d, 80, _, by decide +kernel, by decide +kernel, by decide +kernel, huniform, rfl⟩
  obtain ⟨hreadBroken, -, hrefusedBroken⟩ := (read_refuses .socks5 []).2.2.2.2 zoned
  refine ⟨⟨hd, hno, hok, (husable _ r hok).2.2.1, hrefused hno⟩, ⟨hnamed, (hbroken named).2.1 name hnamed⟩, hfree, ?_⟩
  rcases hrefusedBroken hfree with hr | ⟨part, v, hf⟩
  · exact hr
  · cases hf.symm.trans ((hreadBroken _).mpr ⟨rfl, hzoned⟩)

/-- All parts are in order but for a zero in the user: neither a route nor a part that is refused. -/
theorem read_zero_in_user :
    let line : Text := .lit "1.2.3.4:80 a\x00b 8:8:8"
    read .socks4User (.text line) = .error (.fault .nullInUser) ∧
      ¬ ((∃ r, read .socks4User (.text line) = .ok r) ∨
        ∃ part v, read .socks4User (.text line) = .error (.wrong part v)) := by
  intro line
  have hplace : IsPlace (.lit "1.2.3.4:80") ⟨1, 2, 3, 4⟩ 80 :=
    ⟨.lit "80", by decide, by decide +kernel, .inl (by decide +kernel)⟩
  have hlimits : IsLimits (.lit "8:8:8") (.uniform ⟨⟨0x4020000000000000⟩, by decide +kernel, by decide +kernel⟩) :=
    ⟨.lit "8", .lit "8", .lit "8", by decide +kernel, by decide +kernel, by decide +kernel, by decide +kernel⟩
  have hzero : HasZeroInUser .socks4User line :=
    ⟨rfl, _, Text.lit "a\x00b", _, _, _, _, by decide +kernel, hplace, hlimits, by decide⟩
  have hf : read .socks4User (.text line) = .error (.fault .nullInUser) := read_of_zero hzero
  refine ⟨hf, ?_⟩
  rintro (⟨r, hr⟩ | ⟨part, v, hr⟩)
  · rw [hf] at hr
    cases hr
  · rw [hf] at hr
    cases hr

end Route

end SocksTunnel
