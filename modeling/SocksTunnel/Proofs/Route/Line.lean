import SocksTunnel.Proofs.Address.Quad
import SocksTunnel.Proofs.Route.Checks
import SocksTunnel.Proofs.Route.HostPort
import SocksTunnel.Route.Reading

/-
  SocksTunnel.Proofs.Route.Line — which lines describe a route. A line is one if its parts are:
  a dotted quad and a port around a colon, or a destination and a port in parts of their own; a
  user without a zero character; three durations between colons.

  Proved: exactly these lines of text are read, each as the route that it describes
  (`read_eq_ok_iff`). A line in which settings are written gives the route of these settings
  (`read_written`).
-/

namespace SocksTunnel

/-! ## Parts of a line -/

namespace Value

theorem readTimeouts_text_eq_ok_iff {t : Text} {s : Timeouts} :
    readTimeouts (text t) = .ok s ↔ Timeouts.parse? t = some s := by
  cases h : Timeouts.parse? t with
  | none => simp [readTimeouts, h]
  | some u => simp [readTimeouts, h]

end Value

namespace Line

/-- Address and port: a dotted quad, perhaps in brackets, and behind the last colon a whole number. -/
def IsPlace (t : Text) (a : Ipv4) (p : Port) : Prop :=
  ∃ port : Text, ':' ∉ port ∧ port.readInt? = some (p.toNat : Int) ∧
    (t = a.text ++ ':' :: port ∨ t = '[' :: a.text ++ [']'] ++ ':' :: port)

/-- Three numbers between colons, blanks around them. -/
def IsLimits (t : Text) (s : Timeouts) : Prop :=
  ∃ c w r : Text, t.trim.splitOn ':' = [c, w, r] ∧ c.readReal? = some s.connect.number ∧ w.readReal? = some s.write.number ∧
    r.readReal? = some s.read.number

/-- A line and the route that it describes. -/
inductive Describes (t : Text) : Route → Prop
  | socks4 {place limits : Text} {a : Ipv4} {p : Port} {s : Timeouts} (parts : t.splitOn ' ' = [place, limits])
      (hplace : IsPlace place a p) (hlimits : IsLimits limits s) : Describes t (.socks4 a p (.timeouts s))
  | socks4User {place name limits : Text} {a : Ipv4} {p : Port} {s : Timeouts}
      (parts : t.splitOn ' ' = [place, name, limits]) (hplace : IsPlace place a p) (hlimits : IsLimits limits s)
      (huser : '\x00' ∉ name) : Describes t (.socks4User a p (.bytes name.utf8) (.timeouts s))
  | socks5 {dest port limits : Text} {d : Destination} {p : Port} {s : Timeouts}
      (parts : t.splitOn ' ' = [dest, port, limits]) (hdest : Destination.ofText dest = .ok d)
      (hport : port.readInt? = some (p.toNat : Int)) (hlimits : IsLimits limits s) :
      Describes t (.socks5 d p (.timeouts s))

theorem duration?_eq_some_iff {t : Text} {d : Duration} : Timeouts.duration? t = some d ↔ t.readReal? = some d.number := by
  constructor
  · intro h
    obtain ⟨x, hx, hd⟩ := Option.bind_eq_some_iff.mp h
    rw [hx, Duration.ofNumber?_eq_some hd]
  · intro h
    rw [Timeouts.duration?, h]
    exact dif_pos ⟨d.isFinite, d.notNegative⟩

theorem isLimits_iff {t : Text} {s : Timeouts} : IsLimits t s ↔ Value.readTimeouts (.text t) = .ok s := by
  rw [Value.readTimeouts_text_eq_ok_iff]
  constructor
  · rintro ⟨c, w, r, hs, hc, hw, hr⟩
    rw [← duration?_eq_some_iff] at hc hw hr
    simp [Timeouts.parse?, hs, hc, hw, hr]
  · intro h
    obtain ⟨c, w, r, hs, hc, hw, hr⟩ := Timeouts.parse?_eq_some h
    exact ⟨c, w, r, hs, duration?_eq_some_iff.mp hc, duration?_eq_some_iff.mp hw, duration?_eq_some_iff.mp hr⟩

end Line

namespace Route

open Line

theorem inPart_eq_ok_iff {α : Type} {part : ConfigurationPart} {v : Value} {e : Except Fault α} {a : α} :
    inPart part v e = .ok a ↔ e = .ok a := Except.mapError_eq_ok_iff

/-- A quad may stand in brackets, and has to be without them otherwise. -/
theorem hasForm_quad_iff {t port : Text} {a : Ipv4} : Value.HasForm t a.text port ↔
    ':' ∉ port ∧ (t = a.text ++ ':' :: port ∨ t = '[' :: a.text ++ [']'] ++ ':' :: port) := by
  constructor
  · rintro ⟨_, hw, hport, rfl⟩
    cases hw with
    | bare => exact ⟨hport, .inl rfl⟩
    | bracketed => exact ⟨hport, .inr rfl⟩
  · have hcolon : ':' ∉ a.text := Ipv4.not_mem_text (by decide) (by decide)
    have hout : ¬ Value.InBrackets a.text := fun hin => a.head?_text (Value.inBrackets_iff.mp hin).1
    rintro ⟨hport, rfl | rfl⟩
    · exact ⟨_, .bare a.text_ne_nil hcolon hout, hport, rfl⟩
    · exact ⟨_, .bracketed, hport, rfl⟩

theorem splitHostPort_quad_iff {t : Text} {a : Ipv4} {p : Port} :
    Value.splitHostPort t = .ok (a.text, p) ↔ IsPlace t a p := by
  rw [Value.splitHostPort_eq_ok_iff]
  exact exists_congr fun port => by rw [hasForm_quad_iff, and_assoc, and_comm (b := _ = _)]

theorem addressPort_eq_ok_iff {t : Text} {a : Ipv4} {p : Port} :
    addressPort (.text t) = .ok (a, p) ↔ IsPlace t a p := by
  have hread : ∀ host : Text, inPart .address (.text t) (Value.text host).socks4Address = .ok a ↔ host = a.text := by
    intro host
    rw [inPart_eq_ok_iff, Value.socks4Address_text, Except.mapError_eq_ok_iff, Ipv4.parse, Ipv4.parseShown_eq_ok_iff]
  rw [← splitHostPort_quad_iff, addressPort]
  constructor
  · intro h
    obtain ⟨_, hpair, h⟩ := Except.bind_eq_ok_iff.mp h
    obtain ⟨⟨host, q⟩, hcut, rfl⟩ := Except.map_eq_ok_iff.mp hpair
    obtain ⟨b, hb, h⟩ := Except.bind_eq_ok_iff.mp h
    cases h
    rw [hcut, (hread host).mp hb]
  · intro h
    have hcut : (Value.text t).hostPort = .ok (.text a.text, p) := Except.map_eq_ok_iff.mpr ⟨_, h, rfl⟩
    exact Except.bind_eq_ok_iff.mpr ⟨_, hcut, Except.bind_eq_ok_iff.mpr ⟨a, (hread _).mpr rfl, rfl⟩⟩

/-! ## Routes -/

theorem read4_eq_ok_iff {place limits : Text} {r : Route} : read4 (.text place) (.text limits) = .ok r ↔
    ∃ a p s, IsPlace place a p ∧ IsLimits limits s ∧ r = socks4 a p (.timeouts s) := by
  constructor
  · intro h
    obtain ⟨⟨a, p⟩, hplace, h⟩ := Except.bind_eq_ok_iff.mp h
    obtain ⟨s, hlimits, h⟩ := Except.bind_eq_ok_iff.mp h
    exact ⟨a, p, s, addressPort_eq_ok_iff.mp hplace, isLimits_iff.mpr hlimits, (Except.ok.inj h).symm⟩
  · rintro ⟨a, p, s, hplace, hlimits, rfl⟩
    refine Except.bind_eq_ok_iff.mpr ⟨_, addressPort_eq_ok_iff.mpr hplace, ?_⟩
    exact Except.bind_eq_ok_iff.mpr ⟨s, isLimits_iff.mp hlimits, rfl⟩

/-- With address, port and timeouts in order, the user alone decides. -/
theorem read4User_of_parts {place name limits : Text} {a : Ipv4} {p : Port} {s : Timeouts} (hplace : IsPlace place a p)
    (hlimits : IsLimits limits s) : read4User (.text place) (.text name) (.text limits) =
      if '\x00' ∈ name then .error (.fault .nullInUser) else .ok (socks4User a p (.bytes name.utf8) (.timeouts s)) := by
  rw [read4User, addressPort_eq_ok_iff.mpr hplace, isLimits_iff.mp hlimits, user_text]
  split <;> rfl

theorem read4User_eq_ok_iff {place name limits : Text} {r : Route} :
    read4User (.text place) (.text name) (.text limits) = .ok r ↔
      ∃ a p s, IsPlace place a p ∧ IsLimits limits s ∧ '\x00' ∉ name ∧ r = socks4User a p (.bytes name.utf8) (.timeouts s) := by
  constructor
  · intro h
    obtain ⟨⟨a, p⟩, hplace, h'⟩ := Except.bind_eq_ok_iff.mp h
    obtain ⟨s, hlimits, -⟩ := Except.bind_eq_ok_iff.mp h'
    rw [addressPort_eq_ok_iff] at hplace
    rw [← isLimits_iff] at hlimits
    rw [read4User_of_parts hplace hlimits] at h
    split at h
    · cases h
    · exact ⟨a, p, s, hplace, hlimits, ‹_›, (Except.ok.inj h).symm⟩
  · rintro ⟨a, p, s, hplace, hlimits, huser, rfl⟩
    rw [read4User_of_parts hplace hlimits, if_neg huser]

theorem read5_eq_ok_iff {dest port limits : Text} {r : Route} :
    read5 (.text dest) (.text port) (.text limits) = .ok r ↔
      ∃ d p s, Destination.ofText dest = .ok d ∧ port.readInt? = some (p.toNat : Int) ∧ IsLimits limits s ∧
        r = socks5 d p (.timeouts s) := by
  constructor
  · intro h
    obtain ⟨d, hdest, h⟩ := Except.bind_eq_ok_iff.mp h
    obtain ⟨p, hport, h⟩ := Except.bind_eq_ok_iff.mp h
    obtain ⟨s, hlimits, h⟩ := Except.bind_eq_ok_iff.mp h
    rw [inPart_eq_ok_iff, Value.toDestination_text, Except.mapError_eq_ok_iff] at hdest
    exact ⟨d, p, s, hdest, Value.readPort_text_eq_ok_iff.mp hport, isLimits_iff.mpr hlimits, (Except.ok.inj h).symm⟩
  · rintro ⟨d, p, s, hdest, hport, hlimits, rfl⟩
    have hd : inPart .address (.text dest) (Value.text dest).toDestination = .ok d := by
      rw [inPart_eq_ok_iff, Value.toDestination_text, Except.mapError_eq_ok_iff, hdest]
    refine Except.bind_eq_ok_iff.mpr ⟨d, hd, ?_⟩
    refine Except.bind_eq_ok_iff.mpr ⟨p, Value.readPort_text_eq_ok_iff.mpr hport, ?_⟩
    exact Except.bind_eq_ok_iff.mpr ⟨s, isLimits_iff.mp hlimits, rfl⟩

/-- A line is read by its parts, as many as the protocol asks for; with any other number it is refused. -/
theorem readParts_cases {α : Type} (g : α → Value) (p : Protocol) (line : Value) (parts : List α) :
    (∃ place limits, p = .socks4 ∧ parts = [place, limits] ∧
      readParts p line (parts.map g) = read4 (g place) (g limits)) ∨
    (∃ place name limits, p = .socks4User ∧ parts = [place, name, limits] ∧
      readParts p line (parts.map g) = read4User (g place) (g name) (g limits)) ∨
    (∃ dest port limits, p = .socks5 ∧ parts = [dest, port, limits] ∧
      readParts p line (parts.map g) = read5 (g dest) (g port) (g limits)) ∨
    readParts p line (parts.map g) = .error (.configuration ⟨.fields, line⟩) := by
  unfold readParts
  split
  · rename_i hparts
    simp only [List.map_eq_cons_iff, List.map_eq_nil_iff] at hparts
    obtain ⟨place, _, rfl, rfl, limits, _, rfl, rfl, rfl⟩ := hparts
    exact .inl ⟨place, limits, rfl, rfl, rfl⟩
  · rename_i hparts
    simp only [List.map_eq_cons_iff, List.map_eq_nil_iff] at hparts
    obtain ⟨place, _, rfl, rfl, name, _, rfl, rfl, limits, _, rfl, rfl, rfl⟩ := hparts
    exact .inr (.inl ⟨place, name, limits, rfl, rfl, rfl⟩)
  · rename_i hparts
    simp only [List.map_eq_cons_iff, List.map_eq_nil_iff] at hparts
    obtain ⟨dest, _, rfl, rfl, port, _, rfl, rfl, limits, _, rfl, rfl, rfl⟩ := hparts
    exact .inr (.inr (.inl ⟨dest, port, limits, rfl, rfl, rfl⟩))
  · exact .inr (.inr (.inr rfl))

/-- The lines that are read are those that describe a route of the protocol. -/
theorem read_eq_ok_iff {p : Protocol} {t : Text} {r : Route} :
    read p (.text t) = .ok r ↔ r.protocol = p ∧ Describes t r := by
  rw [read, readText]
  constructor
  · intro h
    rcases readParts_cases Value.text p (.text t) (t.splitOn ' ') with
      ⟨place, limits, rfl, hs, hread⟩ | ⟨place, name, limits, rfl, hs, hread⟩ | ⟨dest, port, limits, rfl, hs, hread⟩ |
      hread
    · obtain ⟨a, q, s, hplace, hlimits, rfl⟩ := read4_eq_ok_iff.mp (hread.symm.trans h)
      exact ⟨rfl, .socks4 hs hplace hlimits⟩
    · obtain ⟨a, q, s, hplace, hlimits, huser, rfl⟩ := read4User_eq_ok_iff.mp (hread.symm.trans h)
      exact ⟨rfl, .socks4User hs hplace hlimits huser⟩
    · obtain ⟨d, q, s, hdest, hport, hlimits, rfl⟩ := read5_eq_ok_iff.mp (hread.symm.trans h)
      exact ⟨rfl, .socks5 hs hdest hport hlimits⟩
    · cases hread.symm.trans h
  · rintro ⟨rfl, hd⟩
    cases hd with
    | socks4 parts hplace hlimits =>
      rw [parts]
      exact read4_eq_ok_iff.mpr ⟨_, _, _, hplace, hlimits, rfl⟩
    | socks4User parts hplace hlimits huser =>
      rw [parts]
      exact read4User_eq_ok_iff.mpr ⟨_, _, _, hplace, hlimits, huser, rfl⟩
    | socks5 parts hdest hport hlimits =>
      rw [parts]
      exact read5_eq_ok_iff.mpr ⟨_, _, _, hdest, hport, hlimits, rfl⟩

/-! ## Lines that are written -/

theorem isPlace_written (a : Ipv4) (p : Port) : IsPlace (a.text ++ ':' :: Text.ofNat p.toNat) a p := by
  exact ⟨Text.ofNat p.toNat, Text.not_mem_ofNat (by decide), Value.readInt?_port p, .inl rfl⟩

theorem ofSettings_socks4_written (a : Ipv4) (p : Port) (t : Value) :
    ofSettings .socks4 [.ipv4 a, .int p.toNat, t] = .ok (socks4 a p t) := by
  have hport : (Value.int p.toNat).port = .ok p := Value.port_toNat p
  rw [ofSettings, Value.socks4Address_ipv4, hport]
  rfl

theorem ofSettings_socks4User_written (a : Ipv4) (p : Port) (t : Value) {name : Text} (huser : '\x00' ∉ name) :
    ofSettings .socks4User [.ipv4 a, .int p.toNat, .text name, t] = .ok (socks4User a p (.bytes name.utf8) t) := by
  have hport : (Value.int p.toNat).port = .ok p := Value.port_toNat p
  rw [ofSettings, Value.socks4Address_ipv4, hport, user_text, if_neg huser]
  rfl

/-- Of the settings of a SOCKS5 route, the destination alone can be wrong. -/
theorem ofSettings_socks5_written (dest : Text) (p : Port) (t : Value) :
    ofSettings .socks5 [.text dest, .int p.toNat, t] = (Value.text dest).toDestination.map fun d => socks5 d p t := by
  have hport : (Value.int p.toNat).port = .ok p := Value.port_toNat p
  have hdest : destination (.text dest) = (Value.text dest).toDestination := rfl
  rw [ofSettings, hdest, hport]
  cases (Value.text dest).toDestination <;> rfl

/-- A destination that is none is refused before all else. -/
theorem read5_refused {dest : Text} {f : Fault} (hf : (Value.text dest).toDestination = .error f) (port limits : Text) :
    f.isBadValue = true ∧ read5 (.text dest) (.text port) (.text limits) = .error (.wrong .address dest) := by
  have hbad : f.isBadValue = true := rejects_toDestination_text dest f hf
  have hpart : inPart .address (.text dest) (Value.text dest).toDestination = .error (.wrong .address dest) := by
    rw [hf]
    exact congrArg Except.error (if_pos hbad)
  refine ⟨hbad, ?_⟩
  rw [read5, hpart]
  rfl

/-- A route is the same from a line in which its settings are written as from the settings themselves, and a
destination that is none is refused in both. -/
theorem read_written (a : Ipv4) (p : Port) (name dest limits : Text) (s : Timeouts) (hname : ' ' ∉ name)
    (huser : '\x00' ∉ name) (hdest : ' ' ∉ dest) (hlimits : ' ' ∉ limits)
    (hs : Value.readTimeouts (.text limits) = .ok s) :
    let port := Text.ofNat p.toNat
    let place := a.text ++ ':' :: port
    (∃ r, r = socks4 a p (.timeouts s) ∧ read .socks4 (.text (place ++ ' ' :: limits)) = .ok r ∧
      ofSettings .socks4 [.ipv4 a, .int p.toNat, .timeouts s] = .ok r ∧
      r.request = .ok (Socks4Request.encode ⟨p, a, []⟩)) ∧
    (∃ r, r = socks4User a p (.bytes name.utf8) (.timeouts s) ∧
      read .socks4User (.text (place ++ ' ' :: name ++ ' ' :: limits)) = .ok r ∧
      ofSettings .socks4User [.ipv4 a, .int p.toNat, .text name, .timeouts s] = .ok r ∧
      r.request = .ok (Socks4Request.encode ⟨p, a, name.utf8⟩)) ∧
    match (Value.text dest).toDestination with
    | .ok d => ∃ r, r = socks5 d p (.timeouts s) ∧ read .socks5 (.text (dest ++ ' ' :: port ++ ' ' :: limits)) = .ok r ∧
        ofSettings .socks5 [.text dest, .int p.toNat, .timeouts s] = .ok r ∧
        r.request = .ok (Socks5Request.encode ⟨d, p⟩)
    | .error f => f.isBadValue = true ∧
        read .socks5 (.text (dest ++ ' ' :: port ++ ' ' :: limits)) = .error (.wrong .address dest) ∧
        ofSettings .socks5 [.text dest, .int p.toNat, .timeouts s] = .error f := by
  intro port place
  have hport : ' ' ∉ port := Text.not_mem_ofNat (by decide)
  have hplace : ' ' ∉ place := by
    rw [List.mem_append, List.mem_cons, not_or, not_or]
    exact ⟨Ipv4.not_mem_text (by decide) (by decide), by decide, hport⟩
  have hwritten := isPlace_written a p
  have hread : IsLimits limits s := isLimits_iff.mpr hs
  have hparts := Text.splitOn_triple hdest hport hlimits
  refine ⟨⟨_, rfl, ?_, ofSettings_socks4_written .., request_socks4 ..⟩,
    ⟨_, rfl, ?_, ofSettings_socks4User_written a p _ huser, request_socks4User ..⟩, ?_⟩
  · exact read_eq_ok_iff.mpr ⟨rfl, .socks4 (Text.splitOn_pair hplace hlimits) hwritten hread⟩
  · exact read_eq_ok_iff.mpr ⟨rfl, .socks4User (Text.splitOn_triple hplace hname hlimits) hwritten hread huser⟩
  · rw [ofSettings_socks5_written]
    cases hd : (Value.text dest).toDestination with
    | ok d =>
      refine ⟨_, rfl, ?_, rfl, request_socks5 ..⟩
      rw [Value.toDestination_text, Except.mapError_eq_ok_iff] at hd
      exact read_eq_ok_iff.mpr ⟨rfl, .socks5 hparts hd (Value.readInt?_port p) hread⟩
    | error f =>
      obtain ⟨hbad, hrefused⟩ := read5_refused hd port limits
      refine ⟨hbad, ?_, rfl⟩
      rw [read, readText, hparts]
      exact hrefused

/-- A user with a colon and brackets, and an address with a zone. -/
theorem read_written_zone :
    let name : Text := .lit "[\u00fc]:1"
    let zone : Text := .lit "[fe80::1%eth0]"
    let limits : Text := .lit "1:2:3"
    let s : Timeouts := ⟨⟨⟨0x3ff0000000000000⟩, by decide +kernel, by decide +kernel⟩,
      ⟨⟨0x4000000000000000⟩, by decide +kernel, by decide +kernel⟩,
      ⟨⟨0x4008000000000000⟩, by decide +kernel, by decide +kernel⟩⟩
    let d : Destination := .ipv6 ⟨[0xfe80, 0, 0, 0, 0, 0, 0, 1], some (.lit "eth0"), rfl, by decide⟩
    let r := socks4User ⟨255, 0, 10, 1⟩ 8080 (.bytes name.utf8) (.timeouts s)
    (' ' ∉ name ∧ '\x00' ∉ name ∧ ' ' ∉ zone ∧ ' ' ∉ limits ∧ Value.readTimeouts (.text limits) = .ok s) ∧
      read .socks4 (.text (.lit "255.0.10.1:8080 1:2:3")) = .ok (socks4 ⟨255, 0, 10, 1⟩ 8080 (.timeouts s)) ∧
      read .socks4User (.text (.lit "255.0.10.1:8080 [\u00fc]:1 1:2:3")) = .ok r ∧
      ofSettings .socks4User [.ipv4 ⟨255, 0, 10, 1⟩, .int 8080, .text name, .timeouts s] = .ok r ∧
      read .socks5 (.text (.lit "[fe80::1%eth0] 8080 1:2:3")) = .ok (socks5 d 8080 (.timeouts s)) := by
  intro name zone limits s d r
  have hlimits : IsLimits limits s :=
    ⟨.lit "1", .lit "2", .lit "3", by decide +kernel, by decide +kernel, by decide +kernel, by decide +kernel⟩
  have hs := isLimits_iff.mp hlimits
  have hname : ' ' ∉ name ∧ '\x00' ∉ name := by decide
  have hfree : ' ' ∉ zone ∧ ' ' ∉ limits := by decide
  have hd : (Value.text zone).toDestination = .ok d := by
    rw [Value.toDestination_text, show Destination.ofText zone = .ok d by decide +kernel]
    rfl
  obtain ⟨⟨_, rfl, h4, -⟩, ⟨_, rfl, hu, hgiven, -⟩, h5⟩ :=
    read_written ⟨255, 0, 10, 1⟩ 8080 name zone limits s hname.1 hname.2 hfree.1 hfree.2 hs
  rw [hd] at h5
  obtain ⟨_, rfl, h5, -⟩ := h5
  exact ⟨⟨hname.1, hname.2, hfree.1, hfree.2, hs⟩, h4, hu, hgiven, h5⟩

end Route

end SocksTunnel
