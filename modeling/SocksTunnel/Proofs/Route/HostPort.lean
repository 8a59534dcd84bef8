import SocksTunnel.Proofs.Failure.Chain
import SocksTunnel.Proofs.Text.Whole
import SocksTunnel.Setting.Port

/-
  SocksTunnel.Proofs.Route.HostPort — a host and a port in one text, on either side of its last
  colon. A host with colons of its own stands between brackets, and any host may.

  Proved: each text of this form is cut into the host that it names and the integer that its port
  is; with no such integer its port is refused, and every other text is refused as an address
  (`host_port_form`). A text without a host is among those, but not one with nothing between the
  brackets: whether the host is empty is asked before they are taken off (`empty_between_brackets`).
  Broken text is cut into a broken host and a port, or refused for one of them (`hostPort_broken`).
-/

namespace SocksTunnel.Value

variable {t host port : Text} {p : Port}

/-! ## The port -/

theorem readPort_text_eq_ok_iff : readPort (text t) = .ok p ↔ t.readInt? = some (p.toNat : Int) := by
  constructor
  · exact readPort_eq_ok
  · intro h
    have hp : portOfInt p.toNat = .ok p := port_toNat p
    simp only [readPort, readWhole, h, hp]

theorem readPort_cases (port : Text) : (∃ p, readPort (text port) = .ok p ∧ port.readInt? = some (p.toNat : Int)) ∨
    readPort (text port) = .error (.wrong .port port) ∧ ∀ p : Port, port.readInt? ≠ some (p.toNat : Int) := by
  cases h : readPort (text port) with
  | ok p => exact .inl ⟨p, rfl, readPort_text_eq_ok_iff.mp h⟩
  | error f =>
    refine .inr ⟨?_, fun p hp => ?_⟩
    · simp only [readPort, readWhole] at h
      split at h
      · rename_i hfault
        cases hfault
      · exact h.symm
      · split at h
        · cases h
        · exact h.symm
    · rw [readPort_text_eq_ok_iff.mpr hp] at h
      cases h

theorem readInt?_port (p : Port) : (Text.ofNat p.toNat).readInt? = some (p.toNat : Int) := by
  have hp := p.toNat_lt
  have hlength : (Text.ofNat p.toNat).length ≤ 5 := Text.length_ofNat_le (by decide) (by omega)
  exact Text.readInt?_ofNat (Nat.le_trans hlength (by decide))

/-! ## The host -/

def InBrackets (t : Text) : Prop := ∃ u, t = '[' :: u ++ [']']

/-- How a host is written in front of a port: as it is, where no colon and no brackets are in the way, or in brackets. -/
inductive WritesHost (host : Text) : Text → Prop
  | bare (hne : host ≠ []) (hcolon : ':' ∉ host) (hout : ¬ InBrackets host) : WritesHost host host
  | bracketed : WritesHost host ('[' :: host ++ [']'])

/-- A text of a host and what stands behind its last colon. -/
def HasForm (t host port : Text) : Prop := ∃ written, WritesHost host written ∧ ':' ∉ port ∧ t = written ++ ':' :: port

theorem exists_between {α : Type} {opening closing : α} (hne : opening ≠ closing) {l : List α}
    (hfirst : l.head? = some opening) (hlast : l.getLast? = some closing) : ∃ m, l = opening :: m ++ [closing] := by
  obtain ⟨m, rfl⟩ := List.getLast?_eq_some_iff.mp hlast
  cases m with
  | nil => exact absurd (Option.some.inj hfirst).symm hne
  | cons c m =>
    cases hfirst
    exact ⟨m, rfl⟩

theorem inBrackets_iff : InBrackets t ↔ t.head? = some '[' ∧ t.getLast? = some ']' := by
  constructor
  · rintro ⟨u, rfl⟩
    exact ⟨rfl, List.getLast?_concat⟩
  · rintro ⟨hfirst, hlast⟩
    exact exists_between (by decide) hfirst hlast

/-! ## The cut -/

/-- A text is cut into host and port at its last colon, or its address is refused. -/
theorem splitHostPort_cases (t : Text) : splitHostPort t = .error (.wrong .address t) ∨
    ∃ host port, host ≠ [] ∧ ':' ∉ port ∧ t = host ++ ':' :: port := by
  cases h : Text.cutLast ':' t with
  | none => exact .inl (by simp only [splitHostPort, splitAround, h, Failure.wrong, ConfigurationError.of])
  | some cut =>
    obtain ⟨host, port⟩ := cut
    cases host with
    | nil => exact .inl (by simp only [splitHostPort, splitAround, h, Failure.wrong, ConfigurationError.of])
    | cons c r => exact .inr ⟨c :: r, port, List.cons_ne_nil c r, Text.not_mem_of_cutLast h, Text.append_of_cutLast h⟩

theorem splitHostPort_append (hne : host ≠ []) (hp : ':' ∉ port) : splitHostPort (host ++ ':' :: port) =
      if host.head? = some '[' ∧ host.getLast? = some ']' then (readPort (text port)).map fun p => (host.tail.dropLast, p)
      else if ':' ∈ host then .error (.wrong .address (host ++ ':' :: port))
      else (readPort (text port)).map fun p => (host, p) := by
  cases host with
  | nil => exact absurd rfl hne
  | cons c r =>
    rw [splitHostPort, splitAround, Text.cutLast_append (c :: r) hp]
    rfl

theorem splitHostPort_of_form (h : HasForm t host port) :
    splitHostPort t = (readPort (text port)).map fun p => (host, p) := by
  obtain ⟨written, hw, hport, rfl⟩ := h
  cases hw with
  | bare hne hcolon hout => rw [splitHostPort_append hne hport, if_neg (mt inBrackets_iff.mpr hout), if_neg hcolon]
  | bracketed =>
    rw [splitHostPort_append (by simp) hport, if_pos (inBrackets_iff.mp ⟨host, rfl⟩)]
    show (readPort (text port)).map (fun p => ((host ++ [']']).dropLast, p)) = _
    rw [List.dropLast_concat]

theorem splitHostPort_of_no_form (h : ∀ host port, ¬ HasForm t host port) :
    splitHostPort t = .error (.wrong .address t) := by
  rcases splitHostPort_cases t with ht | ⟨written, port, hne, hport, rfl⟩
  · exact ht
  rw [splitHostPort_append hne hport]
  by_cases hin : InBrackets written
  · obtain ⟨host, rfl⟩ := hin
    exact absurd ⟨_, .bracketed, hport, rfl⟩ (h host port)
  by_cases hcolon : ':' ∈ written
  · rw [if_neg (mt inBrackets_iff.mpr hin), if_pos hcolon]
  · exact absurd ⟨_, .bare hne hcolon hin, hport, rfl⟩ (h written port)

theorem splitHostPort_eq_ok_iff : splitHostPort t = .ok (host, p) ↔
    ∃ port, HasForm t host port ∧ port.readInt? = some (p.toNat : Int) := by
  constructor
  · intro h
    by_cases hform : ∃ host port, HasForm t host port
    · obtain ⟨host', port, hform⟩ := hform
      rw [splitHostPort_of_form hform, Except.map_eq_ok_iff] at h
      obtain ⟨q, hq, heq⟩ := h
      obtain ⟨rfl, rfl⟩ := Prod.mk.inj heq
      exact ⟨port, hform, readPort_text_eq_ok_iff.mp hq⟩
    · rw [splitHostPort_of_no_form fun host port hf => hform ⟨host, port, hf⟩] at h
      cases h
  · rintro ⟨port, hform, hp⟩
    rw [splitHostPort_of_form hform, readPort_text_eq_ok_iff.mpr hp]
    rfl

theorem splitHostPort_eq_error_iff {f : Failure} : splitHostPort t = .error f ↔
    (f = .wrong .address t ∧ ∀ host port, ¬ HasForm t host port) ∨
      ∃ host port, f = .wrong .port port ∧ HasForm t host port ∧ ∀ p : Port, port.readInt? ≠ some (p.toNat : Int) := by
  constructor
  · intro h
    by_cases hform : ∃ host port, HasForm t host port
    · obtain ⟨host, port, hform⟩ := hform
      rw [splitHostPort_of_form hform] at h
      rcases readPort_cases port with ⟨p, hp, -⟩ | ⟨hp, hno⟩
      · rw [hp] at h
        cases h
      · rw [hp] at h
        exact .inr ⟨host, port, (Except.error.inj h).symm, hform, hno⟩
    · have hno : ∀ host port, ¬ HasForm t host port := fun host port hf => hform ⟨host, port, hf⟩
      rw [splitHostPort_of_no_form hno] at h
      exact .inl ⟨(Except.error.inj h).symm, hno⟩
  · rintro (⟨rfl, hno⟩ | ⟨host, port, rfl, hform, hno⟩)
    · exact splitHostPort_of_no_form hno
    · rcases readPort_cases port with ⟨p, -, hp⟩ | ⟨hp, -⟩
      · exact absurd hp (hno p)
      · rw [splitHostPort_of_form hform, hp]
        rfl

theorem hasForm_nil_iff : HasForm t [] port ↔ ':' ∉ port ∧ t = ['[', ']', ':'] ++ port := by
  constructor
  · rintro ⟨_, hw, hport, rfl⟩
    cases hw with
    | bare hne => exact absurd rfl hne
    | bracketed => exact ⟨hport, rfl⟩
  · rintro ⟨hport, rfl⟩
    exact ⟨_, .bracketed, hport, rfl⟩

/-- A text is cut into a host and a port exactly if it has them in this form, and a host in this form in front of any
port gives the two. A text of the form whose port is none is refused for what stands behind the last colon, and a text
of no such form for its address. The host is empty in one form alone. -/
theorem host_port_form (t : Text) :
    (∀ host p, splitHostPort t = .ok (host, p) ↔ ∃ port, HasForm t host port ∧ port.readInt? = some (p.toNat : Int)) ∧
    (∀ f, splitHostPort t = .error f ↔
      (f = .wrong .address t ∧ ∀ host port, ¬ HasForm t host port) ∨
        ∃ host port, f = .wrong .port port ∧ HasForm t host port ∧ ∀ p : Port, port.readInt? ≠ some (p.toNat : Int)) ∧
    (∀ host written, WritesHost host written →
      ∀ p : Port, splitHostPort (written ++ ':' :: Text.ofNat p.toNat) = .ok (host, p)) ∧
    ∀ p, splitHostPort t = .ok ([], p) ↔
      ∃ port, ':' ∉ port ∧ t = ['[', ']', ':'] ++ port ∧ port.readInt? = some (p.toNat : Int) := by
  refine ⟨fun host p => splitHostPort_eq_ok_iff, fun f => splitHostPort_eq_error_iff, fun host written hw p => ?_,
    fun p => ?_⟩
  · rw [splitHostPort_eq_ok_iff]
    exact ⟨Text.ofNat p.toNat, ⟨written, hw, Text.not_mem_ofNat (by decide), rfl⟩, readInt?_port p⟩
  · simp only [splitHostPort_eq_ok_iff, hasForm_nil_iff, and_assoc]

/-- An address between brackets, and a host that is brackets within brackets. -/
theorem host_port_form_bracketed :
    WritesHost (.lit "2001:db8::1") (.lit "[2001:db8::1]") ∧
      splitHostPort (.lit "[2001:db8::1]:1080") = .ok (.lit "2001:db8::1", 1080) ∧
      splitHostPort (.lit "[[]]:0") = .ok (.lit "[]", 0) := by
  have haddress : WritesHost (.lit "2001:db8::1") (.lit "[2001:db8::1]") := .bracketed
  have hbrackets : WritesHost (.lit "[]") (.lit "[[]]") := .bracketed
  exact ⟨haddress, (host_port_form []).2.2.1 _ _ haddress 1080, (host_port_form []).2.2.1 _ _ hbrackets 0⟩

/-- A text without a host is refused, but not with brackets around none: there the host is empty. -/
theorem empty_between_brackets :
    splitHostPort (.lit ":80") = .error (.wrong .address (.lit ":80")) ∧
      ∃ host p, splitHostPort (.lit "[]:80") = .ok (host, p) ∧ ¬ host ≠ [] := by
  refine ⟨rfl, [], 80, ?_, not_not.mpr rfl⟩
  exact splitHostPort_eq_ok_iff.mpr ⟨.lit "80", hasForm_nil_iff.mpr ⟨by decide, rfl⟩, by decide +kernel⟩

/-! ## Broken text -/

/-- Only text is a port. -/
theorem readPort_signs (ss : List Sign) : (∃ t : Text, ∃ p, ss = t.signs ∧ readPort (ofSigns ss) = .ok p) ∨
    ∃ v, readPort (ofSigns ss) = .error (.configuration ⟨.port, v⟩) := by
  rcases Sign.text_or_broken ss with ⟨t, rfl⟩ | ⟨b, rfl⟩
  · rw [ofSigns_signs]
    rcases readPort_cases t with ⟨p, hp, -⟩ | ⟨hp, -⟩
    · exact .inl ⟨t, p, rfl, hp⟩
    · exact .inr ⟨_, hp⟩
  · rw [ofSigns_broken]
    exact .inr ⟨_, rfl⟩

/-- A host keeps its surrogates, in brackets or not, and a port with one is refused. -/
theorem splitAround_broken (b : BrokenText) :
    (∃ h : BrokenText, ∃ p, splitAround (.char ':') (.char '[') (.char ']') ofSigns b.signs = .ok (h.signs, p)) ∨
      ∃ part v, splitAround (.char ':') (.char '[') (.char ']') ofSigns b.signs = .error (.configuration ⟨part, v⟩) := by
  cases hcut : Text.cutLast (.char ':') b.signs with
  | none => exact .inr ⟨.address, _, by rw [splitAround, hcut]⟩
  | some cut =>
    obtain ⟨_ | ⟨c, r⟩, port⟩ := cut
    · exact .inr ⟨.address, _, by rw [splitAround, hcut]⟩
    have hb : b.signs = c :: r ++ .char ':' :: port := Text.append_of_cutLast hcut
    rw [splitAround, hcut]
    dsimp only
    rcases readPort_signs port with ⟨t, p, rfl, hp⟩ | ⟨v, hp⟩
    · -- the port has no surrogate, so the host has one
      obtain ⟨s, hs⟩ := b.exists_surrogate
      have hhost : .surrogate s ∈ c :: r := by simpa [hb, Text.signs] using hs
      rw [hp]
      split
      · rename_i hin
        obtain ⟨m, hm⟩ := exists_between (by decide) hin.1 hin.2
        rw [hm] at hhost ⊢
        have hm' : .surrogate s ∈ m := by simpa using hhost
        exact .inl ⟨⟨m, Text.ofSigns?_eq_none_iff.mpr ⟨s, hm'⟩⟩, p, by simp [Except.map]⟩
      split
      · exact .inr ⟨.address, _, rfl⟩
      · exact .inl ⟨⟨c :: r, Text.ofSigns?_eq_none_iff.mpr ⟨s, hhost⟩⟩, p, rfl⟩
    · rw [hp]
      split
      · exact .inr ⟨.port, v, rfl⟩
      split
      · exact .inr ⟨.address, _, rfl⟩
      · exact .inr ⟨.port, v, rfl⟩

theorem hostPort_broken (b : BrokenText) : (∃ h : BrokenText, ∃ p, hostPort (broken b) = .ok (broken h, p)) ∨
    ∃ part v, hostPort (broken b) = .error (.configuration ⟨part, v⟩) := by
  rcases splitAround_broken b with ⟨h, p, hh⟩ | ⟨part, v, hf⟩
  · exact .inl ⟨h, p, by rw [hostPort, hh]; exact congrArg (fun v => Except.ok (v, p)) (ofSigns_broken h)⟩
  · exact .inr ⟨part, v, by rw [hostPort, hf]; rfl⟩

end SocksTunnel.Value
