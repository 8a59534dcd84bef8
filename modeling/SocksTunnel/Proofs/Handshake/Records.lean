import SocksTunnel.Proofs.Handshake.Entries

/-
  SocksTunnel.Proofs.Handshake.Records — the lines of the log against the calls to the stream. A
  write that succeeds and a read that is accepted leave a line each, and so does the end of the
  handshake if it is a tunnel or a refusal of the proxy.

  Proved: over any stream the lines of a handshake are those of its calls, in their order, and at
  most one more: of level DEBUG exactly if there is a tunnel, of level WARNING and with the code
  exactly if the proxy refused, and none after any other failure (`connect_records`).
-/

namespace SocksTunnel

namespace Entry

/-- The level of a line and what it says. -/
def line (e : Entry) : Level × Text := (e.level, e.message)

theorem decimal_natCast (n : Nat) : (Value.int n).decimal = Text.ofNat n := by
  have h : ¬ (n : Int) < 0 := by omega
  simp [Value.decimal, Text.ofInt, h]

/-- A wording that names an endpoint, and what it says behind. -/
theorem written_endpoint (words : String) (v : Value) (p : Port) (more : List Part) :
    (Part.words words :: endpoint ⟨v, ofPort p⟩ ++ more).flatMap Part.written =
      Text.lit words ++ v.plain ++ Text.lit ":" ++ Text.ofNat p.toNat ++ more.flatMap Part.written := by
  simp [endpoint, ofPort, Part.written, decimal_natCast]

theorem line_sent (n : Nat) : (sent n).line = (.debug, .lit "sent " ++ .ofNat n ++ .lit " bytes to proxy") := by
  simp [line, level, message, parts, Part.written, decimal_natCast]

theorem line_received (n : Nat) :
    (received n).line = (.debug, .lit "received " ++ .ofNat n ++ .lit " bytes from proxy") := by
  simp [line, level, message, parts, Part.written, decimal_natCast]

end Entry

namespace Call

/-- The line of a call: of a write that succeeded, or a read of as many octets as were asked for. -/
def line? : Call → Option (Level × Text)
  | write payload (.done _) => some (.debug, .lit "sent " ++ .ofNat payload.length ++ .lit " bytes to proxy")
  | read n (.done data) =>
    if (data.length : Int) = n then some (.debug, .lit "received " ++ .ofNat data.length ++ .lit " bytes from proxy")
    else none
  | _ => none

theorem line?_of_failure {t : Timeouts} {c : Call} {f : Failure} (h : c.failure t = some f) : c.line? = none := by
  unfold failure at h
  split at h
  · cases h
  · rfl
  · rfl
  · rename_i n data
    refine if_neg fun hn => ?_
    rw [if_neg (by omega), if_neg (by omega)] at h
    cases h
  · rfl
  · rfl

end Call

/-! ## Refusals -/

/-- Whether the proxy refused: the request, or every method that was offered. -/
def HandshakeError.isRejection : HandshakeError → Bool
  | rejected .. => true
  | noMethod .. => true
  | _ => false

/-- The line of an error, with the code that the proxy gave. -/
def HandshakeError.line? : HandshakeError → Option (Level × Text)
  | rejected version code _ =>
    some (.warning, .lit "SOCKS" ++ .ofNat version ++ .lit " request rejected with status " ++ .code code.toNat)
  | noMethod method _ => some (.warning, .lit "SOCKS5 server selected unsupported method " ++ .code method.toNat)
  | _ => none

namespace Failure

def isRejection : Failure → Bool
  | handshake e => e.isRejection
  | _ => false

def line? : Failure → Option (Level × Text)
  | handshake e => e.line?
  | _ => none

/-- Exactly the refusals have a line, and it is a warning. -/
theorem line?_cases (f : Failure) :
    (f.isRejection = true ∧ ∃ m, f.line? = some (.warning, m)) ∨ (f.isRejection = false ∧ f.line? = none) := by
  cases f with
  | handshake e =>
    cases e with
    | rejected version code reason => exact .inl ⟨rfl, _, rfl⟩
    | noMethod method reason => exact .inl ⟨rfl, _, rfl⟩
    | timeout | endOfStream | malformed | transport => exact .inr ⟨rfl, rfl⟩
  | fault | configuration | peer => exact .inr ⟨rfl, rfl⟩

theorem line?_ofPeer (p : Phase) (limit : Duration) (e : PeerError) : (ofPeer p limit e).line? = none := by
  unfold ofPeer
  split
  · rfl
  split <;> rfl

theorem line?_ofRead (limit : Duration) (n : Int) (e : PeerError) : (ofRead limit n e).line? = none := by
  unfold ofRead
  split
  · rfl
  · exact line?_ofPeer ..

end Failure

/-- A call that fails is no refusal. -/
theorem Call.line?_failure {t : Timeouts} {c : Call} {f : Failure} (h : c.failure t = some f) : f.line? = none := by
  unfold failure at h
  split at h
  · cases h
  · cases h
    rfl
  · cases h
    exact Failure.line?_ofPeer ..
  · split at h
    · cases h
      rfl
    split at h
    · cases h
      rfl
    · cases h
  · cases h
    rfl
  · cases h
    exact Failure.line?_ofRead ..

/-! ## How exchanges end -/

namespace Exchange

variable {E : Entry → Prop}

/-- An exchange that is done leaves such an entry, and one that fails the line of its error. -/
def Closes (E : Entry → Prop) : Exchange → Prop
  | done e => E e
  | fail e f => e.map Entry.line = f.line?
  | send _ next => next.Closes E
  | receive _ next => ∀ b, (next b).Closes E

/-- The entry that an exchange leaves at its end. -/
def closing : Exchange → List Entry
  | done e => [e]
  | fail e _ => e.toList
  | _ => []

theorem Comes.closes {x rest : Exchange} {calls : List Call} (h : x.Comes calls rest) (hx : x.Closes E) : rest.Closes E := by
  induction h with
  | start => exact hx
  | wrote _ ih => exact ih hx
  | got data _ ih => exact ih (hx data)

theorem closes_malformed (d : ReplyDefect) : (malformed d).Closes E := rfl

theorem closes_rejected (version : Nat) (code : UInt8) (reason : Text) {e : Entry}
    (h : e.line = (.warning, .lit "SOCKS" ++ .ofNat version ++ .lit " request rejected with status " ++ .code code.toNat)) :
    (fail (some e) (.rejected version code reason)).Closes E := congrArg some h

theorem closes_ofStatus4 {a : Ipv4} {p : Port} (hE : E (.established4 a p)) (status : UInt8) :
    (ofStatus4 a p status).Closes E := by
  unfold ofStatus4
  split
  · exact closes_malformed _
  split
  · exact hE
  · refine closes_rejected 4 status _ ?_
    have hwords : Text.lit "SOCKS4 request rejected with status " =
        .lit "SOCKS" ++ .ofNat 4 ++ .lit " request rejected with status " := by decide
    simp [Entry.line, Entry.level, Entry.message, Entry.parts, Entry.Part.written, hwords]

theorem closes_socks4 (request : Bytes) {a : Ipv4} {p : Port} (hE : E (.established4 a p)) :
    (socks4 request a p).Closes E := by
  intro raw
  unfold afterReply4
  split
  · exact closes_malformed _
  · exact closes_ofStatus4 hE _

variable {r : Socks5Request}

theorem closes_ofStatus5 (hE : ∀ bound q, E (.established5 r.destination r.port bound q)) (status : UInt8)
    (bound : Option Destination) (q : Port) : (ofStatus5 r status bound q).Closes E := by
  unfold ofStatus5
  split
  · exact closes_malformed _
  split
  · exact hE bound q
  · refine closes_rejected 5 status _ ?_
    have hwords : Text.lit "SOCKS5 request rejected with status " =
        .lit "SOCKS" ++ .ofNat 5 ++ .lit " request rejected with status " := by decide
    simp [Entry.line, Entry.level, Entry.message, Entry.parts, Entry.Part.written, hwords]

theorem closes_afterAddress (hE : ∀ bound q, E (.established5 r.destination r.port bound q)) (status : UInt8)
    (t : AddressType) (payload : Bytes) : (afterAddress r status t payload).Closes E := by
  unfold afterAddress
  split
  · exact closes_malformed _
  intro raw
  dsimp only
  split
  · exact closes_malformed _
  · exact closes_ofStatus5 hE ..

theorem closes_readAddress (hE : ∀ bound q, E (.established5 r.destination r.port bound q)) (status : UInt8)
    (t : AddressType) : (readAddress r status t).Closes E := by
  cases t with
  | ipv4 => exact fun b => closes_afterAddress hE ..
  | ipv6 => exact fun b => closes_afterAddress hE ..
  | domain =>
    intro raw
    unfold readName
    dsimp only
    split
    · exact closes_afterAddress hE ..
    · exact fun name => closes_afterAddress hE ..

theorem closes_socks5 (hE : ∀ bound q, E (.established5 r.destination r.port bound q)) : (socks5 r).Closes E := by
  intro raw
  unfold afterMethod
  split
  · exact closes_malformed _
  split
  · intro header
    unfold afterHeader
    split
    · exact closes_malformed _
    · exact closes_readAddress hE ..
  · simp [Closes, Entry.line, Entry.level, Entry.message, Entry.parts, Entry.Part.written, HandshakeError.line?]

end Exchange

/-- What the line of a tunnel along a route begins with. -/
def Route.tunnelText : Route → Text
  | socks4 a p _ => .lit "SOCKS4 tunnel established to " ++ a.text ++ .lit ":" ++ .ofNat p.toNat
  | socks4User a p _ _ => .lit "SOCKS4 tunnel established to " ++ a.text ++ .lit ":" ++ .ofNat p.toNat
  | socks5 d p _ => .lit "SOCKS5 tunnel established to " ++ d.text ++ .lit ":" ++ .ofNat p.toNat

theorem Route.closes_exchange {r : Route} {x : Exchange} (hx : r.exchange = .ok x) :
    x.Closes fun e => ∃ more, e.line = (.debug, r.tunnelText ++ more) := by
  have h4 : ∀ (a : Ipv4) (p : Port), ∃ more, (Entry.established4 a p).line =
      (.debug, .lit "SOCKS4 tunnel established to " ++ a.text ++ .lit ":" ++ .ofNat p.toNat ++ more) := by
    intro a p
    exact ⟨[], congrArg (Prod.mk Level.debug) (Entry.written_endpoint _ (.ipv4 a) p [])⟩
  cases r with
  | socks4 a p t =>
    rw [exchange_socks4] at hx
    obtain ⟨request, -, rfl⟩ := Except.map_eq_ok_iff.mp hx
    exact Exchange.closes_socks4 request (h4 a p)
  | socks4User a p u t =>
    rw [exchange_socks4User] at hx
    obtain ⟨request, -, rfl⟩ := Except.map_eq_ok_iff.mp hx
    exact Exchange.closes_socks4 request (h4 a p)
  | socks5 d p t =>
    cases hx
    refine Exchange.closes_socks5 fun bound q => ?_
    exact ⟨_, congrArg (Prod.mk Level.debug) (Entry.written_endpoint _ (.destination d) p _)⟩

/-! ## Runs -/

namespace Session

variable {σ : Type} [Transport σ]

/-- A write leaves a line and a call, or no line and at most one call, with which the exchange ends. -/
theorem send_records (t : Timeouts) (payload : Bytes) (s : Session (Observed σ)) :
    (∃ s', s.send t.write payload = (.ok (), s') ∧ s'.stream.calls = s.stream.calls ++ [.wrote payload] ∧
      s'.entries = s.entries ++ [.sent payload.length]) ∨
    ∃ f s' tail, s.send t.write payload = (.error f, s') ∧ s'.stream.calls = s.stream.calls ++ tail ∧
      s'.entries = s.entries ∧ ∀ next, (Exchange.send payload next).Ends t tail (.error f) := by
  cases hs : s.send t.write payload with
  | mk o s' =>
    have h := send_observed t payload s
    have hok : ∀ u, o = .ok u → s'.entries = s.entries ++ [.sent payload.length] := by
      intro u ho
      subst ho
      simpa [hs] using (send_ok (congrArg Prod.fst hs)).2
    have herror : ∀ f, o = .error f → s'.entries = s.entries := by
      intro f ho
      subst ho
      simpa [hs] using congrArg Session.entries (send_error (congrArg Prod.fst hs))
    rw [hs] at h
    rcases h with ⟨hz, rfl, hc⟩ | ⟨ending, hc, ⟨rfl, rfl⟩ | ⟨f, rfl, hf⟩⟩
    · refine .inr ⟨_, s', [], rfl, by simpa using hc, herror _ rfl, fun next => ?_⟩
      exact .unstarted (p := .write) rfl hz
    · exact .inl ⟨s', rfl, hc, hok _ rfl⟩
    · exact .inr ⟨f, s', _, rfl, hc, herror _ rfl, fun next => .failed rfl hf⟩

/-- The same of a read. -/
theorem receive_records (t : Timeouts) (n : Nat) (s : Session (Observed σ)) :
    (∃ data s', s.receive t.read n = (.ok data, s') ∧ data.length = n ∧ s'.stream.calls = s.stream.calls ++ [.got data] ∧
      s'.entries = s.entries ++ [.received data.length]) ∨
    ∃ f s' tail, s.receive t.read n = (.error f, s') ∧ s'.stream.calls = s.stream.calls ++ tail ∧
      s'.entries = s.entries ∧ ∀ next, (Exchange.receive n next).Ends t tail (.error f) := by
  cases hs : s.receive t.read n with
  | mk o s' =>
    have h := receive_observed t n s
    have hok : ∀ data, o = .ok data → s'.entries = s.entries ++ [.received data.length] := by
      intro data ho
      subst ho
      simpa [hs] using (receive_ok (congrArg Prod.fst hs)).2
    have herror : ∀ f, o = .error f → s'.entries = s.entries := by
      intro f ho
      subst ho
      simpa [hs] using congrArg Session.entries (receive_error (congrArg Prod.fst hs))
    rw [hs] at h
    rcases h with ⟨hz, rfl, hc⟩ | ⟨ending, hc, ⟨data, rfl, rfl, rfl⟩ | ⟨f, rfl, hf⟩⟩
    · refine .inr ⟨_, s', [], rfl, by simpa using hc, herror _ rfl, fun next => ?_⟩
      exact .unstarted (p := .read) rfl hz
    · exact .inl ⟨data, s', rfl, rfl, hc, hok data rfl⟩
    · exact .inr ⟨f, s', _, rfl, hc, herror _ rfl, fun next => .failed rfl hf⟩

/-- A run comes to an end of its exchange, and its lines are those of the calls until then and of that end. -/
theorem run_records (t : Timeouts) (x : Exchange) (s : Session (Observed σ)) :
    ∃ done rest tail, (run t x s).2.stream.calls = s.stream.calls ++ done ++ tail ∧ x.Comes done rest ∧
      rest.Ends t tail (run t x s).1 ∧
      (run t x s).2.entries.map Entry.line =
        s.entries.map Entry.line ++ done.filterMap Call.line? ++ rest.closing.map Entry.line := by
  induction x generalizing s with
  | done e => exact ⟨[], _, [], by simp [run, note], .start, .done, by simp [run, note, Exchange.closing]⟩
  | fail e f =>
    cases e with
    | none => exact ⟨[], _, [], by simp [run], .start, .fail, by simp [run, Exchange.closing]⟩
    | some e => exact ⟨[], _, [], by simp [run, note], .start, .fail, by simp [run, note, Exchange.closing]⟩
  | send payload next ih =>
    rcases send_records t payload s with ⟨s', hs, hc, he⟩ | ⟨f, s', tail, hs, hc, he, hend⟩
    · simp only [run, hs]
      obtain ⟨done, rest, tail, hcalls, hcomes, hends, hlines⟩ := ih s'
      refine ⟨_, rest, tail, ?_, .wrote hcomes, hends, ?_⟩
      · simp [hcalls, hc]
      · simp [hlines, he, Entry.line_sent, Call.line?, Call.wrote]
    · simp only [run, hs]
      exact ⟨[], _, tail, by simp [hc], .start, hend next, by simp [he, Exchange.closing]⟩
  | receive n next ih =>
    rcases receive_records t n s with ⟨data, s', hs, rfl, hc, he⟩ | ⟨f, s', tail, hs, hc, he, hend⟩
    · simp only [run, hs]
      obtain ⟨done, rest, tail, hcalls, hcomes, hends, hlines⟩ := ih data s'
      refine ⟨_, rest, tail, ?_, .got data hcomes, hends, ?_⟩
      · simp [hcalls, hc]
      · simp [hlines, he, Entry.line_received, Call.line?, Call.got]
    · simp only [run, hs]
      exact ⟨[], _, tail, by simp [hc], .start, hend next, by simp [he, Exchange.closing]⟩

end Session

/-- The last line of a handshake with this result: that of the tunnel, or of the refusal if it is one. -/
def Route.IsLast (r : Route) (last : List (Level × Text)) : Except Failure Unit → Prop
  | .ok _ => ∃ more, last = [(.debug, r.tunnelText ++ more)]
  | .error f => last = f.line?.toList

/-- What an exchange leaves where it ends is the last line for its result, and a call that fails leaves none. -/
theorem Route.isLast_of_ends {r : Route} {t : Timeouts} {x rest : Exchange} {done tail : List Call}
    {result : Except Failure Unit} (hx : r.exchange = .ok x) (hcomes : x.Comes done rest) (h : rest.Ends t tail result) :
    tail.filterMap Call.line? = [] ∧ r.IsLast (rest.closing.map Entry.line) result := by
  have hcloses := hcomes.closes (closes_exchange hx)
  cases h with
  | done =>
    obtain ⟨more, hline⟩ := hcloses
    exact ⟨rfl, more, congrArg (· :: []) hline⟩
  | @fail e f =>
    refine ⟨rfl, ?_⟩
    rw [IsLast, Failure.line?, ← show e.map Entry.line = f.line? from hcloses]
    cases e <;> rfl
  | unstarted hphase =>
    refine ⟨rfl, ?_⟩
    cases rest with
    | done | fail => cases hphase
    | send | receive => rfl
  | failed hphase hf =>
    refine ⟨by simp [Call.line?_of_failure hf], ?_⟩
    rw [IsLast, Call.line?_failure hf]
    cases rest with
    | done | fail => cases hphase
    | send | receive => rfl

theorem Route.debug_iff {r : Route} {last : List (Level × Text)} {result : Except Failure Unit} (h : r.IsLast last result) :
    (∃ l ∈ last, l.1 = .debug) ↔ ∃ u, result = .ok u := by
  cases result with
  | ok u =>
    obtain ⟨more, rfl⟩ := h
    exact ⟨fun _ => ⟨u, rfl⟩, fun _ => ⟨_, List.mem_singleton_self _, rfl⟩⟩
  | error f =>
    have hlast : last = f.line?.toList := h
    refine ⟨fun ⟨l, hl, hd⟩ => ?_, nofun⟩
    rcases f.line?_cases with ⟨-, m, hm⟩ | ⟨-, hm⟩
    · rw [hlast, hm] at hl
      cases List.mem_singleton.mp hl
      cases hd
    · rw [hlast, hm] at hl
      cases hl

theorem Route.warning_iff {r : Route} {last : List (Level × Text)} {result : Except Failure Unit} (h : r.IsLast last result) :
    (∃ l ∈ last, l.1 = .warning) ↔ ∃ f, result = .error f ∧ f.isRejection = true := by
  cases result with
  | ok u =>
    obtain ⟨more, rfl⟩ := h
    refine ⟨fun ⟨l, hl, hw⟩ => ?_, nofun⟩
    cases List.mem_singleton.mp hl
    cases hw
  | error f =>
    have hlast : last = f.line?.toList := h
    constructor
    · rintro ⟨l, hl, -⟩
      rcases f.line?_cases with ⟨hf, -⟩ | ⟨-, hm⟩
      · exact ⟨f, rfl, hf⟩
      · rw [hlast, hm] at hl
        cases hl
    · rintro ⟨g, hg, hf⟩
      cases hg
      rcases f.line?_cases with ⟨-, m, hm⟩ | ⟨hno, -⟩
      · exact ⟨_, by rw [hlast, hm]; exact List.mem_singleton_self _, rfl⟩
      · rw [hf] at hno
        cases hno

theorem Route.connect_lines {σ : Type} [Transport σ] (r : Route) (stream : σ) :
    let seen := r.connect (Session.start (Observed.start stream))
    ∃ last, seen.2.entries.map Entry.line = seen.2.stream.calls.filterMap Call.line? ++ last ∧ r.IsLast last seen.1 := by
  intro seen
  -- a route that is refused leaves no line and makes no call
  have hrefused : ∀ f, seen = (.error (.fault f), Session.start (Observed.start stream)) → ∃ last,
      seen.2.entries.map Entry.line = seen.2.stream.calls.filterMap Call.line? ++ last ∧ r.IsLast last seen.1 := by
    intro f hseen
    rw [hseen]
    exact ⟨[], rfl, rfl⟩
  cases hx : r.exchange with
  | error f => exact hrefused f (by simp only [seen, connect, hx])
  | ok x =>
    cases ht : r.timeouts with
    | error f => exact hrefused f (by simp only [seen, connect, hx, ht])
    | ok t =>
      have hseen : seen = Session.run t x (Session.start (Observed.start stream)) := by
        simp only [seen, connect, hx, ht]
      obtain ⟨done, rest, tail, hcalls, hcomes, hends, hlines⟩ :=
        Session.run_records t x (Session.start (Observed.start stream))
      obtain ⟨htail, hlast⟩ := isLast_of_ends hx hcomes hends
      rw [← hseen] at hcalls hlines hlast
      refine ⟨_, ?_, hlast⟩
      rw [hlines, hcalls, List.filterMap_append, htail]
      simp [Session.start, Observed.start]

/-- The lines of a handshake are those of its calls, in their order, and at most one more: one of level DEBUG that tells
the tunnel exactly if there is one, one of level WARNING with the code exactly if the proxy refused. -/
theorem connect_records {σ : Type} [Transport σ] (r : Route) (stream : σ) :
    let out := r.connect (Session.start stream)
    let seen := r.connect (Session.start (Observed.start stream))
    (seen.1 = out.1 ∧ seen.2.stream.stream = out.2.stream) ∧
    ∃ last, out.2.entries.map Entry.line = seen.2.stream.calls.filterMap Call.line? ++ last ∧
      (∀ u, out.1 = .ok u → ∃ more, last = [(.debug, r.tunnelText ++ more)]) ∧
      (∀ f, out.1 = .error f → last = f.line?.toList) ∧
      ((∃ l ∈ last, l.1 = .debug) ↔ ∃ u, out.1 = .ok u) ∧
      ((∃ l ∈ last, l.1 = .warning) ↔ ∃ f, out.1 = .error f ∧ f.isRejection = true) := by
  intro out seen
  -- the calls are seen on a stream that keeps them, over which the handshake is the same
  have hsame := r.connect_agrees Observed.bisimulates
    (s := Session.start (Observed.start stream)) (u := Session.start stream) ⟨rfl, rfl, rfl, rfl⟩
  obtain ⟨last, hlines, hlast⟩ := r.connect_lines stream
  have hresult : seen.1 = out.1 := hsame.fst
  have hentries : seen.2.entries = out.2.entries := hsame.snd.entries
  refine ⟨⟨hresult, hsame.snd.stream⟩, last, hentries ▸ hlines, ?_⟩
  have hlast' : r.IsLast last out.1 := hresult ▸ hlast
  refine ⟨fun u hu => ?_, fun f hf => ?_, Route.debug_iff hlast', Route.warning_iff hlast'⟩
  · rw [hu] at hlast'
    exact hlast'
  · rw [hf] at hlast'
    exact hlast'

/-- A SOCKS5 proxy that refuses every method, and a SOCKS4 proxy that grants the tunnel. -/
theorem connect_records_refused :
    let limits : Value := .timeouts (.uniform .ten)
    let refusing : Script.Stream := ⟨⟨0, none⟩, [], [[5, 255]], [], [], []⟩
    let granting : Script.Stream := ⟨⟨0, none⟩, [], [[0, 90, 0, 0, 0, 0, 0, 0]], [], [], []⟩
    let r5 := Route.socks5 (.ipv4 .zero) 80 limits
    let r4 := Route.socks4 ⟨1, 2, 3, 4⟩ 80 limits
    ((∃ f, (r5.connect (Session.start refusing)).1 = .error f ∧ f.isRejection = true) ∧
      (r5.connect (Session.start refusing)).2.entries.map Entry.line =
        [(.debug, .lit "sent 3 bytes to proxy"), (.debug, .lit "received 2 bytes from proxy")] ++
          [(.warning, .lit "SOCKS5 server selected unsupported method 0xff")]) ∧
    (∃ u, (r4.connect (Session.start granting)).1 = .ok u) ∧
      (r4.connect (Session.start granting)).2.entries.map Entry.line =
        [(.debug, .lit "sent 9 bytes to proxy"), (.debug, .lit "received 8 bytes from proxy")] ++
          [(.debug, .lit "SOCKS4 tunnel established to 1.2.3.4:80")] := by
  intro limits refusing granting r5 r4
  obtain ⟨-, last, hlines, -, -, -, hwarning⟩ := connect_records r5 refusing
  obtain ⟨-, last', hlines', -, -, hdebug, -⟩ := connect_records r4 granting
  have hcalls : (r5.connect (Session.start (Observed.start refusing))).2.stream.calls.filterMap Call.line? =
      [(.debug, .lit "sent 3 bytes to proxy"), (.debug, .lit "received 2 bytes from proxy")] := by decide +kernel
  have hcalls' : (r4.connect (Session.start (Observed.start granting))).2.stream.calls.filterMap Call.line? =
      [(.debug, .lit "sent 9 bytes to proxy"), (.debug, .lit "received 8 bytes from proxy")] := by decide +kernel
  have hall : (r5.connect (Session.start refusing)).2.entries.map Entry.line =
      [(.debug, .lit "sent 3 bytes to proxy"), (.debug, .lit "received 2 bytes from proxy")] ++
        [(.warning, .lit "SOCKS5 server selected unsupported method 0xff")] := by decide +kernel
  have hall' : (r4.connect (Session.start granting)).2.entries.map Entry.line =
      [(.debug, .lit "sent 9 bytes to proxy"), (.debug, .lit "received 8 bytes from proxy")] ++
        [(.debug, .lit "SOCKS4 tunnel established to 1.2.3.4:80")] := by decide +kernel
  rw [hcalls, hall] at hlines
  rw [hcalls', hall'] at hlines'
  obtain rfl := List.append_cancel_left hlines
  obtain rfl := List.append_cancel_left hlines'
  have hrefused := hwarning.mp ⟨_, List.mem_singleton_self _, rfl⟩
  have hgranted := hdebug.mp ⟨_, List.mem_singleton_self _, rfl⟩
  exact ⟨⟨hrefused, hall⟩, hgranted, hall'⟩

end SocksTunnel
