import SocksTunnel.Proofs.Handshake.Calls
import SocksTunnel.Script.Stream

/-
  SocksTunnel.Proofs.Handshake.Order — the order of the operations of a handshake, whatever
  the peer does. A trace is what a handshake does if it comes to its end: in SOCKS4 the
  request and the eight octets of the reply; in SOCKS5 the greeting, the choice of no
  authentication, the request, and the reply in the parts that its address type and the
  length of a name ask for.

  Proved: the calls of a stage are the start of a trace of that stage, up to how the last of
  them ends (`Exchange.Within`). A handshake along any route, over any scripted stream, leaves
  events that start one trace; every call comes after nothing but successes, the SOCKS5
  request after no other reply than the choice of no authentication, and success only after
  the whole trace (`connect_in_order`).
-/

namespace SocksTunnel

open Script

/-! ## Events -/

namespace Script

/-- An event without its time. -/
inductive Mark where
  | write (payload : Bytes)
  | written
  | read (n : Int)
  deriving DecidableEq, Repr

def Event.mark : Event → Mark
  | .write payload => .write payload
  | .written _ => .written
  | .read n => .read n

def Stream.marks (s : Stream) : List Mark := s.events.map Event.mark

end Script

/-- What a call leaves among the events of a stream. -/
def Call.marks : Call → List Mark
  | write payload (.done _) => [.write payload, .written]
  | write payload _ => [.write payload]
  | read n _ => [.read n]

namespace Script.Stream

theorem events_arrive (s : Stream) : (arrive s).events = s.events := by
  unfold arrive
  split <;> rfl

theorem events_take (n : Int) (s : Stream) : (s.take n).2.events = s.events := by
  unfold take
  split <;> rfl

theorem marks_write (limit : Time) (payload : Bytes) (s : Stream) :
    (write limit payload s).2.marks = s.marks ++ (Call.write payload (write limit payload s).1).marks := by
  unfold write
  dsimp only
  split
  · simp [marks, see, events_arrive, Call.marks, Event.mark]
  · rename_i o c hne _
    cases o with
    | done u => exact (hne u rfl).elim
    | expired => simp [marks, see, Call.marks, Event.mark]
    | failed e => simp [marks, see, Call.marks, Event.mark]

theorem marks_read (limit : Time) (n : Int) (s : Stream) :
    (read limit n s).2.marks = s.marks ++ (Call.read n (read limit n s).1).marks := by
  have h : (read limit n s).2.events = s.events ++ [.read n] := by
    unfold read
    dsimp only
    split
    · split
      · rfl
      · split
        · rename_i hs
          rw [← congrArg (fun p => p.2.events) hs, events_take]
          rfl
        · rename_i hs
          rw [← congrArg (fun p => p.2.events) hs, events_take]
          rfl
    · rfl
    · rfl
  simp [marks, h, Call.marks, Event.mark]

/-- The stream that was observed, with the events of the calls behind those that were there before. -/
structure Recorded (before : List Mark) (o : Observed Stream) (s : Stream) : Prop where
  stream : o.stream = s
  marks : s.marks = before ++ o.calls.flatMap Call.marks

theorem recorded_bisimulates (before : List Mark) : Bisimulates (Recorded before) where
  write := by
    rintro limit payload o _ ⟨rfl, hm⟩
    refine ⟨_, _, _, rfl, rfl, rfl, ?_⟩
    show (write limit payload o.stream).2.marks =
      before ++ (o.calls ++ [Call.write payload (write limit payload o.stream).1]).flatMap Call.marks
    rw [marks_write, hm, List.flatMap_append, List.append_assoc, List.flatMap_singleton]
  read := by
    rintro limit n o _ ⟨rfl, hm⟩
    refine ⟨_, _, _, rfl, rfl, rfl, ?_⟩
    show (read limit n o.stream).2.marks =
      before ++ (o.calls ++ [Call.read n (read limit n o.stream).1]).flatMap Call.marks
    rw [marks_read, hm, List.flatMap_append, List.append_assoc, List.flatMap_singleton]

end Script.Stream

/-! ## Traces -/

/-- The reads of an address behind the code of its type: four octets, sixteen, or the length of a name and
the name, which is not read if it is empty. -/
inductive AddressCalls : UInt8 → List Call → Prop
  | ipv4 {a : Bytes} : a.length = 4 → AddressCalls 1 [.got a]
  | ipv6 {a : Bytes} : a.length = 16 → AddressCalls 4 [.got a]
  | empty : AddressCalls 3 [.got [0]]
  | name {n : UInt8} {a : Bytes} : n ≠ 0 → a.length = n.toNat → AddressCalls 3 [.got [n], .got a]

/-- The reads of a SOCKS5 reply: header, address and port. -/
inductive ReplyCalls : List Call → Prop
  | mk (status reserved : UInt8) {type : UInt8} {address : List Call} {port : Bytes} : AddressCalls type address →
      port.length = 2 → ReplyCalls (.got [5, status, reserved, type] :: (address ++ [.got port]))

/-- The calls of a whole handshake, every one of which succeeds, from the methods that are offered, if any,
and the request. -/
inductive Trace : Option Bytes → Bytes → List Call → Prop
  | socks4 {request reply : Bytes} : reply.length = 8 → Trace none request [.wrote request, .got reply]
  | socks5 {greeting request : Bytes} {reply : List Call} : ReplyCalls reply →
      Trace (some greeting) request (.wrote greeting :: .got [5, 0] :: .wrote request :: reply)

/-- A call that succeeded. -/
inductive Call.Succeeds : Call → Prop
  | wrote (payload : Bytes) : Succeeds (.wrote payload)
  | got (data : Bytes) : Succeeds (.got data)

/-- A call that asks for the same as one that succeeded. -/
inductive Call.Attempts : Call → Call → Prop
  | write (payload : Bytes) (ending : Outcome Unit) : Attempts (.write payload ending) (.wrote payload)
  | read (data : Bytes) (ending : Outcome Bytes) : Attempts (.read data.length ending) (.got data)

theorem Call.Succeeds.attempts {c : Call} (h : c.Succeeds) : c.Attempts c := by
  cases h with
  | wrote payload => exact .write payload _
  | got data => exact .read data _

theorem Call.Attempts.marks {c d : Call} (h : c.Attempts d) : c.marks <+: d.marks := by
  cases h with
  | write payload ending =>
    cases ending with
    | done u => exact List.prefix_rfl
    | expired => exact ⟨[.written], rfl⟩
    | failed e => exact ⟨[.written], rfl⟩
  | read data ending => exact List.prefix_rfl

/-- Calls that start a trace: they succeed, except that the last of them may end otherwise. -/
inductive Starts : List Call → List Call → Prop
  | nil {trace} : Starts [] trace
  | last {c d trace} : c.Attempts d → Starts [c] (d :: trace)
  | cons {c calls trace} : c.Succeeds → Starts calls trace → Starts (c :: calls) (c :: trace)

namespace Starts

variable {calls trace : List Call}

theorem marks (h : Starts calls trace) : calls.flatMap Call.marks <+: trace.flatMap Call.marks := by
  induction h with
  | nil => exact List.nil_prefix
  | last h =>
    rw [List.flatMap_singleton, List.flatMap_cons]
    exact h.marks.trans (List.prefix_append _ _)
  | cons _ _ ih =>
    rw [List.flatMap_cons, List.flatMap_cons]
    exact (List.prefix_append_right_inj _).mpr ih

/-- Where a call stands, the trace has one that asks for the same, and before it the same calls. -/
theorem split {before after : List Call} {c : Call} (h : Starts (before ++ c :: after) trace) :
    (∀ b ∈ before, b.Succeeds) ∧ ∃ d rest, trace = before ++ d :: rest ∧ c.Attempts d := by
  induction before generalizing trace with
  | nil =>
    refine ⟨fun b hb => absurd hb List.not_mem_nil, ?_⟩
    cases h with
    | last h => exact ⟨_, _, rfl, h⟩
    | cons hc _ => exact ⟨_, _, rfl, hc.attempts⟩
  | cons b before ih =>
    generalize ht : before ++ c :: after = tail at ih h
    rw [List.cons_append, ht] at h
    cases h with
    | last _ => exact absurd ht (by simp)
    | cons hb h =>
      obtain ⟨hs, d, rest, rfl, hd⟩ := ih h
      exact ⟨List.forall_mem_cons.mpr ⟨hb, hs⟩, d, rest, rfl, hd⟩

end Starts

/-! ## Exchanges and their traces -/

namespace Exchange

/-- Whatever happens, the exchange fails before its first call or starts a trace of this kind, and succeeds only
after the whole of it. -/
def Within (x : Exchange) (L : List Call → Prop) : Prop :=
  ∀ t calls out, x.Goes t calls out →
    calls = [] ∧ out ≠ .ok () ∨ ∃ trace, L trace ∧ Starts calls trace ∧ (out = .ok () → calls = trace)

variable {L M : List Call → Prop}

theorem Within.mono {x : Exchange} (h : x.Within L) (hm : ∀ trace, L trace → M trace) : x.Within M := by
  intro t calls out hg
  rcases h t calls out hg with he | ⟨trace, hl, hs⟩
  · exact .inl he
  · exact .inr ⟨trace, hm trace hl, hs⟩

theorem within_done {e : Entry} (h : L []) : (done e).Within L := by
  intro t calls out hg
  cases hg
  exact .inr ⟨[], h, .nil, fun _ => rfl⟩

theorem within_fail (e : Option Entry) (f : HandshakeError) : (fail e f).Within L := by
  intro t calls out hg
  cases hg
  exact .inl ⟨rfl, by simp⟩

/-- A call that succeeds and what follows, which fails at once or starts what is left of a trace. -/
theorem within_next {x : Exchange} {c : Call} (hc : c.Succeeds) (hl : ∃ d trace, c.Attempts d ∧ L (d :: trace))
    (h : x.Within fun trace => L (c :: trace)) {t : Timeouts} {calls : List Call} {out : Except Failure Unit}
    (hg : x.Goes t calls out) :
    ∃ trace, L trace ∧ Starts (c :: calls) trace ∧ (out = .ok () → c :: calls = trace) := by
  rcases h t calls out hg with ⟨rfl, hne⟩ | ⟨trace, ht, hs, hok⟩
  · obtain ⟨d, trace, hd, ht⟩ := hl
    exact ⟨d :: trace, ht, .last hd, fun hok => absurd hok hne⟩
  · exact ⟨c :: trace, ht, .cons hc hs, fun h => by rw [hok h]⟩

theorem within_send {payload : Bytes} {next : Exchange} (hl : ∃ trace, L (.wrote payload :: trace))
    (h : next.Within fun trace => L (.wrote payload :: trace)) : (send payload next).Within L := by
  obtain ⟨trace, ht⟩ := hl
  intro t calls out hg
  cases hg with
  | unstartedWrite _ => exact .inl ⟨rfl, by simp⟩
  | wrote hg => exact .inr (within_next (.wrote payload) ⟨_, trace, .write payload _, ht⟩ h hg)
  | @failedWrite _ _ ending _ _ => exact .inr ⟨_, ht, .last (.write payload ending), by simp⟩

/-- Some reply of the length that is read goes on in a trace, and so does every one unless it is refused. -/
theorem within_receive {n : Nat} {next : Bytes → Exchange} (hl : ∃ data trace, data.length = n ∧ L (.got data :: trace))
    (h : ∀ data, data.length = n → (next data).Within fun trace => L (.got data :: trace)) :
    (receive n next).Within L := by
  obtain ⟨some, trace, hn, ht⟩ := hl
  intro t calls out hg
  cases hg with
  | unstartedRead _ => exact .inl ⟨rfl, by simp⟩
  | got data hg =>
    have ha : (Call.got data).Attempts (.got some) := by
      rw [Call.got, ← hn]
      exact .read some _
    exact .inr (within_next (.got data) ⟨_, trace, ha, ht⟩ (h data rfl) hg)
  | @failedRead _ _ _ ending _ =>
    subst hn
    exact .inr ⟨_, ht, .last (.read some ending), by simp⟩

theorem within_ofStatus4 (a : Ipv4) (p : Port) (status : UInt8) : (ofStatus4 a p status).Within (· = []) := by
  unfold ofStatus4
  split
  · exact within_fail _ _
  · split
    · exact within_done rfl
    · exact within_fail _ _

theorem within_afterReply4 (a : Ipv4) (p : Port) (raw : Bytes) : (afterReply4 a p raw).Within (· = []) := by
  unfold afterReply4
  split
  · exact within_fail _ _
  · exact within_ofStatus4 a p _

theorem within_socks4 (request : Bytes) (a : Ipv4) (p : Port) : (socks4 request a p).Within (Trace none request) := by
  have hl : Trace none request [.wrote request, .got [0, 90, 0, 0, 0, 0, 0, 0]] := .socks4 rfl
  refine within_send ⟨_, hl⟩ (within_receive ⟨_, _, rfl, hl⟩ fun data hd => ?_)
  refine (within_afterReply4 a p data).mono ?_
  rintro trace rfl
  exact .socks4 hd

theorem within_ofStatus5 (r : Socks5Request) (status : UInt8) (bound : Option Destination) (q : Port) :
    (ofStatus5 r status bound q).Within (· = []) := by
  unfold ofStatus5
  split
  · exact within_fail _ _
  · split
    · exact within_done rfl
    · exact within_fail _ _

/-- What is left after an address: the read of the port. -/
def PortCalls (trace : List Call) : Prop := ∃ port, port.length = 2 ∧ trace = [.got port]

theorem within_readPort (r : Socks5Request) (status : UInt8) (bound : Option Destination) :
    (readPort r status bound).Within PortCalls := by
  refine within_receive ⟨[0, 0], [], rfl, [0, 0], rfl, rfl⟩ fun raw hr => ?_
  split
  · exact within_fail _ _
  · refine (within_ofStatus5 r status bound _).mono ?_
    rintro trace rfl
    exact ⟨raw, hr, rfl⟩

theorem within_afterAddress (r : Socks5Request) (status : UInt8) (t : AddressType) (payload : Bytes) :
    (afterAddress r status t payload).Within PortCalls := by
  unfold afterAddress
  split
  · exact within_fail _ _
  · exact within_readPort r status _

/-- An address of one read. -/
theorem within_readPayload (r : Socks5Request) (status : UInt8) (t : AddressType) (n : Nat) (f : Bytes → Bytes)
    {L : List Call → Prop} (hl : ∀ a port, a.length = n → port.length = 2 → L [.got a, .got port]) :
    (receive n fun a => afterAddress r status t (f a)).Within L := by
  refine within_receive ⟨_, _, List.length_replicate, hl (List.replicate n 0) [0, 0] List.length_replicate rfl⟩ ?_
  intro a ha
  refine (within_afterAddress r status t (f a)).mono ?_
  rintro trace ⟨port, hp, rfl⟩
  exact hl a port ha hp

/-- What is left after a header with this type of address. -/
def RestCalls (type : UInt8) (trace : List Call) : Prop :=
  ∃ address port, AddressCalls type address ∧ port.length = 2 ∧ trace = address ++ [.got port]

theorem within_readName (r : Socks5Request) (status n : UInt8) :
    (readName r status n).Within fun trace => RestCalls 3 (.got [n] :: trace) := by
  unfold readName
  split
  · rename_i hn
    subst hn
    refine (within_afterAddress r status .domain [0]).mono ?_
    rintro trace ⟨port, hp, rfl⟩
    exact ⟨_, port, .empty, hp, rfl⟩
  · rename_i hn
    refine within_readPayload r status .domain n.toNat (n :: ·) fun a port ha hp => ?_
    exact ⟨_, port, .name hn ha, hp, rfl⟩

theorem within_readAddress (r : Socks5Request) (status : UInt8) (t : AddressType) :
    (readAddress r status t).Within (RestCalls t.code) := by
  cases t with
  | ipv4 => exact within_readPayload r status .ipv4 4 id fun a port ha hp => ⟨_, port, .ipv4 ha, hp, rfl⟩
  | ipv6 => exact within_readPayload r status .ipv6 16 id fun a port ha hp => ⟨_, port, .ipv6 ha, hp, rfl⟩
  | domain =>
    refine within_receive ⟨[0], _, rfl, _, [0, 0], .empty, rfl, rfl⟩ fun raw hr => ?_
    obtain ⟨n, rfl⟩ := List.length_eq_one_iff.mp hr
    exact within_readName r status n

theorem within_afterHeader (r : Socks5Request) (raw : Bytes) :
    (afterHeader r raw).Within fun trace => ReplyCalls (.got raw :: trace) := by
  unfold afterHeader
  split
  · exact within_fail _ _
  · rename_i h hd
    obtain rfl := ReplyHeader.decode_eq_ok hd
    refine (within_readAddress r h.status h.type).mono ?_
    rintro trace ⟨address, port, ha, hp, rfl⟩
    exact .mk h.status h.reserved ha hp

/-- A reply whose address is that of no host. -/
theorem replyCalls_unspecified :
    ReplyCalls (.got [5, 0, 0, 1] :: ([.got [0, 0, 0, 0]] ++ [.got [0, 0]])) := .mk 0 0 (.ipv4 rfl) rfl

theorem within_request5 (r : Socks5Request) (greeting : Bytes) :
    (request5 r).Within fun trace => Trace (some greeting) r.encode (.wrote greeting :: .got [5, 0] :: trace) := by
  have hl : Trace (some greeting) r.encode _ := .socks5 replyCalls_unspecified
  refine within_send ⟨_, hl⟩ (within_receive ⟨_, _, rfl, hl⟩ fun raw _ => ?_)
  exact (within_afterHeader r raw).mono fun trace ht => .socks5 ht

theorem within_afterMethod (r : Socks5Request) (greeting raw : Bytes) :
    (afterMethod r raw).Within fun trace => Trace (some greeting) r.encode (.wrote greeting :: .got raw :: trace) := by
  unfold afterMethod
  split
  · exact within_fail _ _
  · rename_i m hm
    split
    · rename_i h0
      have hs : (afterMethod r raw).sends = true := by
        simp only [afterMethod, hm, if_pos h0]
        rfl
      obtain rfl := afterMethod_request hs
      exact within_request5 r greeting
    · exact within_fail _ _

theorem within_socks5 (r : Socks5Request) : (socks5 r).Within (Trace (some (greeting [0])) r.encode) := by
  have hl : Trace (some (greeting [0])) r.encode _ := .socks5 replyCalls_unspecified
  unfold socks5
  exact within_send ⟨_, hl⟩ (within_receive ⟨_, _, rfl, hl⟩ fun raw _ => within_afterMethod r _ raw)

end Exchange

theorem Route.exchange_within {r : Route} {x : Exchange} {request : Bytes} (hx : r.exchange = .ok x)
    (hr : r.request = .ok request) : x.Within (Trace r.offer request) := by
  cases r with
  | socks4 a p t =>
    rw [exchange_socks4, hr] at hx
    obtain rfl := Except.ok.inj hx
    exact Exchange.within_socks4 request a p
  | socks4User a p u t =>
    rw [exchange_socks4User, hr] at hx
    obtain rfl := Except.ok.inj hx
    exact Exchange.within_socks4 request a p
  | socks5 d p t =>
    obtain rfl := Except.ok.inj hx
    obtain rfl := Except.ok.inj ((request_socks5 d p t).symm.trans hr)
    exact Exchange.within_socks5 ⟨d, p⟩

/-! ## Handshakes -/

theorem Trace.nonempty (offer : Option Bytes) (request : Bytes) : ∃ trace, Trace offer request trace := by
  cases offer with
  | none =>
    have hl : ([0, 90, 0, 0, 0, 0, 0, 0] : Bytes).length = 8 := rfl
    exact ⟨_, .socks4 hl⟩
  | some g => exact ⟨_, .socks5 Exchange.replyCalls_unspecified⟩

theorem ReplyCalls.reads {reply : List Call} (h : ReplyCalls reply) : ∀ c ∈ reply, ∃ data, c = .got data := by
  obtain ⟨status, reserved, ha, hp⟩ := h
  intro c hc
  simp only [List.mem_cons, List.mem_append, List.not_mem_nil, or_false] at hc
  rcases hc with rfl | hc | rfl
  · exact ⟨_, rfl⟩
  · cases ha with
    | ipv4 _ => exact ⟨_, List.mem_singleton.mp hc⟩
    | ipv6 _ => exact ⟨_, List.mem_singleton.mp hc⟩
    | empty => exact ⟨_, List.mem_singleton.mp hc⟩
    | name _ _ =>
      rcases List.mem_cons.mp hc with rfl | hc
      · exact ⟨_, rfl⟩
      · exact ⟨_, List.mem_singleton.mp hc⟩
  · exact ⟨_, rfl⟩

/-- In SOCKS5 the request comes right after the choice of no authentication. -/
theorem Trace.before_request {greeting request : Bytes} {before rest : List Call}
    (h : Trace (some greeting) request (before ++ .wrote request :: rest)) (hne : greeting ≠ request) :
    before = [.wrote greeting, .got [5, 0]] := by
  generalize ht : before ++ Call.wrote request :: rest = trace at h
  cases h with
  | socks5 hr =>
    match before with
    | [] =>
      obtain ⟨hw, -⟩ := List.cons.inj ht
      injection hw with hw
      exact absurd hw.symm hne
    | [a] =>
      simp [Call.wrote, Call.got] at ht
    | [a, b] =>
      simp only [List.cons_append, List.nil_append, List.cons.injEq] at ht
      rw [ht.1, ht.2.1]
    | a :: b :: c :: before =>
      simp only [List.cons_append, List.cons.injEq] at ht
      obtain ⟨-, -, -, ht⟩ := ht
      obtain ⟨data, hd⟩ := hr.reads (.wrote request) (ht ▸ List.mem_append_right before List.mem_cons_self)
      cases hd

theorem Route.offer_ne_request {r : Route} {greeting request : Bytes} (ho : r.offer = some greeting)
    (hr : r.request = .ok request) : greeting ≠ request := by
  cases r with
  | socks4 a p t => cases ho
  | socks4User a p u t => cases ho
  | socks5 d p t =>
    obtain rfl := Except.ok.inj ((request_socks5 d p t).symm.trans hr)
    obtain rfl := Option.some.inj ho
    intro he
    have hl := congrArg List.length he
    simp [Socks5Request.encode, greeting, Bytes.length_ofUInt16] at hl

theorem Route.exchange_error {r : Route} {f : Fault} (h : r.request = .error f) : r.exchange = .error f := by
  cases r with
  | socks4 a p t => rw [exchange_socks4, h]; rfl
  | socks4User a p u t => rw [exchange_socks4User, h]; rfl
  | socks5 d p t => exact absurd ((request_socks5 d p t).symm.trans h) (by simp)

/-- The calls of a handshake start a trace, and are the whole of it if it succeeds. -/
theorem Route.connect_starts {σ : Type} [Transport σ] (r : Route) (s : σ) {request : Bytes}
    (hr : r.request = .ok request) :
    let seen := r.connect (Session.start (Observed.start s))
    ∃ trace, Trace r.offer request trace ∧ Starts seen.2.stream.calls trace ∧
      (seen.1 = .ok () → seen.2.stream.calls = trace) := by
  intro seen
  obtain ⟨trace, ht⟩ := Trace.nonempty r.offer request
  rcases r.connect_goes (Session.start (Observed.start s)) with ⟨f, he, -⟩ | ⟨x, t, calls, hx, -, hc, hg⟩
  · rw [show seen = _ from he]
    exact ⟨trace, ht, .nil, by simp⟩
  · rw [show seen.2.stream.calls = calls from hc]
    rcases exchange_within hx hr t calls _ hg with ⟨rfl, hne⟩ | h
    · exact ⟨trace, ht, .nil, fun h => absurd h hne⟩
    · exact h

/-- Whatever the peer does, the events of a handshake are the start of one trace. Every call comes after nothing
but successes that are those of the trace, so that nothing follows a failure or a reply that is refused; the SOCKS5
request comes only after the choice of no authentication, and success only after the whole trace. -/
theorem connect_in_order (r : Route) (s : Stream) :
    let out := r.connect (Session.start s)
    let seen := r.connect (Session.start (Observed.start s))
    let calls := seen.2.stream.calls
    seen.1 = out.1 ∧ seen.2.stream.stream = out.2.stream ∧
      out.2.stream.marks = s.marks ++ calls.flatMap Call.marks ∧
      (∀ f, r.request = .error f → calls = [] ∧ out.1 ≠ .ok ()) ∧
      ∀ request, r.request = .ok request →
        (∃ trace, Trace r.offer request trace ∧ calls.flatMap Call.marks <+: trace.flatMap Call.marks ∧
          (out.1 = .ok () → calls = trace) ∧
          ∀ before c after, calls = before ++ c :: after → (∀ b ∈ before, b.Succeeds) ∧ before <+: trace) ∧
        ∀ greeting, r.offer = some greeting → ∀ before ending after,
          calls = before ++ .write request ending :: after → before = [.wrote greeting, .got [5, 0]] := by
  intro out seen calls
  have hstart : Session.Agrees (Stream.Recorded s.marks) (Session.start (Observed.start s)) (Session.start s) :=
    ⟨⟨rfl, (List.append_nil _).symm⟩, rfl, rfl, rfl⟩
  have h := r.connect_agrees (Stream.recorded_bisimulates s.marks) hstart
  have hout : seen.1 = out.1 := h.fst
  obtain ⟨⟨hs, hm⟩, -, -, -⟩ := h.snd
  refine ⟨hout, hs, hs ▸ hm, ?_, ?_⟩
  · intro f hf
    have he : seen = (.error (.fault f), Session.start (Observed.start s)) := by
      show r.connect _ = _
      rw [Route.connect, Route.exchange_error hf]
    rw [show calls = seen.2.stream.calls from rfl, ← hout, he]
    exact ⟨rfl, by simp⟩
  · intro request hr
    obtain ⟨trace, ht, hst, hok⟩ := r.connect_starts s hr
    refine ⟨⟨trace, ht, hst.marks, hout ▸ hok, ?_⟩, ?_⟩
    · intro before c after hc
      rw [show seen.2.stream.calls = _ from hc] at hst
      obtain ⟨hb, d, rest, rfl, -⟩ := hst.split
      exact ⟨hb, List.prefix_append before _⟩
    · intro greeting ho before ending after hc
      rw [show seen.2.stream.calls = _ from hc] at hst
      obtain ⟨-, d, rest, rfl, hd⟩ := hst.split
      cases hd
      rw [ho] at ht
      exact ht.before_request (Route.offer_ne_request ho hr)

end SocksTunnel
