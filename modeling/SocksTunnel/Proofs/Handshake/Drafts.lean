import SocksTunnel.Proofs.Socks.ReplyGrammar
import SocksTunnel.Route.Connect

/-
  SocksTunnel.Proofs.Handshake.Drafts — handshakes that are carried out on drafts. A draft
  may refuse to be written, and its assertions may fail, where an exchange has octets and
  fields that are there: so this is the handshake with everything in it that could go wrong
  within a message, whatever octets the peer sends.

  Proved: none of it does. Over every stream the handshake on drafts has the result of the
  handshake along the route and leaves the same session (`connectDrafts_eq`).
-/

namespace SocksTunnel

theorem Session.length_of_receive {σ : Type} [Transport σ] {limit : Duration} {n : Int} {s : Session σ} {data : Bytes}
    (h : (s.receive limit n).1 = .ok data) : (data.length : Int) = n := by
  unfold receive read at h
  split at h
  · rename_i b t hb
    cases h
    split at hb
    · cases hb
    · split at hb
      · exact (exactly_eq_ok (congrArg Prod.fst hb)).2
      · cases hb
      · cases hb
  · cases h

/-! ## Steps -/

/-- Steps of a handshake, which may fail as an operation does or as a draft does. -/
abbrev Steps (σ α : Type) := ExceptT Failure (StateM (Session σ)) α

namespace Steps

variable {σ α β : Type}

def run (m : Steps σ α) (s : Session σ) : Except Failure α × Session σ := m s

/-- Something that may be at fault. -/
def check (e : Except Fault α) : Steps σ α := fun s => (e.mapError .fault, s)

/-- A draft that is filled by a reading. -/
def fill (r : Reading α) : Steps σ α := fun s => (r.2.map fun _ => r.1, s)

theorem run_bind (m : Steps σ α) (k : α → Steps σ β) (s : Session σ) :
    (m >>= k).run s = match m.run s with
      | (.ok a, s) => (k a).run s
      | (.error f, s) => (.error f, s) := by
  simp only [run, bind, ExceptT.bind, ExceptT.mk, StateT.bind, ExceptT.bindCont]
  cases m s with
  | mk o s => cases o <;> rfl

theorem run_check (a : α) (k : α → Steps σ β) (s : Session σ) : (check (.ok a) >>= k).run s = (k a).run s := by
  rw [run_bind]
  rfl

theorem run_check_error (f : Fault) (k : α → Steps σ β) (s : Session σ) :
    (check (.error f) >>= k).run s = (.error (.fault f), s) := by
  rw [run_bind]
  rfl

theorem run_fill (a : α) (k : α → Steps σ β) (s : Session σ) : (fill (a, .ok ()) >>= k).run s = (k a).run s := by
  rw [run_bind]
  rfl

theorem run_fill_error (a : α) (f : Failure) (k : α → Steps σ β) (s : Session σ) :
    (fill (a, .error f) >>= k).run s = (.error f, s) := by
  rw [run_bind]
  rfl

variable [Transport σ]

def send (limit : Duration) (payload : Bytes) : Steps σ Unit := fun s => s.send limit payload

/-- As many octets as a setting says. -/
def receive (limit : Duration) (n : Value) : Steps σ Bytes := do
  let n ← check n.index
  fun s => s.receive limit n

/-- What an exchange does. -/
def follow (t : Timeouts) (x : Exchange) : Steps σ Unit := fun s => s.run t x

/-- To send and go on is the exchange that sends and goes on. -/
theorem run_send (t : Timeouts) {payload : Bytes} {next : Exchange} {k : Unit → Steps σ Unit}
    (h : ∀ s, (k ()).run s = s.run t next) (s : Session σ) :
    (send t.write payload >>= k).run s = s.run t (.send payload next) := by
  rw [run_bind, Session.run, show (send t.write payload).run s = s.send t.write payload from rfl]
  cases s.send t.write payload with
  | mk o s =>
    cases o with
    | ok _ => exact h s
    | error f => rfl

/-- To receive and go on is the exchange that receives and goes on, if it is so for every reply of that length. -/
theorem run_receive (t : Timeouts) {n : Nat} {next : Bytes → Exchange} {k : Bytes → Steps σ Unit}
    (h : ∀ data s, data.length = n → (k data).run s = s.run t (next data)) (s : Session σ) :
    (receive t.read (.int n) >>= k).run s = s.run t (.receive n next) := by
  rw [run_bind, Session.run, show (receive t.read (.int n)).run s = s.receive t.read n from run_check (n : Int) _ s]
  cases hd : s.receive t.read n with
  | mk o s' =>
    cases o with
    | error f => rfl
    | ok data => exact h data s' (Int.ofNat_inj.mp (Session.length_of_receive (by rw [hd])))

end Steps

/-! ## Drafts of replies -/

/-- The bound address that a draft holds. -/
def Socks5ReplyDraft.bound (d : Socks5ReplyDraft) : Option Destination :=
  match d.address with
  | .destination a => some a
  | _ => none

namespace Steps

variable {σ : Type} [Transport σ]

/-! ## SOCKS4 -/

def connect4 (t : Timeouts) (request : Bytes) (a : Ipv4) (p : Port) : Steps σ Unit := do
  send t.write request
  let reply ← fill (Socks4ReplyDraft.blank.read (← receive t.read (.int Socks4Reply.length)))
  let status ← check reply.status.octet
  follow t (.ofStatus4 a p status)

theorem run_connect4 (t : Timeouts) (request : Bytes) (a : Ipv4) (p : Port) (s : Session σ) :
    (connect4 t request a p).run s = s.run t (.socks4 request a p) := by
  refine run_send t (run_receive t fun raw s _ => ?_) s
  rw [Exchange.afterReply4, Socks4ReplyDraft.read]
  cases Socks4Reply.decode raw with
  | error d => exact run_fill_error _ _ _ s
  | ok r =>
    refine (run_fill _ _ s).trans ?_
    rw [show (Socks4ReplyDraft.ofReply r).status.octet = .ok r.status from Value.octet_ofOctet r.status]
    exact run_check _ _ s

/-! ## SOCKS5 -/

/-- Settles the method. -/
def negotiate (t : Timeouts) : Steps σ Unit := do
  send t.write (← check (GreetingDraft.offering (.list [.ofOctet AuthMethod.noAuth.code])).write)
  let reply ← fill ((MethodReplyDraft.choosing .nothing).read (← receive t.read (.int MethodReply.length)))
  if Value.sameWhole AuthMethod.noAuth.code.toNat reply.method then pure ()
  else
    check reply.method.required
    let m ← check reply.method.octet
    follow t (.fail (some (.unusableMethod m)) (.noMethod m (methodReason m.toNat)))

/-- Reads a name of this length; an empty one is followed by the port at once. -/
def receiveName (limit : Duration) (n : Value) : Steps σ Bytes := if n.isGiven then receive limit n else pure []

/-- Reads the address behind a header, for a name its length first. -/
def readAddress (t : Timeouts) (reply : Socks5ReplyDraft) : Steps σ Socks5ReplyDraft := do
  let reply ←
    if reply.isType .domain then do
      fill (reply.readAddressLength (← receive t.read (← check reply.addressLength)))
    else pure reply
  let n ← check reply.addressLength
  fill (reply.readAddress (← receiveName t.read n))

/-- Sends the request and reads the reply part by part. -/
def request (t : Timeouts) (d : Destination) (p : Port) : Steps σ Socks5ReplyDraft := do
  send t.write (← check (Route.socks5 d p (.timeouts t)).request)
  let reply ← fill (Socks5ReplyDraft.blank.readHeader (← receive t.read (.int ReplyHeader.length)))
  let reply ← readAddress t reply
  fill (reply.readPort (← receive t.read (.int 2)))

def connect5 (t : Timeouts) (d : Destination) (p : Port) : Steps σ Unit := do
  negotiate t
  let reply ← request t d p
  let status ← check reply.status.octet
  let q ← check reply.port.port
  follow t (.ofStatus5 ⟨d, p⟩ status reply.bound q)

theorem sameWhole_ofOctet {m n : UInt8} : Value.sameWhole m.toNat (.ofOctet n) = true ↔ m = n := by
  simp only [Value.sameWhole, Value.ofOctet, beq_iff_eq, Int.ofNat_inj]
  exact UInt8.toNat_inj

theorem write_greeting :
    (GreetingDraft.offering (.list [.ofOctet AuthMethod.noAuth.code])).write = .ok (greeting [AuthMethod.noAuth.code]) := by
  have h : Value.octetsOf [.int 5, .int 1, .ofOctet 0] = .ok [5, 1, 0] := Value.octetsOf_map [5, 1, 0]
  simp only [GreetingDraft.write, GreetingDraft.offering, AuthMethod.code, Value.orElse, Value.isGiven, Value.size,
    Value.size?, List.isEmpty_cons, Bool.not_false, if_true, List.length_singleton, bind, Except.bind]
  rw [if_neg (by omega)]
  exact h

theorem run_negotiate (t : Timeouts) (r : Socks5Request) {k : Unit → Steps σ Unit}
    (hk : ∀ s, (k ()).run s = s.run t (.request5 r)) (s : Session σ) :
    (negotiate t >>= k).run s = s.run t (.socks5 r) := by
  simp only [negotiate, bind_assoc, write_greeting]
  rw [run_check]
  refine run_send t (run_receive t fun raw s _ => ?_) s
  rw [MethodReplyDraft.read, Exchange.afterMethod]
  cases MethodReply.decode raw with
  | error d => exact run_fill_error _ _ _ s
  | ok m =>
    refine (run_fill _ _ s).trans ?_
    by_cases hm : m.method = AuthMethod.noAuth.code
    · have hs : Value.sameWhole AuthMethod.noAuth.code.toNat (.ofOctet m.method) = true := sameWhole_ofOctet.mpr hm.symm
      simp only [hs, if_true, pure_bind, if_pos hm]
      exact hk s
    · have hs : ¬ Value.sameWhole AuthMethod.noAuth.code.toNat (.ofOctet m.method) = true :=
        fun h => hm (sameWhole_ofOctet.mp h).symm
      simp only [if_neg hs, if_neg hm, bind_assoc, Value.octet_ofOctet]
      refine (run_check () _ s).trans ((run_check m.method _ s).trans ?_)
      rw [run_bind]
      rfl

/-! ## The reply to the request -/

theorem unpack_of_decode {t : AddressType} {b : Bytes} {d : Destination} (h : Destination.decode t b = .ok d) :
    Value.unpack (.ofOctet t.code) (.bytes b) = .ok d := by
  cases t with
  | ipv4 =>
    show (Value.rawIpv4 (.bytes b)).map .ipv4 = .ok d
    cases ha : Ipv4.ofBytes? b with
    | none => simp [Destination.decode, ha] at h
    | some a =>
      simp only [Destination.decode, ha, Except.ok.injEq] at h
      simp only [Value.rawIpv4, ha, ← h]
      rfl
  | ipv6 =>
    show (Value.rawIpv6 (.bytes b)).map .ipv6 = .ok d
    cases ha : Ipv6.ofBytes? b with
    | none => simp [Destination.decode, ha] at h
    | some a =>
      simp only [Destination.decode, ha, Except.ok.injEq] at h
      simp only [Value.rawIpv6, ha, ← h]
      rfl
  | domain =>
    show (Destination.decode .domain b).mapError Fault.destination = .ok d
    rw [h]
    rfl

/-- A reply that holds this header, and nothing of an address or a port. -/
def headed (h : ReplyHeader) : Socks5ReplyDraft :=
  { Socks5ReplyDraft.blank with status := .ofOctet h.status, reserved := .ofOctet h.reserved, type := .ofOctet h.type.code }

/-- An address of the grammar fills a reply of its type, and an exchange goes on with the same bound address. -/
theorem fill_address {d : Socks5ReplyDraft} {t : AddressType} {raw payload : Bytes} (ht : d.type = .ofOctet t.code)
    (hp : d.payload raw = .ok (some payload)) (hne : ¬ (t = .domain ∧ payload = [0])) (ha : Reply.IsAddress t.code payload) :
    ∃ a, boundAddress t payload = .ok (some a) ∧ d.readAddress raw = ({ d with address := .destination a }, .ok ()) := by
  obtain ⟨bound, hb⟩ := Reply.exists_boundAddress ha
  unfold boundAddress at hb
  rw [if_neg hne] at hb
  cases hd : Destination.decode t payload with
  | error e => rw [hd] at hb; cases hb
  | ok a =>
    refine ⟨a, by rw [boundAddress, if_neg hne, hd], ?_⟩
    rw [Socks5ReplyDraft.readAddress, hp]
    simp only [Socks5ReplyDraft.readUnpacked, ht, unpack_of_decode hd]

/-- The read of an address whose length is known, and what it fills. -/
theorem run_readPayload (t : Timeouts) (r : Socks5Request) (status : UInt8) {d : Socks5ReplyDraft} (type : AddressType)
    {n : Nat} (f : Bytes → Bytes) (ht : d.type = .ofOctet type.code) (hp : ∀ raw, d.payload raw = .ok (some (f raw)))
    (ha : ∀ raw : Bytes, raw.length = n → ¬ (type = .domain ∧ f raw = [0]) ∧ Reply.IsAddress type.code (f raw))
    {k : Socks5ReplyDraft → Steps σ Unit}
    (hk : ∀ a s, (k { d with address := .destination a }).run s = s.run t (.readPort r status (some a))) (s : Session σ) :
    (receive t.read (.int n) >>= fun raw => fill (d.readAddress raw) >>= k).run s =
      s.run t (.receive n fun raw => .afterAddress r status type (f raw)) := by
  refine run_receive t (fun raw s hr => ?_) s
  obtain ⟨hne, hx⟩ := ha raw hr
  obtain ⟨a, hb, hf⟩ := fill_address ht (hp raw) hne hx
  rw [hf, run_fill, Exchange.afterAddress, hb]
  exact hk a s

theorem run_readName (t : Timeouts) (r : Socks5Request) (status reserved n : UInt8) {k : Socks5ReplyDraft → Steps σ Unit}
    (hk : ∀ d s, d.status = .ofOctet status → (k d).run s = s.run t (.readPort r status d.bound)) (s : Session σ) :
    (receiveName t.read (.ofOctet n) >>= fun raw =>
      fill (Socks5ReplyDraft.readAddress { headed ⟨status, reserved, .domain⟩ with nameLength := .ofOctet n } raw) >>=
        k : Steps σ Unit).run s = s.run t (.readName r status n) := by
  by_cases hn : n = 0
  · subst hn
    refine Eq.trans ?_ (hk { headed ⟨status, reserved, .domain⟩ with nameLength := .ofOctet 0 } s rfl)
    rfl
  · have hz : n.toNat ≠ 0 := fun h => hn (UInt8.toNat_inj.mp h)
    have hg : (Value.ofOctet n).isGiven = true := by simpa [Value.ofOctet, Value.isGiven] using hz
    rw [receiveName, if_pos hg, Exchange.readName, if_neg hn]
    refine run_readPayload t r status .domain (n :: ·) rfl (fun raw => ?_) (fun raw hr => ⟨?_, .name n hr⟩) (fun a s => ?_) s
    · have h0 : ¬ Value.sameWhole 0 (.ofOctet n) = true := fun h => hn (sameWhole_ofOctet (m := 0).mp h).symm
      show (if Value.sameWhole 0 (.ofOctet n) then (.ok none : Except Fault (Option Bytes))
        else (Value.ofOctet n).octet >>= fun o => .ok (some (o :: raw))) = _
      rw [if_neg h0, Value.octet_ofOctet]
      rfl
    · rintro ⟨-, he⟩
      exact hn (List.cons.inj he).1
    · exact hk _ s rfl

theorem run_readAddress (t : Timeouts) (r : Socks5Request) (h : ReplyHeader) {k : Socks5ReplyDraft → Steps σ Unit}
    (hk : ∀ d s, d.status = .ofOctet h.status → (k d).run s = s.run t (.readPort r h.status d.bound)) (s : Session σ) :
    (readAddress t (headed h) >>= k).run s = s.run t (.readAddress r h.status h.type) := by
  obtain ⟨status, reserved, type⟩ := h
  cases type with
  | ipv4 =>
    have he : readAddress t (headed ⟨status, reserved, .ipv4⟩) =
        (receive t.read (.int 4) >>= fun raw => fill ((headed ⟨status, reserved, .ipv4⟩).readAddress raw) : Steps σ _) := rfl
    rw [he, bind_assoc]
    exact run_readPayload t r status .ipv4 id rfl (fun _ => rfl) (fun _ hr => ⟨by simp, .ipv4 hr⟩) (fun a s => hk _ s rfl) s
  | ipv6 =>
    have he : readAddress t (headed ⟨status, reserved, .ipv6⟩) =
        (receive t.read (.int 16) >>= fun raw => fill ((headed ⟨status, reserved, .ipv6⟩).readAddress raw) : Steps σ _) := rfl
    rw [he, bind_assoc]
    exact run_readPayload t r status .ipv6 id rfl (fun _ => rfl) (fun _ hr => ⟨by simp, .ipv6 hr⟩) (fun a s => hk _ s rfl) s
  | domain =>
    have hd : (headed ⟨status, reserved, .domain⟩).isType .domain = true := rfl
    have hl : (headed ⟨status, reserved, .domain⟩).addressLength = .ok (.int 1) := rfl
    simp only [readAddress, hd, if_true, hl, bind_assoc]
    rw [run_check]
    refine run_receive t (fun raw s hr => ?_) s
    obtain ⟨n, rfl⟩ := List.length_eq_one_iff.mp hr
    refine (run_fill _ _ s).trans ((run_check (Value.ofOctet n) _ s).trans ?_)
    exact run_readName t r status reserved n hk s

theorem run_request (t : Timeouts) (d : Destination) (p : Port) {k : Socks5ReplyDraft → Steps σ Unit}
    (hk : ∀ reply status q s, reply.status = .ofOctet status → reply.port = .int (q : Port).toNat →
      (k reply).run s = s.run t (.ofStatus5 ⟨d, p⟩ status reply.bound q)) (s : Session σ) :
    (request t d p >>= k).run s = s.run t (.request5 ⟨d, p⟩) := by
  simp only [request, bind_assoc, Route.request_socks5]
  rw [run_check]
  refine run_send t (run_receive t fun raw s _ => ?_) s
  rw [Socks5ReplyDraft.readHeader, Exchange.afterHeader]
  cases ReplyHeader.decode raw with
  | error e => exact run_fill_error _ _ _ s
  | ok h =>
    refine (run_fill (headed h) _ s).trans (run_readAddress t ⟨d, p⟩ h (fun reply s hs => ?_) s)
    refine run_receive t (fun raw s _ => ?_) s
    rw [Socks5ReplyDraft.readPort]
    cases boundPort raw with
    | error e => exact run_fill_error _ _ _ s
    | ok q => exact (run_fill _ _ s).trans (hk _ h.status q s hs rfl)

theorem run_connect5 (t : Timeouts) (d : Destination) (p : Port) (s : Session σ) :
    (connect5 t d p).run s = s.run t (.socks5 ⟨d, p⟩) := by
  unfold connect5
  refine run_negotiate t ⟨d, p⟩ (fun s => ?_) s
  refine run_request t d p (fun reply status q s hs hq => ?_) s
  rw [hs, hq, Value.octet_ofOctet, Value.port_toNat, run_check, run_check]
  rfl

end Steps

/-! ## Routes -/

/-- The handshake along a route, carried out on drafts. -/
def Route.connectDrafts {σ : Type} [Transport σ] (r : Route) : Steps σ Unit :=
  match r with
  | socks4 a p _ | socks4User a p _ _ => do
    let request ← .check r.request
    let t ← .check r.timeouts
    .connect4 t request a p
  | socks5 d p _ => do
    let t ← .check r.timeouts
    .connect5 t d p

/-- A handshake on drafts along a route whose exchange is that of SOCKS4. -/
theorem Route.run_connect4 {σ : Type} [Transport σ] {r : Route} {a : Ipv4} {p : Port}
    (hx : r.exchange = r.request.map fun b => .socks4 b a p) (s : Session σ) :
    Steps.run (do
        let request ← .check r.request
        let t ← .check r.timeouts
        .connect4 t request a p) s = r.connect s := by
  rw [connect, hx]
  cases r.request with
  | error f => exact Steps.run_check_error f _ s
  | ok b =>
    rw [Steps.run_check]
    cases r.timeouts with
    | error f => exact Steps.run_check_error f _ s
    | ok t => exact (Steps.run_check t _ s).trans (Steps.run_connect4 t b a p s)

/-- The handshake on drafts is the handshake along the route: but for a request that cannot be written or timeouts
that are none, no draft is at fault and no assertion of one fails, whatever the stream returns. -/
theorem Route.connectDrafts_eq {σ : Type} [Transport σ] (r : Route) (s : Session σ) :
    r.connectDrafts.run s = r.connect s := by
  cases r with
  | socks4 a p t => exact run_connect4 (exchange_socks4 a p t) s
  | socks4User a p u t => exact run_connect4 (exchange_socks4User a p u t) s
  | socks5 d p t =>
    rw [connectDrafts, connect, exchange]
    cases (socks5 d p t).timeouts with
    | error f => exact Steps.run_check_error f _ s
    | ok t => exact (Steps.run_check t _ s).trans (Steps.run_connect5 t d p s)

end SocksTunnel
