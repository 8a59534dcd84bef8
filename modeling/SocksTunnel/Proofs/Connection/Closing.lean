import SocksTunnel.Connection
import SocksTunnel.Proofs.Script.Network

/-
  SocksTunnel.Proofs.Connection.Closing — a connection from its opening on: it is written to, read
  from, closed, waited for and left, in any order and any number of times, and whatever fails of
  that, it goes on.

  Proved: an attempt to connect ends as its action does, with the limit passed or the error of the
  transport told (`opens_enter`). Only closing and leaving close the connection, the first of them in
  a run does and the others find it closed (`Counts.after`). Leaving closes first and waits
  then, and of the errors of that wait only those of input and output are kept to itself. So a
  connection is closed once or never, whatever is done with it (`closed_once`).
-/

namespace SocksTunnel

open Script

/-! ## Operations that do not close -/

namespace Script.Network

variable {n m : Network}

theorem SameLink.trans {o : Network} (h : SameLink n m) (h' : SameLink m o) : SameLink n o :=
  ⟨h'.connects.trans h.connects, h'.isClosing.trans h.isClosing, h'.closeCalls.trans h.closeCalls,
    h'.closing.trans h.closing⟩

theorem sameLink_withReader (n m : Network) : SameLink n (n.withReader m) := ⟨rfl, rfl, rfl, rfl⟩

theorem sameLink_await (limit : Option Time) (a : Action) (n : Network) : SameLink n (await limit a n).2 :=
  ⟨rfl, rfl, rfl, rfl⟩

theorem sameLink_write (limit : Option Time) (payload : Bytes) (n : Network) : SameLink n (n.write limit payload).2 := by
  have hwait := sameLink_await limit (Action.next n.plan.drains).1 (hand payload n)
  have hhand : SameLink n (hand payload n) := ⟨rfl, rfl, rfl, rfl⟩
  unfold write
  split
  · rename_i k hk
    rw [hk] at hwait
    refine (hhand.trans hwait).trans ?_
    rw [reply_eq]
    exact ⟨rfl, rfl, rfl, rfl⟩
  · exact hhand.trans hwait

/-- A read moves the clock and the reader, and nothing else. -/
theorem sameLink_readOnce (limit : Option Time) (k : Nat) (enough : Reader → Bool)
    (finish : Reader → Except PeerError Bytes × Reader) (n : Network) :
    SameLink n (n.readOnce limit k enough finish).2 := by
  have h := readOnce_withReader limit k enough finish n n
  rw [show n.withReader n = n from rfl] at h
  rw [h]
  exact sameLink_withReader n _

theorem sameLink_readExactly (limit : Option Time) (k : Int) (n : Network) : SameLink n (n.readExactly limit k).2 := by
  by_cases hk : k < 0
  · have hrefused : n.readExactly limit k = (.failed (.badValue negativeSize), n.updated) := if_pos hk
    rw [hrefused]
    exact ⟨rfl, rfl, rfl, rfl⟩
  · obtain ⟨k, rfl⟩ := Int.eq_ofNat_of_zero_le (Int.not_lt.mp hk)
    rw [readExactly_eq]
    exact sameLink_readOnce ..

theorem sameLink_readSome (limit : Option Time) (k : Nat) (n : Network) : SameLink n (n.readSome limit k).2 := by
  rw [readSome_eq]
  exact sameLink_readOnce ..

theorem sameLink_readBlocks (limit : Option Time) (fuel : Nat) (got : Bytes) (n : Network) :
    SameLink n (readBlocks limit fuel got n).2 := by
  induction fuel generalizing got n with
  | zero => exact .refl n
  | succ fuel ih =>
    have hblock := sameLink_readSome limit blockSize n
    unfold readBlocks
    split
    · rename_i k hk
      rw [hk] at hblock
      exact hblock
    · rename_i b k _ hk
      rw [hk] at hblock
      exact hblock.trans (ih (got ++ b) k)
    · exact hblock

theorem sameLink_read (limit : Option Time) (k : Int) (n : Network) : SameLink n (n.read limit k).2 := by
  unfold read
  split
  · exact sameLink_readBlocks ..
  · exact sameLink_readSome ..

end Script.Network

namespace Script.Action

variable {limit : Time} {a : Action} {e : PeerError}

theorem error_of_done {u : Unit} (h : a.fate limit = .done u) : a.error = none := by
  unfold fate at h
  split at h
  · cases h
  split at h
  · cases h
  · assumption

theorem error_of_failed (h : a.fate limit = .failed e) : a.error = some e := by
  unfold fate at h
  split at h
  · cases h
  split at h
  · cases h
    assumption
  · cases h

end Script.Action

namespace Connection

variable {c : Connection} {a : Action} {closed : Bool}

/-! ## Opening -/

/-- How an attempt to connect ends that follows an action under its limit. -/
inductive Opens (limit : Duration) (a : Action) : Except Failure Unit → Prop
  | opened (hin : ¬ a.TimesOut limit) (he : a.error = none) : Opens limit a (.ok ())
  | timeout (hout : a.TimesOut limit) : Opens limit a (.error (.handshake (.timeout .connect limit)))
  | transport {e : IoError} (hin : ¬ a.TimesOut limit) (he : a.error = some (.io e)) :
      Opens limit a (.error (.handshake (.transport (.io e))))
  /-- No error of input and output. -/
  | other {e : PeerError} (hin : ¬ a.TimesOut limit) (he : a.error = some e) (hio : e.isIo = false) :
      Opens limit a (.error (.peer e))

theorem Opens.unique {limit : Duration} {a : Action} {r s : Except Failure Unit} (h : Opens limit a r) (h' : Opens limit a s) :
    r = s := by
  cases h with
  | opened hin he => cases h' <;> simp_all
  | timeout hout => cases h' <;> simp_all
  | transport hin he => cases h' <;> simp_all [PeerError.isIo]
  | @other e hin he hio => cases h' <;> cases e <;> simp_all [PeerError.isIo]

/-- A new connection is opened, or not, by the fate of the attempt. -/
theorem enter_eq (plan : Plan) (limit : Duration) (proxy : Endpoint) :
    (start plan).enter limit proxy =
      if limit.isZero then (.error (.handshake (.expired .connect limit)), start plan)
      else
        let c := ((start plan).through (Network.connect limit.milliseconds proxy)).2
        match plan.connecting.fate limit.milliseconds with
        | .done _ => (.ok (), c.note (.connected proxy))
        | .expired => (.error (.handshake (.expired .connect limit)), c)
        | .failed e => (.error (.ofPeer .connect limit e), c) := by
  have hfate :
      ((start plan).through (Network.connect limit.milliseconds proxy)).1 = plan.connecting.fate limit.milliseconds := by
    show (Network.connect limit.milliseconds proxy (Network.start plan)).1 = _
    rw [Network.connect_eq]
    rfl
  unfold enter
  rw [← hfate]
  rcases (start plan).through (Network.connect limit.milliseconds proxy) with ⟨⟨⟩ | _ | e, c⟩ <;> rfl

theorem opens_enter (plan : Plan) (limit : Duration) (proxy : Endpoint) :
    Opens limit plan.connecting ((start plan).enter limit proxy).1 := by
  rw [enter_eq]
  by_cases hz : limit.isZero = true
  · rw [if_pos hz]
    exact .timeout (.inl ((Duration.isZero_iff limit).mp hz))
  rw [if_neg hz]
  have hout := Action.timesOut_iff (a := plan.connecting) (Bool.eq_false_iff.mpr hz)
  dsimp only
  cases hf : plan.connecting.fate limit.milliseconds with
  | done u => exact .opened (by simp [hout, hf]) (Action.error_of_done hf)
  | expired => exact .timeout (hout.mpr (.inl hf))
  | failed e =>
    have he := Action.error_of_failed hf
    have hin : ¬ plan.connecting.TimesOut limit ↔ e.isTimeout = false := by simp [hout, hf]
    unfold Failure.ofPeer
    dsimp only
    split
    · rename_i htime
      exact .timeout (hout.mpr (.inr ⟨e, hf, htime⟩))
    · rename_i htime
      have hin' := hin.mpr (Bool.eq_false_iff.mpr htime)
      cases e with
      | io i => exact .transport hin' he
      | _ => exact .other hin' he rfl

/-! ## One step -/

/-- What is done with a connection that is there. Payload and sizes are settings; a read without a size asks for one block. -/
inductive Step where
  | write (payload : Value)
  | readExactly (size : Value)
  | read (size : Option Value)
  | close
  | awaitClosed
  /-- Keeps the connection until it is left. -/
  | keep
  | leave

def Step.closes : Step → Bool
  | close => true
  | leave => true
  | _ => false

/-- The result of a step that may fail by itself. -/
def told {α : Type} (data : α → Bytes) (r : Except PeerError α × Connection) : Except Failure Bytes × Connection :=
  ((r.1.map data).mapError .peer, r.2)

def perform (c : Connection) : Step → Except Failure Bytes × Connection
  | .write payload =>
    match payload with
    | .bytes b => told (fun _ => []) (c.writeAll b)
    | _ => (.error (.fault .wrongType), c)
  | .readExactly size =>
    match size.whole? with
    | some k => told id (c.readExactly k)
    | none => (.error (.fault .wrongType), c)
  | .read none => told id (c.read Network.blockSize)
  | .read (some size) =>
    match size.whole? with
    | some k => told id (c.read k)
    | none => (.error (.fault .wrongType), c)
  | .close => (.ok [], c.close)
  | .awaitClosed => told (fun _ => []) c.awaitClosed
  | .keep => (.ok [], c)
  | .leave => told (fun _ => []) c.leave

/-- The connection after some steps, whether they succeed or not. -/
def after (c : Connection) (steps : List Step) : Connection := steps.foldl (fun c s => (c.perform s).2) c

/-- The books of a connection that closes by this action: closing was called once if it is closing, and never if not. -/
structure Counts (a : Action) (closed : Bool) (c : Connection) : Prop where
  isClosing : c.network.isClosing = some closed
  closeCalls : c.network.closeCalls = if closed then 1 else 0
  closing : c.network.plan.closing = a

theorem Counts.of_sameLink {d : Connection} (h : c.Counts a closed) (hl : Network.SameLink c.network d.network) :
    d.Counts a closed :=
  ⟨hl.isClosing.trans h.isClosing, hl.closeCalls.trans h.closeCalls, hl.closing.trans h.closing⟩

/-- A connection that was just opened is not closing. -/
theorem counts_enter {plan : Plan} {limit : Duration} {proxy : Endpoint} (h : ((start plan).enter limit proxy).1 = .ok ()) :
    Counts plan.closing false ((start plan).enter limit proxy).2 := by
  rw [enter_eq] at h ⊢
  split at h
  · cases h
  rename_i hz
  rw [if_neg hz]
  cases hf : plan.connecting.fate limit.milliseconds with
  | expired =>
    rw [hf] at h
    cases h
  | failed e =>
    rw [hf] at h
    cases h
  | done u =>
    have hnetwork : ((start plan).through (Network.connect limit.milliseconds proxy)).2.network =
        (Network.connect limit.milliseconds proxy (Network.start plan)).2 := rfl
    have hfate : (Network.start plan).plan.connecting.fate limit.milliseconds = .done () := hf
    refine ⟨?_, ?_, ?_⟩ <;> simp [note, hnetwork, Network.connect_eq, hfate] <;> rfl

theorem Counts.close (h : c.Counts a closed) : c.close.Counts a true := by
  unfold Connection.close Network.close
  cases closed with
  | true =>
    rw [if_neg (by simp [h.isClosing])]
    exact h
  | false =>
    rw [if_pos h.isClosing]
    exact ⟨rfl, congrArg (· + 1) h.closeCalls, h.closing⟩

/-- The connection after it was closed and this action was waited for. -/
def closedBy (a : Action) (c : Connection) : Connection :=
  { c with network := { c.network.close with now := c.network.now + a.delay } }

/-- How leaving ends: it closes, and of what the wait for that fails with it keeps errors of input and output to itself. -/
inductive Leaves (a : Action) (c : Connection) : Except Failure Bytes × Connection → Prop
  | quiet (he : a.error = none) : Leaves a c (.ok [], c.closedBy a)
  | noted {e : PeerError} (he : a.error = some e) (hio : e.isIo = true) :
      Leaves a c (.ok [], (c.closedBy a).note (.closingFailed e))
  | raised {e : PeerError} (he : a.error = some e) (hio : e.isIo = false) : Leaves a c (.error (.peer e), c.closedBy a)

theorem awaitClosed_eq (c : Connection) : c.awaitClosed = (match c.network.plan.closing.error with
    | some e => .error e
    | none => .ok (), { c with network := { c.network with now := c.network.now + c.network.plan.closing.delay } }) := by
  have hwait : c.network.awaitClosed = _ := Network.await_none c.network.plan.closing c.network
  unfold awaitClosed through
  dsimp only
  rw [hwait]
  cases c.network.plan.closing.error <;> rfl

theorem plan_close (n : Network) : n.close.plan = n.plan ∧ n.close.now = n.now := by
  unfold Network.close
  split <;> exact ⟨rfl, rfl⟩

theorem leaves_leave (h : c.network.plan.closing = a) : Leaves a c (c.perform .leave) := by
  obtain ⟨hplan, hnow⟩ := plan_close c.network
  have hwait := c.close.awaitClosed_eq
  rw [show c.close.network = c.network.close from rfl, hplan, hnow, h] at hwait
  have hstep : c.perform .leave = told (fun _ => []) c.leave := rfl
  rw [hstep, leave, hwait]
  cases he : a.error with
  | none => exact .quiet he
  | some e =>
    dsimp only
    split
    · rename_i hio
      exact .noted he hio
    · rename_i hio
      exact .raised he (Bool.eq_false_iff.mpr hio)

/-- However leaving ends, the connection is closed. -/
theorem Leaves.sameLink {r : Except Failure Bytes × Connection} (h : Leaves a c r) :
    Network.SameLink c.close.network r.2.network := by
  cases h <;> exact ⟨rfl, rfl, rfl, rfl⟩

theorem sameLink_perform (c : Connection) {s : Step} (hs : s.closes = false) :
    Network.SameLink c.network (c.perform s).2.network := by
  cases s with
  | write payload =>
    cases payload with
    | bytes b => exact Network.sameLink_write none b c.network
    | _ => exact .refl _
  | readExactly size =>
    rw [perform]
    cases size.whole? with
    | some k => exact Network.sameLink_readExactly none k c.network
    | none => exact .refl _
  | read size =>
    cases size with
    | none => exact Network.sameLink_read none Network.blockSize c.network
    | some size =>
      rw [perform]
      cases size.whole? with
      | some k => exact Network.sameLink_read none k c.network
      | none => exact .refl _
  | awaitClosed => exact Network.sameLink_await none c.network.plan.closing c.network
  | keep => exact .refl _
  | close | leave => cases hs

/-- A step keeps the books, and closes the connection if it is one that does. -/
theorem Counts.perform (h : c.Counts a closed) (s : Step) : (c.perform s).2.Counts a (closed || s.closes) := by
  cases hs : s.closes with
  | false =>
    rw [Bool.or_false]
    exact h.of_sameLink (c.sameLink_perform hs)
  | true =>
    rw [Bool.or_true]
    cases s with
    | close => exact h.close
    | leave => exact h.close.of_sameLink (leaves_leave h.closing).sameLink
    | _ => cases hs

/-! ## Steps in a row -/

/-- By induction over the steps: each keeps the books that those before it left. -/
theorem Counts.after (h : c.Counts a closed) (steps : List Step) :
    (c.after steps).Counts a (closed || steps.any Step.closes) := by
  induction steps generalizing c closed with
  | nil => rwa [List.any_nil, Bool.or_false]
  | cons s steps ih =>
    have hrest := ih (h.perform s)
    rw [Bool.or_assoc, ← List.any_cons] at hrest
    exact hrest

/-- An attempt to connect ends as its action does. If it opens the connection, then after any steps closing was called
once if one of them closes or leaves and never otherwise, and the connection is closing in the same case. Leaving it at
that moment closes it before anything else, and fails only with an error that is none of input and output. -/
theorem closed_once (plan : Plan) (limit : Duration) (proxy : Endpoint) (steps : List Step) :
    let attempt := (start plan).enter limit proxy
    let c := attempt.2.after steps
    (∀ r, attempt.1 = r ↔ Opens limit plan.connecting r) ∧
    (attempt.1 = .ok () → c.network.isClosing = some (steps.any Step.closes) ∧
      c.network.closeCalls = (if steps.any Step.closes then 1 else 0) ∧ Leaves plan.closing c (c.perform .leave)) := by
  intro attempt c
  have hopens := opens_enter plan limit proxy
  refine ⟨fun r => ⟨fun h => h ▸ hopens, fun h => hopens.unique h⟩, fun hopen => ?_⟩
  have hbooks := (counts_enter hopen).after steps
  rw [Bool.false_or] at hbooks
  exact ⟨hbooks.isClosing, hbooks.closeCalls, leaves_leave hbooks.closing⟩

/-- A write that takes too long for nobody, a wait before closing, and closing twice while the peer resets. -/
theorem closed_once_reset :
    let reset : PeerError := .io (.ofWords .connectionReset [])
    let plan : Plan := ⟨⟨5, none, none⟩, [⟨some [1, 2], false, none, 0⟩], [⟨0, some reset, none⟩], [], ⟨3, some reset, none⟩⟩
    let steps : List Step := [.keep, .write (.bytes [7]), .awaitClosed, .leave, .read none, .close, .leave]
    let attempt := (start plan).enter .ten ⟨.text (.lit "proxy"), .int 1080⟩
    let c := attempt.2.after steps
    attempt.1 = .ok () ∧ c.network.isClosing = some true ∧ c.network.closeCalls = 1 ∧
      (c.perform .leave).1.isOk = true ∧ (attempt.2.after (steps.take 3)).network.closeCalls = 0 := by
  intro reset plan steps
  dsimp only
  obtain ⟨hopens, hrun⟩ := closed_once plan .ten ⟨.text (.lit "proxy"), .int 1080⟩ steps
  obtain ⟨-, hbefore⟩ := closed_once plan .ten ⟨.text (.lit "proxy"), .int 1080⟩ (steps.take 3)
  have hin : ¬ plan.connecting.TimesOut .ten := by
    rintro (hzero | hlate | ⟨-, he⟩)
    · exact absurd ((Duration.isZero_iff .ten).mpr hzero) (by decide +kernel)
    · rw [milliseconds_ten] at hlate
      exact absurd hlate (by decide +kernel)
    · cases he
  have hopen := (hopens _).mpr (.opened hin rfl)
  obtain ⟨hclosing, hcalls, hleaves⟩ := hrun hopen
  obtain ⟨-, hnever, -⟩ := hbefore hopen
  refine ⟨hopen, hclosing, hcalls, ?_, hnever⟩
  -- Only an error that is none of input and output is raised, and a reset is one of them.
  generalize perform _ .leave = r at hleaves ⊢
  rcases hleaves with - | - | ⟨he, hio⟩
  · rfl
  · rfl
  · cases he
    cases hio

end Connection

end SocksTunnel
