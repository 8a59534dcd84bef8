import SocksTunnel.Handshake.Exchange
import SocksTunnel.Transport

/-
  SocksTunnel.Handshake.Session — one handshake over a stream: every write is bounded by
  the write timeout and every read by the read timeout, each for itself. A timeout of zero
  fails before the stream is touched. A session counts the octets that it has sent and
  received and keeps the entries for the log; it retries nothing.

  Proved: a failed operation changes neither count nor log (`send_error`,
  `receive_error`), and one that succeeds adds its octets (`send_ok`, `receive_ok`).
-/

namespace SocksTunnel

structure Session (σ : Type) where
  stream : σ
  sent : Nat
  received : Nat
  entries : List Entry

/-- The limit of a phase has passed. -/
def HandshakeError.expired (p : Phase) (limit : Duration) : HandshakeError := .timeout p limit

namespace Failure

/-- What an error of the stream means for a write or a read: an operation that timed out by itself
counts as one that was cut off, and errors that are not of input and output stay what they are. -/
def ofPeer (p : Phase) (limit : Duration) (e : PeerError) : Failure :=
  if e.isTimeout then handshake (.expired p limit)
  else if e.isIo then handshake (.transport e)
  else peer e

/-- What an error of a read of `n` octets means. -/
def ofRead (limit : Duration) (n : Int) : PeerError → Failure
  | .incomplete part _ => handshake (.endOfStream n part.length)
  | e => ofPeer .read limit e

end Failure

namespace Session

variable {σ : Type} [Transport σ]

def start (stream : σ) : Session σ := ⟨stream, 0, 0, []⟩

def write (limit : Duration) (payload : Bytes) (stream : σ) : Except Failure Unit × σ :=
  if limit.isZero then (.error (.handshake (.expired .write limit)), stream)
  else
    match Transport.write limit.milliseconds payload stream with
    | (.done _, t) => (.ok (), t)
    | (.expired, t) => (.error (.handshake (.expired .write limit)), t)
    | (.failed e, t) => (.error (.ofPeer .write limit e), t)

/-- Exactly `n` octets, whatever the stream returns. -/
def exactly (n : Int) (data : Bytes) : Except Failure Bytes :=
  if (data.length : Int) < n then .error (.handshake (.endOfStream n data.length))
  else if n < data.length then .error (.handshake (.malformed (.oversized n data.length)))
  else .ok data

def read (limit : Duration) (n : Int) (stream : σ) : Except Failure Bytes × σ :=
  if limit.isZero then (.error (.handshake (.expired .read limit)), stream)
  else
    match Transport.read limit.milliseconds n stream with
    | (.done data, t) => (exactly n data, t)
    | (.expired, t) => (.error (.handshake (.expired .read limit)), t)
    | (.failed e, t) => (.error (.ofRead limit n e), t)

def note (s : Session σ) (e : Entry) : Session σ := { s with entries := s.entries ++ [e] }

def send (limit : Duration) (payload : Bytes) (s : Session σ) : Except Failure Unit × Session σ :=
  match write limit payload s.stream with
  | (.ok _, t) => (.ok (), note { s with stream := t, sent := s.sent + payload.length } (.sent payload.length))
  | (.error f, t) => (.error f, { s with stream := t })

def receive (limit : Duration) (n : Int) (s : Session σ) : Except Failure Bytes × Session σ :=
  match read limit n s.stream with
  | (.ok data, t) =>
    (.ok data, note { s with stream := t, received := s.received + data.length } (.received data.length))
  | (.error f, t) => (.error f, { s with stream := t })

/-- Carries out an exchange to its end or to the first failure. -/
def run (t : Timeouts) : Exchange → Session σ → Except Failure Unit × Session σ
  | .done e, s => (.ok (), s.note e)
  | .fail none f, s => (.error (.handshake f), s)
  | .fail (some e) f, s => (.error (.handshake f), s.note e)
  | .send payload next, s =>
    match s.send t.write payload with
    | (.ok _, s) => run t next s
    | (.error f, s) => (.error f, s)
  | .receive n next, s =>
    match s.receive t.read n with
    | (.ok data, s) => run t (next data) s
    | (.error f, s) => (.error f, s)

/-! ## Counts -/

theorem send_error {limit : Duration} {payload : Bytes} {s : Session σ} {f : Failure}
    (h : (s.send limit payload).1 = .error f) :
    (s.send limit payload).2 = { s with stream := (write limit payload s.stream).2 } := by
  unfold send at h ⊢
  split at h <;> simp_all

theorem send_ok {limit : Duration} {payload : Bytes} {s : Session σ} (h : (s.send limit payload).1 = .ok ()) :
    (s.send limit payload).2.sent = s.sent + payload.length ∧
      (s.send limit payload).2.entries = s.entries ++ [.sent payload.length] := by
  unfold send at h ⊢
  split at h <;> simp_all [note]

theorem receive_error {limit : Duration} {n : Int} {s : Session σ} {f : Failure}
    (h : (s.receive limit n).1 = .error f) :
    (s.receive limit n).2 = { s with stream := (read limit n s.stream).2 } := by
  unfold receive at h ⊢
  split at h <;> simp_all

theorem exactly_eq_ok {n : Int} {data b : Bytes} (h : exactly n data = .ok b) : b = data ∧ (b.length : Int) = n := by
  unfold exactly at h
  split at h
  · cases h
  · split at h
    · cases h
    · cases h
      exact ⟨rfl, by omega⟩

theorem receive_ok {limit : Duration} {n : Int} {s : Session σ} {data : Bytes}
    (h : (s.receive limit n).1 = .ok data) :
    (s.receive limit n).2.received = s.received + data.length ∧
      (s.receive limit n).2.entries = s.entries ++ [.received data.length] := by
  unfold receive at h ⊢
  split at h <;> simp_all [note]

end Session

end SocksTunnel
