import SocksTunnel.Socks.Raw

/-
  SocksTunnel.Socks.Packet — a draft of any of the six messages, by the names that their
  layouts give to the fields. A field that the layout does not have is kept beside the
  draft, where it changes nothing.

  A reply of SOCKS5 is read part by part, all others as a whole.

  Proved: a field that is set leaves the kind of the message as it is (`kind_set`).
-/

namespace SocksTunnel

/-- The six messages. -/
inductive PacketKind where
  | socks4Request
  | socks4Reply
  | greeting
  | methodReply
  | socks5Request
  | socks5Reply
  deriving DecidableEq, Repr

inductive Draft where
  | socks4Request (d : Socks4RequestDraft)
  | socks4Reply (d : Socks4ReplyDraft)
  | greeting (d : GreetingDraft)
  | methodReply (d : MethodReplyDraft)
  | socks5Request (d : Socks5RequestDraft)
  | socks5Reply (d : Socks5ReplyDraft)
  deriving Repr

namespace Draft

def kind : Draft → PacketKind
  | socks4Request _ => .socks4Request
  | socks4Reply _ => .socks4Reply
  | greeting _ => .greeting
  | methodReply _ => .methodReply
  | socks5Request _ => .socks5Request
  | socks5Reply _ => .socks5Reply

/-! ## Fields -/

def fields : Draft → List (String × Value)
  | socks4Request d =>
    [("vn", d.version), ("cd", d.command), ("dstport", d.port), ("dstip", d.address), ("userid", d.user)]
  | socks4Reply d => [("vn", d.version), ("cd", d.status), ("dstport", d.port), ("dstip", d.address)]
  | greeting d => [("ver", d.version), ("methods", d.methods)]
  | methodReply d => [("ver", d.version), ("method", d.method)]
  | socks5Request d =>
    [("ver", d.version), ("cmd", d.command), ("rsv", d.reserved), ("dstaddr", d.destination), ("dstport", d.port)]
  | socks5Reply d =>
    [("ver", d.version), ("rep", d.status), ("rsv", d.reserved), ("atyp", d.type), ("bndaddr", d.address),
      ("bndport", d.port), ("_domain_length", d.nameLength)]

/-- Sets a field, if the layout has one of this name. -/
def set? (d : Draft) (name : String) (v : Value) : Option Draft :=
  match d, name with
  | socks4Request d, "vn" => some (socks4Request { d with version := v })
  | socks4Request d, "cd" => some (socks4Request { d with command := v })
  | socks4Request d, "dstport" => some (socks4Request { d with port := v })
  | socks4Request d, "dstip" => some (socks4Request { d with address := v })
  | socks4Request d, "userid" => some (socks4Request { d with user := v })
  | socks4Reply d, "vn" => some (socks4Reply { d with version := v })
  | socks4Reply d, "cd" => some (socks4Reply { d with status := v })
  | socks4Reply d, "dstport" => some (socks4Reply { d with port := v })
  | socks4Reply d, "dstip" => some (socks4Reply { d with address := v })
  | greeting d, "ver" => some (greeting { d with version := v })
  | greeting d, "methods" => some (greeting { d with methods := v })
  | methodReply d, "ver" => some (methodReply { d with version := v })
  | methodReply d, "method" => some (methodReply { d with method := v })
  | socks5Request d, "ver" => some (socks5Request { d with version := v })
  | socks5Request d, "cmd" => some (socks5Request { d with command := v })
  | socks5Request d, "rsv" => some (socks5Request { d with reserved := v })
  | socks5Request d, "dstaddr" => some (socks5Request { d with destination := v })
  | socks5Request d, "dstport" => some (socks5Request { d with port := v })
  | socks5Reply d, "ver" => some (socks5Reply { d with version := v })
  | socks5Reply d, "rep" => some (socks5Reply { d with status := v })
  | socks5Reply d, "rsv" => some (socks5Reply { d with reserved := v })
  | socks5Reply d, "atyp" => some (socks5Reply { d with type := v })
  | socks5Reply d, "bndaddr" => some (socks5Reply { d with address := v })
  | socks5Reply d, "bndport" => some (socks5Reply { d with port := v })
  | socks5Reply d, "_domain_length" => some (socks5Reply { d with nameLength := v })
  | _, _ => none

/-! ## Writing and reading -/

def write : Draft → Except Fault Bytes
  | socks4Request d => d.write
  | socks4Reply d => d.write
  | greeting d => d.write
  | methodReply d => d.write
  | socks5Request d => d.write
  | socks5Reply d => d.write

/-- Applies a reading to the draft inside. -/
def lift (f : α → Draft) (r : Reading α) : Reading Draft := (f r.1, r.2)

/-- A reading that the message does not have. -/
def unknown (d : Draft) : Reading Draft := (d, .error (.fault .noSuchPart))

/-- Reads the draft as a whole. -/
def read (d : Draft) (raw : Value) : Reading Draft :=
  match d with
  | socks4Request d => lift socks4Request (d.readRaw raw)
  | socks4Reply d => lift socks4Reply (d.readRaw raw)
  | greeting d => lift greeting (d.readRaw raw)
  | methodReply d => lift methodReply (d.readRaw raw)
  | socks5Request d => lift socks5Request (d.readRaw raw)
  | d => d.unknown

/-- The parts of a reply of SOCKS5, in their order. -/
inductive Part where
  | header
  | addressLength
  | address
  | port
  deriving DecidableEq, Repr

def readPart (d : Draft) (part : Part) (raw : Value) : Reading Draft :=
  match d, part with
  | socks5Reply d, .header => lift socks5Reply (d.readHeaderRaw raw)
  | socks5Reply d, .addressLength => lift socks5Reply (d.readAddressLengthRaw raw)
  | socks5Reply d, .address => lift socks5Reply (d.readAddressRaw raw)
  | socks5Reply d, .port => lift socks5Reply (d.readPortRaw raw)
  | d, _ => d.unknown

/-- How many octets of the address come next. -/
def addressLength : Draft → Except Fault Value
  | socks5Reply d => d.addressLength
  | _ => .error .noSuchPart

/-- A new draft of a kind from the settings that it starts with. -/
def ofSettings : PacketKind → List Value → Except Fault Draft
  | .socks4Request, [] => .ok (socks4Request .blank)
  | .socks4Reply, [] => .ok (socks4Reply .blank)
  | .greeting, [] => .ok (greeting (.offering .nothing))
  | .greeting, [methods] => .ok (greeting (.offering methods))
  | .methodReply, [] => .ok (methodReply (.choosing .nothing))
  | .methodReply, [method] => .ok (methodReply (.choosing method))
  | .socks5Request, [] => .ok (socks5Request (.of .nothing .nothing .nothing))
  | .socks5Request, [command] => .ok (socks5Request (.of command .nothing .nothing))
  | .socks5Request, [command, dest] => .ok (socks5Request (.of command dest .nothing))
  | .socks5Request, [command, dest, port] => .ok (socks5Request (.of command dest port))
  | .socks5Reply, [] => .ok (socks5Reply .blank)
  | _, _ => .error .wrongType

theorem kind_set {d e : Draft} {name : String} {v : Value} (h : d.set? name v = some e) : e.kind = d.kind := by
  unfold set? at h
  split at h <;> simp only [Option.some.injEq, reduceCtorEq] at h <;> subst h <;> rfl

end Draft

structure Packet where
  draft : Draft
  /-- Fields that the layout does not have. -/
  others : List (String × Value)
  deriving Repr

namespace Packet

def ofSettings (k : PacketKind) (vs : List Value) : Except Fault Packet := do .ok ⟨← Draft.ofSettings k vs, []⟩

def fields (p : Packet) : List (String × Value) := p.draft.fields ++ p.others

def set (p : Packet) (name : String) (v : Value) : Packet :=
  match p.draft.set? name v with
  | some d => { p with draft := d }
  | none => { p with others := p.others.filter (·.1 != name) ++ [(name, v)] }

def write (p : Packet) : Except Fault Bytes := p.draft.write

/-- Applies a reading to the draft. -/
def through (p : Packet) (r : Reading Draft) : Reading Packet := ({ p with draft := r.1 }, r.2)

def read (p : Packet) (raw : Value) : Reading Packet := p.through (p.draft.read raw)

def readPart (p : Packet) (part : Draft.Part) (raw : Value) : Reading Packet := p.through (p.draft.readPart part raw)

/-- Writes the packet and reads it into a new one, which takes its place if both succeed. -/
def rewritten (p : Packet) : Reading Packet :=
  match p.write, ofSettings p.draft.kind [] with
  | .error f, _ => (p, .error (.fault f))
  | _, .error f => (p, .error (.fault f))
  | .ok b, .ok fresh =>
    match fresh.read (.bytes b) with
    | (q, .ok _) => (q, .ok ())
    | (_, .error f) => (p, .error f)

end Packet

end SocksTunnel
