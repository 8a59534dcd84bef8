import SocksTunnel.Proofs.Failure.Chain
import SocksTunnel.Proofs.Socks.RequestCodec

/-
  SocksTunnel.Proofs.Socks.DestinationWhole — a destination as two fields that are set one by one,
  the code of its address type and its address. Nothing in the fields keeps them together: they
  are written under assertions, and a length that is no octet could not be written at all.

  Proved: each way to make a destination sets the fields of the destination that it makes
  (`Origin.draft_eq`), and those of any destination are whole (`isWhole_iff`): they pass their
  assertions, are written as its encoding and have its size. That size is never zero, and a setting
  with a size counts as given unless it is zero (`Value.isGiven_of_size`), so no default takes the
  place of a destination (`origin_whole`). Octets that are no destination are a bad value.
-/

namespace SocksTunnel

/-! ## Settings -/

namespace Value

/-- Settings that are a row of several where a message shows one: tuples, and timeouts, which are a tuple too. -/
def isRow : Value → Bool
  | tuple _ => true
  | timeouts _ => true
  | _ => false

/-- What has a size counts as given unless that is zero. -/
theorem isGiven_of_size {v : Value} {n : Nat} (h : v.size? = some n) : v.isGiven = decide (n ≠ 0) := by
  cases v with
  | text t => cases h; cases t <;> rfl
  | bytes b => cases h; cases b <;> rfl
  | list items => cases h; cases items <;> rfl
  | tuple items => cases h; cases items <;> rfl
  | timeouts t => cases h; rfl
  | destination d =>
    cases h
    have := d.length_bounds
    exact (decide_eq_true (by omega)).symm
  | broken b =>
    cases h
    obtain ⟨s, hs⟩ := b.exists_surrogate
    exact (decide_eq_true (Nat.pos_iff_ne_zero.mp (List.length_pos_of_mem hs))).symm
  | nothing | bool _ | int _ | real _ | ipv4 _ | ipv6 _ => cases h

theorem sameWhole_unique {m n : Int} {v : Value} (hm : sameWhole m v = true) (hn : sameWhole n v = true) : m = n := by
  cases v with
  | bool b => exact (beq_iff_eq.mp hm).trans (beq_iff_eq.mp hn).symm
  | int k => exact (beq_iff_eq.mp hm).trans (beq_iff_eq.mp hn).symm
  | real x =>
    simp only [sameWhole, Binary64.sameInt, Bool.and_eq_true, beq_iff_eq] at hm hn
    exact hm.1.2.symm.trans hn.1.2
  | _ => cases hm

end Value

/-! ## Fields -/

/-- The two fields of a destination, as settings. -/
structure DestinationDraft where
  type : Value
  address : Value
  deriving Repr

namespace DestinationDraft

/-- Fields that hold together. -/
inductive IsWhole : DestinationDraft → Prop
  | ipv4 (a : Ipv4) : IsWhole ⟨.int 1, .ipv4 a⟩
  | ipv6 (a : Ipv6) : IsWhole ⟨.int 4, .ipv6 a⟩
  | name {b : Bytes} (h : 1 ≤ b.length ∧ b.length ≤ 255) : IsWhole ⟨.int 3, .bytes b⟩

def isName (x : DestinationDraft) : Bool := Value.sameWhole 3 x.type

/-- The octets of an address. -/
def addressOctets : Value → Except Fault Bytes
  | .ipv4 a => .ok a.toBytes
  | .ipv6 a => .ok a.toBytes
  | _ => .error .noSuchPart

def write (x : DestinationDraft) : Except Fault Bytes :=
  if x.isName then
    match x.address with
    | .bytes b => do .ok ((← Value.octetsOf [x.type, .int b.length]) ++ b)
    | _ => .error .unmet
  else
    match x.address with
    | .bytes _ => .error .unmet
    | v => do
      let head ← Value.octetsOf [x.type]
      .ok (head ++ (← addressOctets v))

/-- The size of the encoding, by the type alone where the address is no name. -/
def size (x : DestinationDraft) : Except Fault Nat :=
  if x.isName then x.address.size.map (2 + ·) else .ok (1 + if Value.sameWhole 1 x.type then 4 else 16)

/-! ## Making them -/

def ofName (name : Value) : Except Fault DestinationDraft := do
  match ← name.toBytes with
  | .bytes b =>
    if 1 ≤ b.length ∧ b.length ≤ maxNameLength then .ok ⟨.int 3, .bytes b⟩
    else .error (.destination (.nameLength b.length))
  | _ => .error (.unsupportedDestination name)

def address? (t : Text) : Option DestinationDraft :=
  let bare := t.strip Destination.isBracket
  match Ipv4.parse? bare with
  | some a => some ⟨.int 1, .ipv4 a⟩
  | none => (Ipv6.parse? bare).map fun a => ⟨.int 4, .ipv6 a⟩

/-- The address that a text is, or else the name that the setting is. -/
def ofText (t : Text) (name : Value) : Except Fault DestinationDraft :=
  match address? t with
  | some x => .ok x
  | none => ofName name

/-- An address is taken as it is, and anything that has text goes by its text, which may be broken. -/
def ofSetting : Value → Except Fault DestinationDraft
  | .ipv4 a => .ok ⟨.int 1, .ipv4 a⟩
  | .ipv6 a => .ok ⟨.int 4, .ipv6 a⟩
  | .broken b => ofText b.plain (.broken b)
  | v =>
    match v.toText with
    | .ok (.text t) => ofText t v
    | .ok _ => .error .noSuchPart
    | .error _ => ofName v

/-- The fields of an address type and its payload; a name has its length in front. -/
def unpack (type : Value) (raw : Bytes) : Except Fault DestinationDraft :=
  if Value.sameWhole 1 type then do ofSetting (.ipv4 (← Value.rawIpv4 (.bytes raw)))
  else if Value.sameWhole 4 type then do ofSetting (.ipv6 (← Value.rawIpv6 (.bytes raw)))
  else if Value.sameWhole 3 type then
    match raw with
    | [] => .error (.destination .lengthOctet)
    | n :: name => if n.toNat ≠ name.length then .error (.destination .lengthOctet) else ofName (.bytes name)
  else if type.isRow then .error .wrongType
  else .error (.addressType type)

end DestinationDraft

namespace Destination

open DestinationDraft

variable {d : Destination} {x : DestinationDraft}

/-- The fields of a destination. -/
def draft : Destination → DestinationDraft
  | ipv4 a => ⟨.int 1, .ipv4 a⟩
  | ipv6 a => ⟨.int 4, .ipv6 a⟩
  | domain name _ => ⟨.int 3, .bytes name⟩

/-! ## Fields that hold together -/

theorem isWhole_iff : x.IsWhole ↔ ∃ d : Destination, d.draft = x := by
  constructor
  · rintro (a | a | h)
    · exact ⟨ipv4 a, rfl⟩
    · exact ⟨ipv6 a, rfl⟩
    · exact ⟨domain _ h, rfl⟩
  · rintro ⟨a | a | ⟨name, h⟩, rfl⟩
    · exact .ipv4 a
    · exact .ipv6 a
    · exact .name h

/-- The assertions hold, and the length of a name is an octet. -/
theorem write_draft (d : Destination) : d.draft.write = .ok d.encode := by
  cases d with
  | ipv4 a =>
    have hhead : Value.octetsOf [.int 1] = .ok [1] := Value.octetsOf_map [1]
    show (do .ok ((← Value.octetsOf [.int 1]) ++ a.toBytes)) = _
    rw [hhead]
    rfl
  | ipv6 a =>
    have hhead : Value.octetsOf [.int 4] = .ok [4] := Value.octetsOf_map [4]
    show (do .ok ((← Value.octetsOf [.int 4]) ++ a.toBytes)) = _
    rw [hhead]
    rfl
  | domain name h =>
    have hlength : Value.int name.length = .ofOctet (UInt8.ofNat name.length) := by
      rw [Value.ofOctet, toNat_ofNat_length h.2]
    have hhead : Value.octetsOf [.int 3, .int name.length] = .ok [3, UInt8.ofNat name.length] := by
      rw [hlength]
      exact Value.octetsOf_map [3, UInt8.ofNat name.length]
    show (do .ok ((← Value.octetsOf [.int 3, .int name.length]) ++ name)) = _
    rw [hhead]
    rfl

theorem size_draft (d : Destination) : d.draft.size = .ok d.encode.length := by
  rw [length_encode]
  cases d <;> rfl

/-! ## Ways to make one -/

theorem ofName_eq (v : Value) : DestinationDraft.ofName v = v.toName.map draft := by
  unfold DestinationDraft.ofName Value.toName
  cases v.toBytes with
  | error f => rfl
  | ok u =>
    cases u with
    | bytes b =>
      show (if 1 ≤ b.length ∧ b.length ≤ maxNameLength then _ else _) =
        ((Destination.ofName b).mapError Fault.destination).map draft
      unfold Destination.ofName maxNameLength
      split <;> rfl
    | _ => rfl

theorem address?_eq (t : Text) : DestinationDraft.address? t = (Destination.address? t).map draft := by
  unfold DestinationDraft.address? Destination.address?
  dsimp only
  cases Ipv4.parse? (t.strip isBracket) with
  | some a => rfl
  | none => cases Ipv6.parse? (t.strip isBracket) <;> rfl

theorem ofText_eq (t : Text) {v : Value} {b : Bytes} (hv : v.toBytes = .ok (.bytes b)) : DestinationDraft.ofText t v =
    (Except.mapError Fault.destination (match Destination.address? t with
      | some d => .ok d
      | none => Destination.ofName b)).map draft := by
  rw [DestinationDraft.ofText, address?_eq, ofName_eq, Value.toName, hv]
  cases Destination.address? t <;> rfl

/-- Only what has text goes on to be read, and its name is in its octets. -/
theorem ofSetting_eq (v : Value) : DestinationDraft.ofSetting v = v.toDestination.map draft := by
  cases v with
  | text t => exact ofText_eq t (Value.toBytes_text t)
  | bool b => exact ofText_eq (Value.bool b).shown (v := .bool b) rfl
  | int n => exact ofText_eq (.ofInt n) (v := .int n) rfl
  | bytes b =>
    rw [Value.toDestination, Destination.ofBytes]
    unfold DestinationDraft.ofSetting Value.toText
    dsimp only
    cases Text.ofUtf8 b with
    | error u => exact ofName_eq (.bytes b)
    | ok t => exact ofText_eq t (Value.toBytes_bytes b)
  | broken b =>
    show DestinationDraft.ofText b.plain (.broken b) = _
    rw [DestinationDraft.ofText, address?_eq, Value.toDestination]
    cases Destination.address? b.plain <;> rfl
  | _ => rfl

theorem unpack_eq (type : Value) (raw : Bytes) :
    DestinationDraft.unpack type raw = (Value.unpack type (.bytes raw)).map draft := by
  unfold DestinationDraft.unpack Value.unpack
  split
  · cases Value.rawIpv4 (.bytes raw) <;> rfl
  split
  · cases Value.rawIpv6 (.bytes raw) <;> rfl
  split
  · cases raw with
    | nil => rfl
    | cons n name =>
      show (if n.toNat ≠ name.length then _ else _) =
        ((Destination.decode .domain (n :: name)).mapError Fault.destination).map draft
      rw [ite_not, ofName_eq, Destination.decode]
      split <;> rfl
  · cases type <;> rfl

/-- Ways to make a destination: from a setting, by name alone, or from the code of a type and a payload. -/
inductive Origin where
  | text (t : Text)
  | broken (b : BrokenText)
  | data (b : Bytes)
  | ipv4 (a : Ipv4)
  | ipv6 (a : Ipv6)
  | nameText (t : Text)
  | nameBroken (b : BrokenText)
  | nameData (b : Bytes)
  | payload (type : Value) (raw : Bytes)

namespace Origin

def destination : Origin → Except Fault Destination
  | text t => (Value.text t).toDestination
  | broken b => (Value.broken b).toDestination
  | data b => (Value.bytes b).toDestination
  | ipv4 a => (Value.ipv4 a).toDestination
  | ipv6 a => (Value.ipv6 a).toDestination
  | nameText t => (Value.text t).toName
  | nameBroken b => (Value.broken b).toName
  | nameData b => (Value.bytes b).toName
  | payload type raw => Value.unpack type (.bytes raw)

/-- The fields that are set on the way. -/
def draft : Origin → Except Fault DestinationDraft
  | text t => DestinationDraft.ofSetting (.text t)
  | broken b => DestinationDraft.ofSetting (.broken b)
  | data b => DestinationDraft.ofSetting (.bytes b)
  | ipv4 a => DestinationDraft.ofSetting (.ipv4 a)
  | ipv6 a => DestinationDraft.ofSetting (.ipv6 a)
  | nameText t => DestinationDraft.ofName (.text t)
  | nameBroken b => DestinationDraft.ofName (.broken b)
  | nameData b => DestinationDraft.ofName (.bytes b)
  | payload type raw => DestinationDraft.unpack type raw

theorem draft_eq (o : Origin) : o.draft = o.destination.map Destination.draft := by
  cases o with
  | payload type raw => exact unpack_eq type raw
  | nameText t => exact ofName_eq (.text t)
  | nameBroken b => exact ofName_eq (.broken b)
  | nameData b => exact ofName_eq (.bytes b)
  | text t => exact ofSetting_eq (.text t)
  | broken b => exact ofSetting_eq (.broken b)
  | data b => exact ofSetting_eq (.bytes b)
  | ipv4 a | ipv6 a => rfl

end Origin

end Destination

/-! ## Payloads -/

namespace Value

open Destination

variable {type : Value} {raw : Bytes} {d : Destination}

/-- A type is whatever is the same number as its code. -/
theorem unpack_of_code {t : AddressType} (ht : sameWhole t.code.toNat type = true) (raw : Bytes) :
    unpack type (.bytes raw) = unpack (.ofOctet t.code) (.bytes raw) := by
  -- Both sides ask for the code of each type, and find the same one.
  have hcode (u : AddressType) : sameWhole u.code.toNat type = sameWhole u.code.toNat (.ofOctet t.code) := by
    rw [Bool.eq_iff_iff, Steps.sameWhole_ofOctet]
    exact ⟨fun hu => UInt8.toNat_inj.mp (Int.ofNat_inj.mp (sameWhole_unique hu ht)), fun hu => hu ▸ ht⟩
  have h1 : sameWhole 1 type = sameWhole 1 (.ofOctet t.code) := hcode .ipv4
  have h4 : sameWhole 4 type = sameWhole 4 (.ofOctet t.code) := hcode .ipv6
  have h3 : sameWhole 3 type = sameWhole 3 (.ofOctet t.code) := hcode .domain
  unfold unpack
  rw [h1, h4, h3]
  cases t <;> rfl

theorem unpack_of_no_code (h : ∀ t : AddressType, sameWhole t.code.toNat type = false) (raw : Bytes) :
    unpack type (.bytes raw) = .error (if type.isRow then .wrongType else .addressType type) := by
  have h1 : sameWhole 1 type = false := h .ipv4
  have h4 : sameWhole 4 type = false := h .ipv6
  have h3 : sameWhole 3 type = false := h .domain
  unfold unpack
  rw [h1, h4, h3]
  cases type <;> rfl

/-- A payload is that of the destination that it is unpacked as, which has the type and no scope. -/
theorem unpack_bytes_eq_ok_iff : unpack type (.bytes raw) = .ok d ↔
    sameWhole d.type.code.toNat type = true ∧ d.unscoped = d ∧ d.payload = raw := by
  by_cases h : ∃ t : AddressType, sameWhole t.code.toNat type = true
  · obtain ⟨t, ht⟩ := h
    rw [unpack_of_code ht, unpack_eq_ok_iff, Destination.encode, List.cons.injEq]
    constructor
    · rintro ⟨hu, hc, hp⟩
      exact ⟨hc ▸ ht, hu, hp⟩
    · rintro ⟨hs, hu, hp⟩
      exact ⟨hu, UInt8.toNat_inj.mp (Int.ofNat_inj.mp (sameWhole_unique hs ht)), hp⟩
  · have hno (t : AddressType) : sameWhole t.code.toNat type = false := Bool.eq_false_iff.mpr fun ht => h ⟨t, ht⟩
    rw [unpack_of_no_code hno]
    constructor
    · intro hok
      cases hok
    · intro hd
      exact absurd ⟨d.type, hd.1⟩ h

/-- Whatever else is unpacked is a bad value. -/
theorem unpack_failsOnly (hrow : type.isRow = false) (raw : Bytes) :
    Except.FailsOnly (fun f : Fault => f.isBadValue = true) (unpack type (.bytes raw)) := by
  by_cases h : ∃ t : AddressType, sameWhole t.code.toNat type = true
  · obtain ⟨t, ht⟩ := h
    rw [unpack_of_code ht]
    have hx := unpack_ofOctet t.code raw
    cases hd : decodeCode t.code.toNat raw with
    | ok d =>
      rw [hd] at hx
      rw [show unpack (.ofOctet t.code) (.bytes raw) = .ok d from hx]
      exact .ok d
    | error e =>
      rw [hd] at hx
      obtain ⟨f, hf, hbad⟩ := hx
      rw [hf]
      exact .error hbad
  · have hno (t : AddressType) : sameWhole t.code.toNat type = false := Bool.eq_false_iff.mpr fun ht => h ⟨t, ht⟩
    rw [unpack_of_no_code hno, hrow, if_neg Bool.false_ne_true]
    exact .error rfl

end Value

/-! ## Replies -/

theorem Value.length_octetsOf {vs : List Value} {b : Bytes} (h : octetsOf vs = .ok b) : b.length = vs.length := by
  induction vs generalizing b with
  | nil =>
    cases h
    rfl
  | cons v vs ih =>
    obtain ⟨o, -, h⟩ := Except.bind_eq_ok_iff.mp h
    obtain ⟨os, hos, h⟩ := Except.bind_eq_ok_iff.mp h
    cases h
    exact congrArg (· + 1) (ih hos)

theorem Value.length_layoutWord {v : Value} {b : Bytes} (h : v.layoutWord = .ok b) : b.length = 2 := by
  unfold layoutWord at h
  split at h
  · split at h
    · cases h
      rfl
    · cases h
  · cases h

/-- A reply with an address is written around the encoding of that one. -/
theorem Socks5ReplyDraft.write_destination {r : Socks5ReplyDraft} {d : Destination} {raw : Bytes}
    (ha : r.address = .destination d) (hw : r.write = .ok raw) :
    ∃ head port : Bytes, head.length = 3 ∧ port.length = 2 ∧ raw = head ++ d.encode ++ port := by
  rw [write, ha] at hw
  obtain ⟨-, -, hw⟩ := Except.bind_eq_ok_iff.mp hw
  obtain ⟨head, hhead, hw⟩ := Except.bind_eq_ok_iff.mp hw
  obtain ⟨address, haddress, hw⟩ := Except.bind_eq_ok_iff.mp hw
  obtain ⟨port, hport, hw⟩ := Except.bind_eq_ok_iff.mp hw
  cases haddress
  cases hw
  exact ⟨head, port, Value.length_octetsOf hhead, Value.length_layoutWord hport, rfl⟩

namespace Destination

/-- What a destination and its fields keep to, and a reply with it as its bound address. -/
structure Keeps (d : Destination) (x : DestinationDraft) : Prop where
  draft : d.draft = x
  whole : x.IsWhole
  write : x.write = .ok d.encode
  size : x.size = .ok d.encode.length
  bounds : 3 ≤ d.encode.length ∧ d.encode.length ≤ 257
  sized : (Value.destination d).size? = some d.encode.length
  given : (Value.destination d).isGiven = true
  reply : ∀ (r : Socks5ReplyDraft) (raw : Bytes), r.address = .destination d → r.write = .ok raw →
    ∃ head port : Bytes, head.length = 3 ∧ port.length = 2 ∧ raw = head ++ d.encode ++ port

theorem keeps_draft (d : Destination) : Keeps d d.draft := by
  have hsized : (Value.destination d).size? = some d.encode.length := congrArg some d.length_encode.symm
  have hbounds : 3 ≤ d.encode.length ∧ d.encode.length ≤ 257 := d.length_encode ▸ d.length_bounds
  refine ⟨rfl, isWhole_iff.mpr ⟨d, rfl⟩, write_draft d, size_draft d, hbounds, hsized, ?_, fun r raw => ?_⟩
  · rw [Value.isGiven_of_size hsized]
    exact decide_eq_true (by omega)
  · exact Socks5ReplyDraft.write_destination

/-- However the fields of a destination are set, they are whole and those of a destination that keeps to all of this, and
a destination comes with its fields. A payload is unpacked exactly as the destination that has it, by the code of its type,
and is a bad value if there is none, where one value and no row of several stands for the type. -/
theorem origin_whole :
    (∀ (o : Origin) (x : DestinationDraft), o.draft = .ok x → ∃ d, o.destination = .ok d ∧ Keeps d x) ∧
    (∀ (o : Origin) (d : Destination), o.destination = .ok d → o.draft = .ok d.draft ∧ Keeps d d.draft) ∧
    (∀ (type : Value) (raw : Bytes) (d : Destination), (Origin.payload type raw).destination = .ok d ↔
      Value.sameWhole d.type.code.toNat type = true ∧ d.unscoped = d ∧ d.payload = raw) ∧
    ∀ (type : Value) (raw : Bytes) (f : Fault), type.isRow = false →
      (Origin.payload type raw).destination = .error f → f.isBadValue = true := by
  refine ⟨fun o x hx => ?_, fun o d hd => ?_, fun type raw d => Value.unpack_bytes_eq_ok_iff, fun type raw f hrow hf => ?_⟩
  · rw [o.draft_eq] at hx
    obtain ⟨d, hd, rfl⟩ := Except.map_eq_ok_iff.mp hx
    exact ⟨d, hd, keeps_draft d⟩
  · rw [o.draft_eq, hd]
    exact ⟨rfl, keeps_draft d⟩
  · exact Value.unpack_failsOnly hrow raw f hf

/-- A name in a payload and its reply, and a payload whose first octet is not the length of the rest. -/
theorem origin_whole_name :
    let name := domain [97, 98] (by decide)
    let r : Socks5ReplyDraft := ⟨.int 5, .int 0, .int 0, .nothing, .destination name, .int 80, .nothing⟩
    (Origin.payload (.int 3) [2, 97, 98]).draft = .ok ⟨.int 3, .bytes [97, 98]⟩ ∧
      Keeps name ⟨.int 3, .bytes [97, 98]⟩ ∧ r.write = .ok [5, 0, 0, 3, 2, 97, 98, 0, 80] ∧
      (∃ head port : Bytes, head.length = 3 ∧ port.length = 2 ∧
        [5, 0, 0, 3, 2, 97, 98, 0, 80] = head ++ name.encode ++ port) ∧
      (Fault.destination .lengthOctet).isBadValue = true := by
  intro name r
  obtain ⟨hfields, hdestination, hpayload, herror⟩ := origin_whole
  have hdraft : (Origin.payload (.int 3) [2, 97, 98]).draft = .ok ⟨.int 3, .bytes [97, 98]⟩ := rfl
  obtain ⟨d, hd, hkeeps⟩ := hfields _ _ hdraft
  have hname : (Origin.payload (.int 3) [2, 97, 98]).destination = .ok name := (hpayload _ _ _).mpr ⟨rfl, rfl, rfl⟩
  obtain rfl : d = name := Except.ok.inj (hd.symm.trans hname)
  have hwrite : r.write = .ok [5, 0, 0, 3, 2, 97, 98, 0, 80] := rfl
  have hbad := herror (.int 3) [1, 97, 98] (.destination .lengthOctet) rfl rfl
  exact ⟨hdraft, hkeeps, hwrite, (hdestination _ _ hname).2.reply r _ rfl hwrite, hbad⟩

end Destination

end SocksTunnel
