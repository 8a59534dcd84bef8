import SocksTunnel.Coding.CharacterName
import SocksTunnel.Coding.Utf8

/-
  SocksTunnel.Coding.Policy — what to do about the defects of a coding, and reading and
  writing piece by piece under a policy.

  A policy is named by those who read or write, and looked up at the first defect. It
  refuses the defect, leaves it out, or puts something in its place: a replacement, an
  escape by number or name, surrogates that stand for octets, or octets that stand for
  surrogates. For writing, text that takes the place of signs has to be written in the same
  coding.

  Proved: octets without a defect need no policy (`read_codes`), and a policy that is known refuses
  nothing but signs without octets (`writeFrom_error`).
-/

namespace SocksTunnel

inductive Policy where
  | refuse
  | ignore
  | replace
  | escape
  | reference
  | name
  | keepOctets
  | keepSurrogates
  deriving DecidableEq, Repr

/-- A part of the octets as it is read: codes, or codes and then a defect, which starts with the first
octet of the part. The number of octets after the first is that of the part. -/
inductive Piece where
  | codes (cs : List Code) (more : Nat)
  | defect (before : List Code) (d : Defect) (more : Nat)
  deriving DecidableEq, Repr

def Piece.ofScan : Scan → Piece
  | .code n more => codes [n] more
  | .defect d more => defect [] d more

/-- The codes of a text. -/
def Text.codes (t : Text) : List Code := t.map Char.toNat

namespace Policy

def names : List (String × Policy) := [
  ("strict", refuse), ("ignore", ignore), ("replace", replace), ("backslashreplace", escape),
  ("xmlcharrefreplace", reference), ("namereplace", name), ("surrogateescape", keepOctets),
  ("surrogatepass", keepSurrogates)]

def find (t : Text) : Except CodingError Policy :=
  match names.lookup t.str with
  | some p => .ok p
  | none => .error (.unknownPolicy t)

/-! ## Octets -/

/-- Surrogates that stand for octets past ASCII, up to four of those that are first. -/
def octetSurrogates (octets : Bytes) : List Code :=
  ((octets.take 4).takeWhile fun o => 0x80 ≤ o).map fun o => 0xdc00 + o.toNat

/-- The surrogate that octets of a codec would spell, if surrogates were characters, and their number. -/
def surrogateAt (codec : String) (octets : Bytes) : Option (Code × Nat) :=
  let found (n : Code) (count : Nat) : Option (Code × Nat) := if Code.isSurrogate n then some (n, count) else none
  match codec, octets with
  | "utf-8", a :: b :: c :: _ =>
    if 0xe0 ≤ a ∧ a < 0xf0 ∧ 0x80 ≤ b ∧ b < 0xc0 ∧ 0x80 ≤ c ∧ c < 0xc0 then
      found (a.toNat % 16 * 4096 + b.toNat % 64 * 64 + c.toNat % 64) 3
    else none
  | "utf-16-le", a :: b :: _ => found (a.toNat + 256 * b.toNat) 2
  | "utf-16-be", a :: b :: _ => found (256 * a.toNat + b.toNat) 2
  | "utf-32-le", a :: b :: c :: d :: _ =>
    found (a.toNat + 256 * (b.toNat + 256 * (c.toNat + 256 * d.toNat))) 4
  | "utf-32-be", a :: b :: c :: d :: _ =>
    found (256 * (256 * (256 * a.toNat + b.toNat) + c.toNat) + d.toNat) 4
  | _, _ => none

/-- What stands for a defect, and the number of octets that it stands for. `rest` are all octets from the
defect on. -/
def codesFor (p : Policy) (u : Undecodable) (rest : Bytes) : Except CodingError (List Code × Nat) :=
  match p with
  | refuse => .error (.undecodable u)
  | ignore => .ok ([], u.octets.length)
  | replace => .ok ([0xfffd], u.octets.length)
  | escape => .ok (Text.codes (u.octets.flatMap fun o => Text.escapeCode o.toNat), u.octets.length)
  | reference => .error .unsuitedPolicy
  | name => .error .unsuitedPolicy
  | keepOctets =>
    match octetSurrogates u.octets with
    | [] => .error (.undecodable u)
    | cs => .ok (cs, cs.length)
  | keepSurrogates =>
    match surrogateAt u.codec rest with
    | some (n, count) => .ok ([n], count)
    | none => .error (.undecodable u)

/-- Reads octets from position `pos` on, after leaving out `skip` of them, in a coding that goes through
states. -/
def readStates {σ : Type} (codec : String) (policy : Text) (piece : σ → UInt8 → Bytes → Piece × σ) :
    σ → Nat → Nat → Bytes → Except CodingError (List Code)
  | _, _, _, [] => .ok []
  | s, pos, skip + 1, _ :: r => readStates codec policy piece s (pos + 1) skip r
  | s, pos, 0, b :: r =>
    match piece s b r with
    | (.codes cs more, t) => (readStates codec policy piece t (pos + 1) more r).map (cs ++ ·)
    | (.defect before d more, t) =>
      match (find policy).bind fun p => p.codesFor ⟨codec, b :: r.take more, pos, d⟩ (b :: r) with
      | .error e => .error e
      | .ok (cs, count) => (readStates codec policy piece t (pos + 1) (count - 1) r).map (before ++ cs ++ ·)

/-- Reads octets where each piece can be told alone. -/
def readFrom (codec : String) (policy : Text) (piece : UInt8 → Bytes → Piece) :
    Nat → Nat → Bytes → Except CodingError (List Code) :=
  readStates codec policy (fun _ b r => (piece b r, ())) ()

/-! ## Characters -/

def nameOf (s : Sign) : Text :=
  match s.char?.bind CharacterName.ofChar? with
  | some n => .lit "\\N\x7b" ++ n ++ ['\x7d']
  | none => Text.escapeCode s.code

/-- The octet past ASCII that a surrogate stands for. -/
def keptOctet? (s : Sign) : Option UInt8 :=
  if 0xdc80 ≤ s.code ∧ s.code ≤ 0xdcff then some (UInt8.ofNat (s.code - 0xdc00)) else none

/-- The name that defects of every page bear. -/
def pageName : String := "charmap"

/-- A defect from the first of its signs on that stands for no octet. Pages tell all of it. -/
def withoutKept (u : Unencodable) : Unencodable :=
  let kept := u.signs.takeWhile fun s => (keptOctet? s).isSome
  if u.codec = pageName then u else { u with signs := u.signs.drop kept.length, start := u.start + kept.length }

/-- What a surrogate would be in the octets of a codec, if surrogates were characters. -/
def surrogateOctets? (codec : String) (s : Sign) : Option Bytes :=
  let units := [s.code / 256, s.code].map UInt8.ofNat
  if !s.isSurrogate then none
  else
    match codec with
    | "utf-8" => some (Text.utf8Code s.code)
    | "utf-16" => some units.reverse
    | "utf-16-le" => some units.reverse
    | "utf-16-be" => some units
    | "utf-32" => some (units.reverse ++ [0, 0])
    | "utf-32-le" => some (units.reverse ++ [0, 0])
    | "utf-32-be" => some ([0, 0] ++ units)
    | _ => none

/-- What stands for signs without octets: text that is still to be written, or octets. -/
inductive StandIn where
  | text (t : Text)
  | octets (b : Bytes)
  deriving DecidableEq, Repr

def standInFor (p : Policy) (u : Unencodable) : Except CodingError StandIn :=
  let kept (octets? : Option Bytes) (u : Unencodable) : Except CodingError StandIn :=
    match octets? with
    | some b => .ok (.octets b)
    | none => .error (.unencodable u)
  match p with
  | refuse => .error (.unencodable u)
  | ignore => .ok (.text [])
  | replace => .ok (.text (u.signs.map fun _ => '?'))
  | escape => .ok (.text (u.signs.flatMap fun s => Text.escapeCode s.code))
  | reference => .ok (.text (u.signs.flatMap fun s => '&' :: '#' :: Text.ofNat s.code ++ [';']))
  | name => .ok (.text (u.signs.flatMap nameOf))
  | keepOctets => kept (u.signs.mapM keptOctet?) (withoutKept u)
  | keepSurrogates => kept ((u.signs.mapM (surrogateOctets? u.codec)).map List.flatten) u

/-- What stands for signs without octets under a policy by name. -/
def standIn (policy : Text) (u : Unencodable) : Except CodingError StandIn := (find policy).bind fun p => p.standInFor u

/-- Octets of characters alone. -/
def ofChar (octets : Char → Option Bytes) (s : Sign) : Option Bytes := s.char?.bind octets

/-- The octets of what stands for signs without octets. -/
def writeStandIn (octets : Char → Option Bytes) (u : Unencodable) : StandIn → Except CodingError Bytes
  | .octets b => .ok b
  | .text t =>
    match t.mapM octets with
    | some bs => .ok bs.flatten
    | none => .error (.unencodable u)

/-- Writes signs from position `pos` on, after leaving out `skip` of them. Neighbours without octets are one
defect. -/
def writeFrom (codec : String) (d : Defect) (policy : Text) (octets : Char → Option Bytes) :
    Nat → Nat → List Sign → Except CodingError Bytes
  | _, _, [] => .ok []
  | pos, skip + 1, _ :: r => writeFrom codec d policy octets (pos + 1) skip r
  | pos, 0, s :: r =>
    match ofChar octets s with
    | some b => (writeFrom codec d policy octets (pos + 1) 0 r).map (b ++ ·)
    | none =>
      let more := r.takeWhile fun x => (ofChar octets x).isNone
      let u : Unencodable := ⟨codec, s :: more, pos, d⟩
      match (standIn policy u).bind (writeStandIn octets u) with
      | .error e => .error e
      | .ok b => (writeFrom codec d policy octets (pos + 1) more.length r).map (b ++ ·)

def writeUtf8 (policy : Text) (ss : List Sign) : Except CodingError Bytes :=
  writeFrom "utf-8" .loneSurrogate policy (some ∘ Text.utf8Char) 0 0 ss

theorem read_codes (codec : String) (policy : Text) (piece : UInt8 → Bytes → Piece) (pos : Nat) (b : UInt8) (r : Bytes)
    (cs : List Code) (more : Nat) (h : piece b r = .codes cs more) :
    readFrom codec policy piece pos 0 (b :: r) = (readFrom codec policy piece (pos + 1) more r).map (cs ++ ·) := by
  simp [readFrom, readStates, h]

theorem standInFor_error {p : Policy} {u : Unencodable} {e : CodingError} (h : p.standInFor u = .error e) :
    ∃ v, e = .unencodable v := by
  unfold standInFor at h
  cases p with
  | refuse =>
    cases h
    exact ⟨_, rfl⟩
  | keepOctets | keepSurrogates =>
    dsimp only at h
    split at h
    · cases h
    · cases h
      exact ⟨_, rfl⟩
  | _ => cases h

theorem writeStandIn_error {octets : Char → Option Bytes} {u : Unencodable} {t : StandIn} {e : CodingError}
    (h : writeStandIn octets u t = .error e) : ∃ v, e = .unencodable v := by
  unfold writeStandIn at h
  split at h
  · cases h
  · split at h
    · cases h
    · cases h
      exact ⟨_, rfl⟩

/-- Under a policy that is known, signs without octets are all that can be wrong. -/
theorem writeFrom_error {codec : String} {d : Defect} {policy : Text} {p : Policy} {octets : Char → Option Bytes}
    {pos skip : Nat} {ss : List Sign} {e : CodingError} (hp : find policy = .ok p)
    (h : writeFrom codec d policy octets pos skip ss = .error e) : ∃ u, e = .unencodable u := by
  have hmap : ∀ {b : Bytes} {x : Except CodingError Bytes}, x.map (b ++ ·) = .error e → x = .error e := by
    intro b x hx
    cases x with
    | error f => exact hx
    | ok c => cases hx
  fun_induction writeFrom codec d policy octets pos skip ss with
  | case1 => cases h
  | case2 _ _ _ _ ih => exact ih h
  | case3 _ _ _ _ _ ih => exact ih (hmap h)
  | case4 pos s r _ more u _ hf =>
    cases h
    rw [standIn, hp] at hf
    change (p.standInFor u).bind (writeStandIn octets u) = _ at hf
    cases ht : p.standInFor u with
    | error g =>
      rw [ht] at hf
      cases hf
      exact standInFor_error ht
    | ok t =>
      rw [ht] at hf
      exact writeStandIn_error hf
  | case5 _ _ _ _ _ _ _ _ ih => exact ih (hmap h)

end Policy

end SocksTunnel
