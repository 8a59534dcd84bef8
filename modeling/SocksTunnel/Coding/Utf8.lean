import SocksTunnel.Coding.Defect

/-
  SocksTunnel.Coding.Utf8 — text as octets in UTF-8, which is what the messages of this
  library carry.

  A reader looks at the octets from one position and finds a code or a defect, each with
  the number of further octets that belong to it; a defect takes in the longest start of a
  character and nothing more. Reading walks over the octets and skips those taken in. It
  stops at the first defect, or puts a replacement character in the place of each.

  Proved: a character has at least one octet (`utf8Char_ne_nil`), and text of ASCII has one
  octet for each character (`length_utf8_ascii`).
-/

namespace SocksTunnel

/-- What stands at a position: a code or a defect, each with its number of octets after the first. -/
inductive Scan where
  | code (n : Code) (more : Nat)
  | defect (d : Defect) (more : Nat)
  deriving DecidableEq, Repr

namespace Text

/-! ## Reading -/

/-- `n` continuation octets, the next one within `lo` to `hi`; `seen` octets after the first have given `code`. -/
def continued : Nat → UInt8 → UInt8 → Nat → Nat → Bytes → Scan
  | 0, _, _, seen, code, _ => .code code seen
  | _ + 1, _, _, seen, _, [] => .defect .endOfData seen
  | n + 1, lo, hi, seen, code, b :: r =>
    if lo ≤ b ∧ b ≤ hi then continued n 0x80 0xbf (seen + 1) (code * 64 + b.toNat % 64) r
    else .defect .invalidContinuation seen

/-- A character that begins with `b`. -/
def scanUtf8 (b : UInt8) (r : Bytes) : Scan :=
  if b < 0x80 then .code b.toNat 0
  else if b < 0xc2 then .defect .invalidStart 0
  else if b < 0xe0 then continued 1 0x80 0xbf 0 (b.toNat % 32) r
  else if b < 0xf0 then
    continued 2 (if b = 0xe0 then 0xa0 else 0x80) (if b = 0xed then 0x9f else 0xbf) 0 (b.toNat % 16) r
  else if b < 0xf5 then
    continued 3 (if b = 0xf0 then 0x90 else 0x80) (if b = 0xf4 then 0x8f else 0xbf) 0 (b.toNat % 8) r
  else .defect .invalidStart 0

/-- Reads from position `pos` on, after leaving out `skip` octets, up to the first defect. -/
def ofUtf8From : Nat → Nat → Bytes → Except Undecodable Text
  | _, _, [] => .ok []
  | pos, skip + 1, _ :: r => ofUtf8From (pos + 1) skip r
  | pos, 0, b :: r =>
    match scanUtf8 b r with
    | .code n more => (ofUtf8From (pos + 1) more r).map (Char.ofNat n :: ·)
    | .defect d more => .error ⟨"utf-8", b :: r.take more, pos, d⟩

/-- The text of octets without a defect. -/
def ofUtf8 (b : Bytes) : Except Undecodable Text := ofUtf8From 0 0 b

/-- Reads after leaving out `skip` octets, a replacement character for each defect. -/
def decodeLossyFrom : Nat → Bytes → Text
  | _, [] => []
  | skip + 1, _ :: r => decodeLossyFrom skip r
  | 0, b :: r =>
    match scanUtf8 b r with
    | .code n more => Char.ofNat n :: decodeLossyFrom more r
    | .defect _ more => '\ufffd' :: decodeLossyFrom more r

/-- The text of any octets. -/
def decodeLossy (b : Bytes) : Text := decodeLossyFrom 0 b

/-! ## Writing -/

/-- The octets of a code. -/
def utf8Code (n : Code) : Bytes :=
  let octet (k : Nat) : UInt8 := UInt8.ofNat k
  if n < 0x80 then [octet n]
  else if n < 0x800 then [octet (0xc0 + n / 64), octet (0x80 + n % 64)]
  else if n < 0x10000 then [octet (0xe0 + n / 4096), octet (0x80 + n / 64 % 64), octet (0x80 + n % 64)]
  else [octet (0xf0 + n / 262144), octet (0x80 + n / 4096 % 64), octet (0x80 + n / 64 % 64), octet (0x80 + n % 64)]

/-- The octets of a character. -/
def utf8Char (c : Char) : Bytes := utf8Code c.toNat

def utf8 (t : Text) : Bytes := t.flatMap utf8Char

end Text

/-- Why broken text has no octets: its first surrogates, up to the next character. -/
def BrokenText.refusal (b : BrokenText) : Unencodable :=
  let rest := b.signs.dropWhile fun s => !s.isSurrogate
  ⟨"utf-8", rest.takeWhile Sign.isSurrogate, b.signs.length - rest.length, .loneSurrogate⟩

namespace Text

theorem utf8Char_ne_nil (c : Char) : utf8Char c ≠ [] := by
  unfold utf8Char utf8Code
  simp only
  repeat' split
  all_goals simp

theorem length_utf8_ascii {t : Text} (h : ∀ c ∈ t, c.toNat < 0x80) : (utf8 t).length = t.length := by
  induction t with
  | nil => rfl
  | cons c r ih =>
    have hc : utf8Char c = [UInt8.ofNat c.toNat] := by simp [utf8Char, utf8Code, h c (by simp)]
    have hr := ih fun d hd => h d (by simp [hd])
    simp only [utf8, List.flatMap_cons, List.length_append, hc, List.length_cons] at hr ⊢
    simp [hr, Nat.add_comm]

end Text

end SocksTunnel
