import SocksTunnel.Address.Ipv4

/-
  SocksTunnel.Address.Ipv6 — IPv6 addresses as eight groups and an optional scope, and
  their text: groups between colons, the longest run of two or more zero groups (the
  first of them) written as `::`, and `%` before the scope.

  A text may write its last two groups as a dotted quad.

  Proved: an address without a scope is read back from its octets
  (`ofBytes?_toBytes`), and every address has sixteen octets (`length_toBytes`).
-/

namespace SocksTunnel

/-- A scope is never empty, and has neither a further percent sign nor a slash. -/
def IsScope (t : Text) : Prop := t ≠ [] ∧ '%' ∉ t ∧ '/' ∉ t

instance (t : Text) : Decidable (IsScope t) := inferInstanceAs (Decidable (_ ∧ _ ∧ _))

structure Ipv6 where
  groups : List UInt16
  scope : Option Text
  length_groups : groups.length = 8
  isScope : ∀ t ∈ scope, IsScope t
  deriving DecidableEq, Repr

namespace Ipv6

theorem isScope_none : ∀ t ∈ (none : Option Text), IsScope t := by simp

/-- The address without a scope, which is not sent. -/
def unscoped (a : Ipv6) : Ipv6 := ⟨a.groups, none, a.length_groups, isScope_none⟩

/-! ## Octets -/

def toBytes (a : Ipv6) : Bytes := a.groups.flatMap Bytes.ofUInt16

/-- The numbers that pairs of octets spell. -/
def pairs : Bytes → List UInt16
  | high :: low :: r => Bytes.toUInt16 high low :: pairs r
  | _ => []

/-- The address of eight groups, without a scope. -/
def ofGroups? (g : List UInt16) : Option Ipv6 :=
  if h : g.length = 8 then some ⟨g, none, h, isScope_none⟩ else none

def ofBytes? (b : Bytes) : Option Ipv6 :=
  if b.length = 16 then ofGroups? (pairs b) else none

/-! ## Writing -/

def groupText (g : UInt16) : Text := Nat.toDigits 16 g.toNat

def joined (g : List UInt16) : Text := [':'].intercalate (g.map groupText)

def zeroRun (g : List UInt16) : Nat := (g.takeWhile (· == 0)).length

/-- Where the longest run of zero groups starts, the first of several, and its length. -/
def longestRun (g : List UInt16) : Nat × Nat :=
  (List.range g.length).foldl (fun best i => if best.2 < zeroRun (g.drop i) then (i, zeroRun (g.drop i)) else best) (0, 0)

def groupsText (g : List UInt16) : Text :=
  let run := longestRun g
  if run.2 < 2 then joined g
  else joined (g.take run.1) ++ [':', ':'] ++ joined (g.drop (run.1 + run.2))

def text (a : Ipv6) : Text :=
  groupsText a.groups ++ (match a.scope with
    | some s => '%' :: s
    | none => [])

/-! ## Reading -/

def hexDigit? (c : Char) : Option Nat :=
  let n := c.toNat
  if '0' ≤ c ∧ c ≤ '9' then some (n - 48)
  else if 'a' ≤ c ∧ c ≤ 'f' then some (n - 87)
  else if 'A' ≤ c ∧ c ≤ 'F' then some (n - 55)
  else none

/-- A group of at most four hexadecimal digits; `whole` is how messages show the whole text. -/
def group (whole t : Text) : Except AddressError UInt16 :=
  match t.mapM hexDigit? with
  | none => .error (.groupDigits t.quoted whole)
  | some ds =>
    if 4 < t.length then .error (.groupLength t.quoted whole)
    else .ok (UInt16.ofNat (ds.foldl (fun n d => 16 * n + d) 0))

def groupsOf (whole : Text) : List Text → Except AddressError (List UInt16)
  | [] => .ok []
  | t :: r => do
    let g ← group whole t
    let gs ← groupsOf whole r
    .ok (g :: gs)

/-- The parts between colons, where a dotted quad at the end is written as two groups. -/
def withoutQuad (whole : Text) (parts : List Text) : Except AddressError (List Text) :=
  match parts.getLast? with
  | none => .ok parts
  | some t =>
    if '.' ∈ t then
      match Ipv4.parse t with
      | .ok a => .ok (parts.dropLast ++ (pairs a.toBytes).map groupText)
      | .error e => .error (.quad e whole)
    else .ok parts

/-- The positions of the empty parts between the first part and the last. -/
def gaps (parts : List Text) : List Nat :=
  (List.range parts.length).filter fun i => 0 < i && i + 1 < parts.length && parts[i]? == some []

/-- The parts on one side of the gap: an empty part at the end of the text stands alone there. -/
def side (e : AddressError) (atEnd : Option Text) (parts : List Text) : Except AddressError (List Text) :=
  if atEnd ≠ some [] then .ok parts
  else if parts.length = 1 then .ok []
  else .error e

/-- Groups before and after a gap, which stands for at least one zero group. -/
def aroundGap (whole : Text) (before after : List Text) : Except AddressError (List UInt16) := do
  let before ← side (.leadingColon whole) before.head? before
  let after ← side (.trailingColon whole) after.getLast? after
  let zeros := 8 - (before.length + after.length)
  if zeros = 0 then .error (.emptyGap whole)
  else
    let l ← groupsOf whole before
    let r ← groupsOf whole after
    .ok (l ++ List.replicate zeros 0 ++ r)

/-- Eight groups without a gap. -/
def withoutGap (whole : Text) (parts : List Text) : Except AddressError (List UInt16) :=
  if parts.length ≠ 8 then .error (.groupCount whole)
  else if parts.head? = some [] then .error (.leadingColon whole)
  else if parts.getLast? = some [] then .error (.trailingColon whole)
  else groupsOf whole parts

/-- The groups of a text: eight of them, or fewer around one gap. -/
def parseGroups (t : Text) : Except AddressError (List UInt16) :=
  if t = [] then .error .empty
  else if (t.splitOn ':').length < 3 then .error (.partCount t.quoted)
  else do
    let parts ← withoutQuad t.quoted (t.splitOn ':')
    if 9 < parts.length then .error (.colonCount t.quoted)
    else
      match gaps parts with
      | [] => withoutGap t.quoted parts
      | [i] => aroundGap t.quoted (parts.take i) (parts.drop (i + 1))
      | _ => .error (.gapCount t.quoted)

/-- The address of some groups and a scope, if there is one. -/
def ofParts (whole : Text) (g : List UInt16) : Option Text → Except AddressError Ipv6
  | none => if hg : g.length = 8 then .ok ⟨g, none, hg, isScope_none⟩ else .error (.groupCount whole)
  | some s =>
    if hs : IsScope s then
      if hg : g.length = 8 then .ok ⟨g, some s, hg, fun _ ht => by cases ht; exact hs⟩ else .error (.groupCount whole)
    else .error (.scope whole)

/-- Reads an address with a scope perhaps; `shown` is how a message shows what was given. -/
def parseShown (shown t : Text) : Except AddressError Ipv6 :=
  if '/' ∈ t then .error (.slash shown)
  else
    match t.dropWhile (· ≠ '%') with
    | [] => do ofParts t.quoted (← parseGroups t) none
    | _ :: scope =>
      if scope = [] ∨ '%' ∈ scope then .error (.scope t.quoted)
      else
        let bare : Text := t.takeWhile (· ≠ '%')
        do ofParts bare.quoted (← parseGroups bare) (some scope)

def parse (t : Text) : Except AddressError Ipv6 := parseShown t.quoted t

def parse? (t : Text) : Option Ipv6 := (parse t).toOption

/-! ## Numbers -/

/-- The groups of a number, `n` of them, the first the highest. -/
def groupsOfNat : Nat → Nat → List UInt16
  | 0, _ => []
  | n + 1, k => groupsOfNat n (k / 0x10000) ++ [UInt16.ofNat k]

theorem length_groupsOfNat (n k : Nat) : (groupsOfNat n k).length = n := by
  induction n generalizing k with
  | zero => rfl
  | succ n ih => simp [groupsOfNat, ih]

/-- The address of a number below `2 ^ 128`. -/
def ofNat (n : Nat) : Ipv6 := ⟨groupsOfNat 8 n, none, length_groupsOfNat 8 n, isScope_none⟩

/-- The number of an address; its scope does not count. -/
def toNat (a : Ipv6) : Nat := a.groups.foldl (fun n g => 0x10000 * n + g.toNat) 0

def ofInt (n : Int) : Except AddressError Ipv6 :=
  if n < 0 then .error (.negative .ipv6 n)
  else if (Nat.pow 2 128 : Int) ≤ n then .error (.tooLarge .ipv6 n)
  else .ok (ofNat n.toNat)

/-! ## Lemmas -/

theorem pairs_flatMap (g : List UInt16) : pairs (g.flatMap Bytes.ofUInt16) = g := by
  induction g with
  | nil => rfl
  | cons x r ih =>
    simp only [List.flatMap_cons, Bytes.ofUInt16, List.cons_append, List.nil_append, pairs, ih, List.cons.injEq, and_true]
    exact Bytes.toUInt16_ofNat x

theorem length_toBytes (a : Ipv6) : a.toBytes.length = 16 := by
  have h : ∀ g : List UInt16, (g.flatMap Bytes.ofUInt16).length = 2 * g.length := by
    intro g
    induction g with
    | nil => rfl
    | cons x r ih => simp only [List.flatMap_cons, List.length_append, ih, List.length_cons, Bytes.ofUInt16]; simp; omega
  rw [toBytes, h, a.length_groups]

theorem ofBytes?_toBytes (a : Ipv6) (h : a.scope = none) : ofBytes? a.toBytes = some a := by
  obtain ⟨g, s, hg, hs⟩ := a
  subst h
  rw [ofBytes?, length_toBytes]
  simp [toBytes, pairs_flatMap, ofGroups?, hg]

end Ipv6

end SocksTunnel
