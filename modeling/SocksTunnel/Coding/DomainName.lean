import SocksTunnel.Coding.Nameprep
import SocksTunnel.Coding.Punycode

/-
  SocksTunnel.Coding.DomainName — international domain names as octets of ASCII. A name is
  labels between dots, of which there are several characters. A label with characters past
  ASCII is prepared and, if some are still there, written in Punycode behind a mark. A
  label has 1 to 63 octets; a name may end in a dot.

  Nothing stands for a defect here, so no policy but refusal applies.

  Proved: a label of ASCII that is not too long is written as it is (`writeLabel_ascii`).
-/

namespace SocksTunnel.DomainName

def refuse (reason : String) : Except CodingError α := .error (.refused (.lit reason))

/-- The mark of a label in Punycode. -/
def aceMark : Bytes := [120, 110, 45, 45]

def isAscii (t : List Code) : Bool := t.all (· < 0x80)

def octets (t : List Code) : Bytes := t.map UInt8.ofNat

def maxLabel : Nat := 63

/-! ## Writing -/

/-- A label, unless it is empty or too long. -/
def sized (label : Bytes) : Except CodingError Bytes :=
  if 0 < label.length ∧ label.length ≤ maxLabel then .ok label else refuse "label empty or too long"

def writeLabel (t : List Code) : Except CodingError Bytes :=
  if isAscii t then sized (octets t)
  else do
    let t ← Nameprep.prepare t
    if isAscii t then sized (octets t)
    else if (aceMark.map UInt8.toNat).isPrefixOf t then refuse "Label starts with ACE prefix"
    else sized (aceMark ++ Punycode.write t)

/-- The characters that stand for the dot between labels. -/
def isDot (n : Code) : Bool := n == 0x2e || n == 0x3002 || n == 0xff0e || n == 0xff61

def joined : List Bytes → Bytes := List.intercalate [46]

/-- A label of ASCII that is not the last one. -/
def checkAll : List (List Code) → Except CodingError Unit
  | [] => .ok ()
  | [last] => if maxLabel < last.length then refuse "label too long" else .ok ()
  | label :: r => do
    let _ ← sized (octets label)
    checkAll r

def policyRefusal (words : String) (policy : Text) : Except CodingError α :=
  .error (.refused (.lit words ++ .lit " error handling " ++ policy))

/-- The labels of a name, and whether it ends in a dot. -/
def labels (parts : List (List α)) : List (List α) × Bool :=
  match parts.getLast? with
  | some [] => (parts.dropLast, true)
  | _ => (parts, false)

def write (policy : Text) (ns : List Code) : Except CodingError Bytes :=
  if policy ≠ Punycode.strictName then policyRefusal "unsupported" policy
  else if isAscii ns then (checkAll (ns.splitOn 0x2e)).map fun _ => octets ns
  else do
    let (names, isClosed) := labels (ns.splitOnP isDot)
    let written ← names.mapM writeLabel
    .ok (joined written ++ if isClosed then [46] else [])

/-! ## Reading -/

def lower (b : Bytes) : Bytes := b.map fun o => if 65 ≤ o ∧ o ≤ 90 then o + 32 else o

/-- A label in Punycode has to be what its characters are written as. -/
def readAce (label : Bytes) : Except CodingError (List Code) := do
  let t ← (Punycode.read Punycode.strictName (label.drop aceMark.length)).mapError
    (CodingError.within (.lit "punycode") true)
  let made ← writeLabel t
  if lower label = made then .ok t else .error (.unstable label made)

def readLabel (label : Bytes) : Except CodingError (List Code) :=
  if aceMark.isPrefixOf label then readAce label else Punycode.readAscii Punycode.strictName label

/-- Whether there is a mark anywhere in a name. -/
def hasMark : Bytes → Bool
  | [] => false
  | o :: r => aceMark.isPrefixOf (o :: r) || hasMark r

def read (policy : Text) (b : Bytes) : Except CodingError (List Code) :=
  if policy ≠ Punycode.strictName then policyRefusal "Unsupported" policy
  else if !hasMark b && b.all (· < 0x80) then .ok (b.map UInt8.toNat)
  else do
    let (names, isClosed) := labels (b.splitOn 46)
    let read ← names.mapM readLabel
    .ok ([46].intercalate read ++ if isClosed then [46] else [])

theorem writeLabel_ascii {t : List Code} (h : isAscii t = true) (hs : 0 < t.length ∧ t.length ≤ maxLabel) :
    writeLabel t = .ok (octets t) := by
  simp [writeLabel, h, sized, octets, hs]

end SocksTunnel.DomainName
