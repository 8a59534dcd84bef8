import SocksTunnel.Coding.Chart
import SocksTunnel.Coding.Policy

/-
  SocksTunnel.Coding.Scheme — codings with several octets to a character, some of which go
  through states: marks in the octets tell which set of characters comes next.

  A scheme reads piece by piece and writes character by character. Two characters may be
  written as one, so writing looks at the next one as well; of that character it looks at
  16 bits only. Signs without octets are defects one by one, and text that stands for them
  is written in the same state.

  Proved: a character that can be written needs no policy (`write_cons`).
-/

namespace SocksTunnel

/-- What a character is written as: the octets, whether they stand for the next character too, and the
state after them. -/
structure Written (σ : Type) where
  octets : Bytes
  takesNext : Bool
  state : σ
  deriving DecidableEq, Repr

structure Scheme (σ : Type) where
  name : String
  start : σ
  piece : σ → UInt8 → Bytes → Piece × σ
  written : σ → Char → Option Char → Option (Written σ)
  finish : σ → Bytes

namespace Scheme

/-- A scheme without states. -/
def plain (name : String) (piece : UInt8 → Bytes → Piece) (octets : Char → Option Char → Option (Bytes × Bool)) :
    Scheme Unit where
  name := name
  start := ()
  piece _ b r := (piece b r, ())
  written _ c next := (octets c next).map fun w => ⟨w.1, w.2, ()⟩
  finish _ := []

/-! ## Pieces -/

/-- So many octets together that stand for nothing. -/
def illegalRow (count : Nat) : Piece := .defect [] .illegalSequence (count - 1)

def illegal : Piece := illegalRow 1

/-- Octets that break off before a character is complete. -/
def incomplete (rest : Bytes) : Piece := .defect [] .incompleteSequence rest.length

/-- Codes that so many octets stand for; where they stand for nothing the first octet is the defect. -/
def found (count : Nat) : Option (List Code) → Piece
  | some cs => .codes cs (count - 1)
  | none => illegal

/-- Codes that so many octets stand for; where they stand for nothing all of them are the defect. -/
def foundRow (count : Nat) : Option (List Code) → Piece
  | some cs => .codes cs (count - 1)
  | none => illegalRow count

/-- A piece of two octets. -/
def pair (codes? : UInt8 → Option (List Code)) : Bytes → Piece
  | [] => incomplete []
  | b :: _ => found 2 (codes? b)

/-- A piece of an octet of ASCII, or else of two octets. -/
def asciiOr (codes? : UInt8 → UInt8 → Option (List Code)) (a : UInt8) (r : Bytes) : Piece :=
  if a < 0x80 then .codes [a.toNat] 0 else pair (codes? a) r

/-- The code of a cell of a grid. -/
def codeIn (g : Grid) (k : Chart) (a b : UInt8) : Option (List Code) :=
  ((g.cell? a b).bind k.char?).map fun c => [c.toNat]

/-- The octets of a character of a chart. -/
def octetsIn (g : Grid) (k : Chart) (c : Char) : Option Bytes := (k.cell? c).map g.octets

def asciiOctet (c : Char) : Option Bytes := if c.toNat < 0x80 then some [UInt8.ofNat c.toNat] else none

/-- Writes characters alone, each by the first of some ways that has octets for it. -/
def byFirst (ways : List (Char → Option Bytes)) (c : Char) (_ : Option Char) : Option (Bytes × Bool) :=
  (ways.findSome? fun way => way c).map fun b => (b, false)

/-! ## Characters that are written in twos -/

/-- As much of a character as a pair is told by. -/
def shortCode (c : Char) : Nat := c.toNat % 0x10000

/-- What stands for a character and the next one together. -/
def pairOf {α : Type} (pairs : List (α × Char × Char)) (c : Char) (next : Option Char) : Option α :=
  (pairs.find? fun (_, a, b) => a == c && next.any fun d => shortCode d == b.toNat).map (·.1)

/-! ## Reading and writing -/

variable {σ : Type}

def read (k : Scheme σ) (policy : Text) (b : Bytes) : Except CodingError (List Code) :=
  Policy.readStates k.name policy k.piece k.start 0 0 b

/-- Writes text of ASCII in a state, each character as it is where the scheme does not have it. -/
def writeAscii (k : Scheme σ) : σ → Text → Bytes × σ
  | s, [] => ([], s)
  | s, c :: r =>
    match k.written s c r.head? with
    | some w =>
      let (b, t) := writeAscii k w.state r
      (w.octets ++ b, t)
    | none =>
      let (b, t) := writeAscii k s r
      (UInt8.ofNat c.toNat :: b, t)

/-- What the first of some signs is written as, if it has octets. -/
def writtenSign (k : Scheme σ) (s : σ) (x : Sign) (r : List Sign) : Option (Written σ) :=
  x.char?.bind fun c => k.written s c (r.head?.bind Sign.char?)

/-- Writes signs from position `pos` on, after leaving out `skip` of them. -/
def writeFrom (k : Scheme σ) (policy : Text) : σ → Nat → Nat → List Sign → Except CodingError Bytes
  | s, _, _, [] => .ok (k.finish s)
  | s, pos, skip + 1, _ :: r => writeFrom k policy s (pos + 1) skip r
  | s, pos, 0, x :: r =>
    match k.writtenSign s x r with
    | some w => (writeFrom k policy w.state (pos + 1) (if w.takesNext then 1 else 0) r).map (w.octets ++ ·)
    | none =>
      match Policy.standIn policy ⟨k.name, [x], pos, .illegalSequence⟩ with
      | .error e => .error e
      | .ok (.octets b) => (writeFrom k policy s (pos + 1) 0 r).map (b ++ ·)
      | .ok (.text t) =>
        let (b, s) := writeAscii k s t
        (writeFrom k policy s (pos + 1) 0 r).map (b ++ ·)

def write (k : Scheme σ) (policy : Text) (ss : List Sign) : Except CodingError Bytes := writeFrom k policy k.start 0 0 ss

theorem write_cons (k : Scheme σ) (policy : Text) (s : σ) (pos : Nat) (x : Sign) (r : List Sign) (w : Written σ)
    (h : k.writtenSign s x r = some w) (hn : w.takesNext = false) :
    writeFrom k policy s pos 0 (x :: r) = (writeFrom k policy w.state (pos + 1) 0 r).map (w.octets ++ ·) := by
  simp [writeFrom, h, hn]

end Scheme

end SocksTunnel
