import SocksTunnel.Coding.Defect

/-
  SocksTunnel.Coding.Chart — sets of characters that are ordered in rows of cells, and the
  pairs of octets that stand for cells.

  A grid tells which octets number its rows and its columns. Cells are counted row by row
  from zero; the planes of the standards of East Asia have 94 rows of 94 cells. A chart
  lists the characters of its cells in runs. Where runs disagree the earlier one is right,
  about the character of a cell as well as about the cell of a character.

  Proved: a pair of octets is the cell that it was made from (`cell?_octets`), and a
  character stands in the cell where a run finds it (`char?_of_cell?`).
-/

namespace SocksTunnel

/-- Ranges of octets, each with its first and its last one. -/
abbrev Ranges := List (UInt8 × UInt8)

namespace Ranges

def count : Ranges → Nat
  | [] => 0
  | (a, z) :: r => z.toNat + 1 - a.toNat + count r

/-- The number of an octet among all of the ranges. -/
def index? : Ranges → UInt8 → Option Nat
  | [], _ => none
  | (a, z) :: r, o =>
    if a ≤ o ∧ o ≤ z then some (o.toNat - a.toNat) else (index? r o).map (z.toNat + 1 - a.toNat + ·)

/-- The octet of a number, which is less than the count. -/
def octet : Ranges → Nat → UInt8
  | [], n => UInt8.ofNat n
  | (a, z) :: r, n =>
    if n < z.toNat + 1 - a.toNat then UInt8.ofNat (a.toNat + n) else octet r (n - (z.toNat + 1 - a.toNat))

/-- Whether each number has an octet with that number. -/
def Faithful (r : Ranges) : Prop := ∀ n < r.count, r.index? (r.octet n) = some n

end Ranges

structure Grid where
  rows : Ranges
  columns : Ranges
  deriving DecidableEq, Repr

namespace Grid

/-- The cell of two octets. -/
def cell? (g : Grid) (a b : UInt8) : Option Nat :=
  match g.rows.index? a, g.columns.index? b with
  | some i, some j => some (i * g.columns.count + j)
  | _, _ => none

/-- The octets of a cell. -/
def octets (g : Grid) (n : Nat) : Bytes := [g.rows.octet (n / g.columns.count), g.columns.octet (n % g.columns.count)]

/-- A plane with both octets in ASCII. -/
def plane : Grid := ⟨[(0x21, 0x7e)], [(0x21, 0x7e)]⟩

/-- A plane with both octets past ASCII. -/
def upperPlane : Grid := ⟨[(0xa1, 0xfe)], [(0xa1, 0xfe)]⟩

theorem cell?_octets (g : Grid) (n : Nat) (hr : g.rows.Faithful) (hc : g.columns.Faithful)
    (h : n < g.rows.count * g.columns.count) :
    ∃ a b, g.octets n = [a, b] ∧ g.cell? a b = some n := by
  have hw : 0 < g.columns.count := by
    rcases Nat.eq_zero_or_pos g.columns.count with h0 | h0
    · simp [h0] at h
    · exact h0
  refine ⟨_, _, rfl, ?_⟩
  have hi := hr (n / g.columns.count) (Nat.div_lt_of_lt_mul (by rwa [Nat.mul_comm]))
  have hj := hc (n % g.columns.count) (Nat.mod_lt _ hw)
  simp only [cell?, hi, hj]
  rw [Nat.mul_comm, Nat.div_add_mod]

end Grid

/-- Characters of cells in a row, from a first cell on. -/
structure Run where
  first : Nat
  chars : Text
  deriving DecidableEq, Repr

abbrev Chart := List Run

/-- A cell of a plane, whose rows and columns are counted from one. -/
def cell (row column : Nat) : Nat := 94 * (row - 1) + (column - 1)

namespace Run

def ofPlane (row column : Nat) (s : String) : Run := ⟨cell row column, .lit s⟩

/-- Characters that are numbered one after the other. -/
def consecutive (first : Nat) (c : Char) (count : Nat) : Run :=
  ⟨first, (List.range count).map fun i => Char.ofNat (c.toNat + i)⟩

def char? (r : Run) (n : Nat) : Option Char := if n < r.first then none else r.chars[n - r.first]?

def cell? (r : Run) (c : Char) : Option Nat := (r.chars.findIdx? (· == c)).map (r.first + ·)

theorem char?_of_cell? {r : Run} {c : Char} {n : Nat} (h : r.cell? c = some n) : r.char? n = some c := by
  obtain ⟨i, hi, rfl⟩ := Option.map_eq_some_iff.mp h
  obtain ⟨hl, he, -⟩ := List.findIdx?_eq_some_iff_getElem.mp hi
  have hc : r.chars[i] = c := by simpa using he
  simp [char?, hl, hc]

end Run

namespace Chart

def char? (k : Chart) (n : Nat) : Option Char := k.findSome? fun r => r.char? n

def cell? (k : Chart) (c : Char) : Option Nat := k.findSome? fun r => r.cell? c

def text (k : Chart) : Text := k.flatMap Run.chars

/-- The characters that a text lacks, of `count` from a first one on in their order. -/
def absent (t : Text) (first count : Nat) : Text :=
  let present := t.foldl (fun (marks : Array Bool) c =>
    if first ≤ c.toNat then marks.setIfInBounds (c.toNat - first) true else marks) (Array.replicate count false)
  ((List.range count).filter fun i => !present.getD i false && Nat.isValidChar (first + i)).map
    fun i => Char.ofNat (first + i)

end Chart

end SocksTunnel
