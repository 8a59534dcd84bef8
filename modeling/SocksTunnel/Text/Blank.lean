import SocksTunnel.Text.Basic

/-
  SocksTunnel.Text.Blank — the blank characters of Unicode, and the smaller class that
  may surround a number.

  Proved: every blank of a number is a blank of text (`isBlank_of_isNumberBlank`).
-/

namespace SocksTunnel.Text

/-- Spaces, line ends and the four separators of ASCII's control block. -/
def isBlank (c : Char) : Bool :=
  let n := c.toNat
  (0x09 ≤ n && n ≤ 0x0d) || (0x1c ≤ n && n ≤ 0x20) || n == 0x85 || n == 0xa0 || n == 0x1680 ||
    (0x2000 ≤ n && n ≤ 0x200a) || n == 0x2028 || n == 0x2029 || n == 0x202f || n == 0x205f || n == 0x3000

/-- A number may stand between blanks, but not between ASCII's control separators. -/
def isNumberBlank (c : Char) : Bool :=
  isBlank c && !(0x1c ≤ c.toNat && c.toNat ≤ 0x1f)

theorem isBlank_of_isNumberBlank {c : Char} (h : isNumberBlank c = true) : isBlank c = true := by
  simp only [isNumberBlank, Bool.and_eq_true] at h
  exact h.1

/-- A text without the blanks at its ends. -/
def trim (t : Text) : Text := strip isBlank t

end SocksTunnel.Text
