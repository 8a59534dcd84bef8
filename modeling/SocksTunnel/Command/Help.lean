import SocksTunnel.Command.Flag

/-
  SocksTunnel.Command.Help — what the command prints about itself: its version, its usage
  and its help, with lines filled up to a width of 78 columns. The purpose of a flag
  starts in column 24, on a line of its own if the flag is too long.

  Proved: filling loses no word (`flatten_fill`).
-/

namespace SocksTunnel.Help

def program : Text := Text.lit "async-proxy"

def version : Text := Text.lit "0.2.0"

def width : Nat := 78

/-- The length of words with single spaces between them, and one in front. -/
def lengthOf (line : List Text) : Nat := (line.flatMap (' ' :: ·)).length

/-- Words in lines of at most `room` characters; `line` is the current one. -/
def fillFrom (room : Nat) : List Text → List Text → List (List Text)
  | line, [] => if line.isEmpty then [] else [line]
  | line, w :: r =>
    if room < lengthOf line + w.length ∧ line ≠ [] then line :: fillFrom room [w] r
    else fillFrom room (line ++ [w]) r

def fill (room : Nat) (words : List Text) : List (List Text) := fillFrom room [] words

def spaces (n : Nat) : Text := List.replicate n ' '

def unwords (line : List Text) : Text := [' '].intercalate line

/-! ## Usage -/

/-- A flag as the usage shows it. -/
def item (f : Flag) : Text :=
  let name := f.names.headD []
  let value := f.placeholder
  '[' :: name ++ (if value.isEmpty then [] else ' ' :: value) ++ [']']

def usageHead : Text := Text.lit "usage: "

/-- The usage, its further lines below the first flag. -/
def usage : Text :=
  let indent := usageHead.length + program.length + 1
  let lines := fill (width - indent) (Flag.all.map item)
  let rest := lines.map unwords
  usageHead ++ program ++ ' ' :: ['\n'].intercalate (rest.take 1 ++ (rest.drop 1).map (spaces indent ++ ·)) ++ ['\n']

/-- What is printed when the command line is refused. -/
def refusal (message : Text) : Text := usage ++ program ++ Text.lit ": error: " ++ message ++ ['\n']

/-! ## Help -/

def column : Nat := 24

/-- A flag as the help shows it. -/
def heading (f : Flag) : Text :=
  let value := f.placeholder
  [',', ' '].intercalate f.names ++ if value.isEmpty then [] else ' ' :: value

def purposeLines (f : Flag) : List Text :=
  (fill (width - column) ((Text.lit f.purpose).splitOn ' ')).map unwords

def entry (f : Flag) : List Text :=
  let head := spaces 2 ++ heading f
  let lines := purposeLines f
  if head.length + 2 ≤ column then
    (head ++ spaces (column - head.length) ++ lines.headD []) :: (lines.drop 1).map (spaces column ++ ·)
  else head :: lines.map (spaces column ++ ·)

def about : Text := Text.lit "async_proxy v" ++ version

/-- The help. -/
def text : Text :=
  usage ++ '\n' :: about ++ ['\n', '\n'] ++ Text.lit "options:\n" ++
    (Flag.all.flatMap entry).flatMap fun line => line ++ ['\n']

theorem flatten_fillFrom (room : Nat) (line words : List Text) : (fillFrom room line words).flatten = line ++ words := by
  induction words generalizing line with
  | nil =>
    unfold fillFrom
    split <;> simp_all
  | cons w r ih =>
    unfold fillFrom
    split <;> simp [ih]

theorem flatten_fill (room : Nat) (words : List Text) : (fill room words).flatten = words :=
  flatten_fillFrom room [] words

end SocksTunnel.Help
