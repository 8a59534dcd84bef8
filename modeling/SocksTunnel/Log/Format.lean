import SocksTunnel.Decimal.Shortest
import SocksTunnel.Log.Entry
import SocksTunnel.Text.Digit
import SocksTunnel.Text.Word

/-
  SocksTunnel.Log.Format — how a line of the log is laid out: text with fields such as
  `%(message)s`, where the conversion at the end may have flags, a width and a precision
  before it. Two percent signs stand for one.

  A layout has to hold a field somewhere. A line is not written if a field of its layout is
  broken, is none of the fields of a line, or cannot show what it holds.

  Proved: the plain layout writes the message alone (`render_plain`), and the standard layout
  writes every line (`render_standard`).
-/

namespace SocksTunnel.Log

/-! ## Layouts with a field -/

def isWord (c : Char) : Bool := Text.isAlphanumeric c || c == '_'

def isFlag (c : Char) : Bool := c == '#' || c == '0' || c == '+' || c == ' ' || c == '-'

/-- Conversions in either case, with the letters past ASCII that fold to an `i` or an `s`. -/
def isConversion (c : Char) : Bool :=
  (Text.lit "diouxefgcrsa%İıſ").contains c || (Text.lit "diouxefgcrsa").contains c.toLower

/-- What follows a star or digits; the text itself if neither is there. -/
def dropSize : Text → Text
  | '*' :: r => r
  | t => t.dropWhile fun c => (Text.digit? c).isSome

/-- What follows a point with a size behind it. -/
def dropPrecision : Text → Text
  | '.' :: r => if dropSize r = r then '.' :: r else dropSize r
  | t => t

/-- Whether a text starts with a field. -/
def startsField : Text → Bool
  | '%' :: '(' :: r =>
    let word := r.takeWhile isWord
    match r.dropWhile isWord with
    | ')' :: r => !word.isEmpty && (dropPrecision (dropSize (r.dropWhile isFlag))).head?.any isConversion
    | _ => false
  | _ => false

def hasField : Text → Bool
  | [] => false
  | c :: r => startsField (c :: r) || hasField r

/-! ## Fields -/

structure Field where
  key : Text
  flags : Text
  width : Nat
  precision : Option Nat
  conversion : Char
  deriving DecidableEq, Repr

/-- The key up to the bracket that closes it, and what follows. -/
def cutKey : Nat → Text → Option (Text × Text)
  | _, [] => none
  | depth, c :: r =>
    if c = ')' ∧ depth = 0 then some ([], r)
    else
      let depth := if c = '(' then depth + 1 else if c = ')' then depth - 1 else depth
      (cutKey depth r).map fun (k, rest) => (c :: k, rest)

/-- The field after a percent sign, and what follows it. A sign without a key has an empty one. -/
def cutField (t : Text) : Option (Field × Text) := do
  let (key, t) ← match t with
    | '(' :: r => cutKey 0 r
    | t => some ([], t)
  let flags := t.takeWhile isFlag
  let t := t.dropWhile isFlag
  let width := t.takeWhile Text.isAsciiDigit
  let t := t.dropWhile Text.isAsciiDigit
  let (precision, t) := match t with
    | '.' :: r => (some (Text.value (r.takeWhile Text.isAsciiDigit)), r.dropWhile Text.isAsciiDigit)
    | t => (none, t)
  let t := match t with
    | 'h' :: r => r
    | 'l' :: r => r
    | 'L' :: r => r
    | t => t
  match t with
  | c :: r => some (⟨key, flags, Text.value width, precision, c⟩, r)
  | [] => none

/-! ## Writing -/

/-- What a field may show; a thing that is no text is shown by one all the same. -/
inductive Content where
  | words (t : Text)
  | number (n : Nat)
  | real (x : Binary64)
  | thing (t : Text)
  deriving Repr

def Content.absent : Content := .thing Value.nothing.shown

/-- The fields of a line. There is one thread, in one process. -/
def contents (r : Record) : List (String × Content) := [
  ("message", .words r.message), ("levelname", .words (Text.lit r.level.name)), ("levelno", .number r.level.number),
  ("name", .words r.source), ("msg", .words r.template), ("pathname", .words r.place.path),
  ("filename", .words r.place.file), ("module", .words r.place.module), ("funcName", .words r.place.step),
  ("lineno", .number r.place.line), ("asctime", .words r.moment.time), ("created", .real r.moment.created),
  ("msecs", .real r.moment.milliseconds), ("relativeCreated", .real r.moment.sinceStart),
  ("process", .number r.moment.process), ("processName", .words (Text.lit "MainProcess")),
  ("thread", .number r.moment.thread), ("threadName", .words (Text.lit "MainThread")), ("exc_info", .absent),
  ("exc_text", .absent), ("stack_info", .absent)]

/-- The content of a line under a key; the arguments may be ones that cannot be shown. -/
def content? (r : Record) (key : Text) : Option Content :=
  if key = Text.lit "args" then r.arguments.map .thing
  else ((contents r).find? fun f => Text.lit f.1 == key).map (·.2)

/-- Text in ASCII alone. -/
def escaped (t : Text) : Text := t.flatMap fun c => if c.toNat < 128 then [c] else Text.escapeCode c.toNat

def maxWidth : Nat := 1000000000

def maxPrecision : Nat := 0x7fffffff

namespace Field

def has (f : Field) (c : Char) : Bool := f.flags.contains c

/-- Fills up to the width: on the right for a minus flag, otherwise on the left. -/
def pad (f : Field) (t : Text) : Text :=
  let fill := List.replicate (f.width - t.length) ' '
  if f.has '-' then t ++ fill else fill ++ t

def cut (f : Field) (t : Text) : Text :=
  match f.precision with
  | some n => t.take n
  | none => t

/-- A number: its sign and mark stay in front of the zeros that fill it up. -/
def count (f : Field) (isNegative : Bool) (mark digits : Text) : Text :=
  let sign : Text := if isNegative then ['-'] else if f.has '+' then ['+'] else if f.has ' ' then [' '] else []
  let front := sign ++ if f.has '#' then mark else []
  let digits := List.replicate (f.precision.getD 0 - digits.length) '0' ++ digits
  if f.has '0' && !f.has '-' then
    front ++ List.replicate (f.width - (front.length + digits.length)) '0' ++ digits
  else f.pad (front ++ digits)

/-- A whole number in decimal digits. -/
def whole (f : Field) (n : Int) : Text := f.count (n < 0) [] (Text.ofNat n.natAbs)

def zeros (n : Nat) : Text := List.replicate n '0'

/-- Places after a point, which a mark keeps where there are none. -/
def places (f : Field) (t : Text) : Text := if t.isEmpty && !f.has '#' then [] else '.' :: t

/-- The digits of a finite number, so many at most. -/
def digitsOf (n : Nat) (x : Binary64) : Digits := if x.magnitude = 0 then ⟨['0'], 1⟩ else x.significant n

/-- Digits with so many places after the first, and the exponent. -/
def scaled (f : Field) (count : Nat) (d : Digits) : Text :=
  let rest := d.digits.drop 1
  let e := d.point - 1
  let exponent := Text.ofNat e.natAbs
  d.digits.take 1 ++ f.places (rest ++ zeros (count - rest.length)) ++ 'e' :: (if e < 0 then '-' else '+') ::
    zeros (2 - exponent.length) ++ exponent

/-- A finite number without its sign: with places after its point, or with an exponent. The general form has an
exponent if the number is small or has more digits than the precision allows, and leaves out zeros at the end unless
there is a mark. -/
def decimal (f : Field) (x : Binary64) : Text :=
  let precision := f.precision.getD 6
  match f.conversion.toLower with
  | 'f' =>
    let n := Binary64.roundHalfEven (x.magnitude * Nat.pow 10 precision) (Nat.pow 2 1074)
    let rest := Text.ofNat (n % Nat.pow 10 precision)
    let rest := if precision = 0 then [] else zeros (precision - rest.length) ++ rest
    Text.ofNat (n / Nat.pow 10 precision) ++ f.places rest
  | 'e' => f.scaled precision (digitsOf (precision + 1) x)
  | _ =>
    let count := max 1 precision
    let d := digitsOf count x
    if !f.has '#' then d.render ⟨-3, count, false⟩
    else
      let d : Digits := { d with digits := d.digits ++ zeros (count - d.digits.length) }
      if d.point < -3 ∨ count < d.point then f.scaled (count - 1) d
      else if d.point ≤ 0 then Text.lit "0." ++ zeros (-d.point).toNat ++ d.digits
      else d.digits.take d.point.toNat ++ '.' :: d.digits.drop d.point.toNat

/-- A number as one with a fraction. -/
def real (f : Field) (x : Binary64) : Text :=
  let body := if x.isNaN then Text.lit "nan" else if x.isFinite then f.decimal x else Text.lit "inf"
  { f with precision := none }.count (x.sign && !x.isNaN) [] (if f.conversion.isUpper then body.map Char.toUpper else body)

/-- Whether the conversion is that of a number with a fraction. -/
def isReal (f : Field) : Bool := (Text.lit "efgEFG").contains f.conversion

/-- Whether the sizes of a field can be held. -/
def isBounded (f : Field) : Bool := f.width ≤ maxWidth && f.precision.getD 0 ≤ maxPrecision

def ofContent (f : Field) : Content → Option Text
  | .words t =>
    match f.conversion with
    | 's' => some (f.pad (f.cut t))
    | 'r' => some (f.pad (f.cut t.quoted))
    | 'a' => some (f.pad (f.cut (escaped t.quoted)))
    | 'c' => if t.length = 1 then some (f.pad t) else none
    | _ => none
  | .thing t =>
    match f.conversion with
    | 's' => some (f.pad (f.cut t))
    | 'r' => some (f.pad (f.cut t))
    | 'a' => some (f.pad (f.cut (escaped t)))
    | _ => none
  | .number n =>
    let hex := Text.hex 1 n
    match f.conversion with
    | 's' => some (f.pad (f.cut (Text.ofNat n)))
    | 'r' => some (f.pad (f.cut (Text.ofNat n)))
    | 'a' => some (f.pad (f.cut (Text.ofNat n)))
    | 'c' => if n.isValidChar then some (f.pad [Char.ofNat n]) else none
    | 'd' => some (f.whole n)
    | 'i' => some (f.whole n)
    | 'u' => some (f.whole n)
    | 'o' => some (f.count false (Text.lit "0o") (Nat.toDigits 8 n))
    | 'x' => some (f.count false (Text.lit "0x") hex)
    | 'X' => some (f.count false (Text.lit "0X") (hex.map Char.toUpper))
    | _ => if f.isReal then (Binary64.ofInt? n).map f.real else none
  | .real x =>
    match f.conversion with
    | 's' => some (f.pad (f.cut x.text))
    | 'r' => some (f.pad (f.cut x.text))
    | 'a' => some (f.pad (f.cut x.text))
    | 'd' => if x.isFinite then some (f.whole x.truncate) else none
    | 'i' => if x.isFinite then some (f.whole x.truncate) else none
    | 'u' => if x.isFinite then some (f.whole x.truncate) else none
    | _ => if f.isReal then some (f.real x) else none

/-- The text of a field, if its sizes can be held. -/
def render (f : Field) (c : Content) : Option Text := if f.isBounded then f.ofContent c else none

end Field

/-- A part of a layout. -/
inductive Piece where
  | char (c : Char)
  | field (f : Field)
  deriving DecidableEq, Repr

/-- The parts of a layout, unless a field is broken. Each step uses up at least one character, so the length of the
layout is fuel enough. -/
def piecesFrom : Nat → Text → Option (List Piece)
  | _, [] => some []
  | 0, _ => none
  | fuel + 1, '%' :: '%' :: t => (piecesFrom fuel t).map (.char '%' :: ·)
  | fuel + 1, '%' :: t => do
    let (f, rest) ← cutField t
    let ps ← piecesFrom fuel rest
    some (.field f :: ps)
  | fuel + 1, c :: t => (piecesFrom fuel t).map (.char c :: ·)

def pieces (layout : Text) : Option (List Piece) := piecesFrom layout.length layout

/-- Writes a record by the parts of a layout, unless it has no such field or a field cannot show it. -/
def written (r : Record) : List Piece → Option Text
  | [] => some []
  | .char c :: ps => (written r ps).map (c :: ·)
  | .field f :: ps => do
    let part ← (content? r f.key).bind f.render
    let rest ← written r ps
    some (part ++ rest)

def render (layout : Text) (r : Record) : Option Text := (pieces layout).bind (written r)

/-- The message alone. -/
def plainLayout : Text := Text.lit "%(message)s"

/-- Time, process, first letter of the level, place and message. -/
def standardLayout : Text :=
  Text.lit "%(asctime)s - pid:%(process)d [%(levelname)-.1s] %(module)s.%(funcName)s:%(lineno)d - %(message)s"

/-- The field of a key without flags and sizes. -/
def Field.plain (key : String) (conversion : Char) : Field := ⟨Text.lit key, [], 0, none, conversion⟩

/-- The field of a key that shows a letter of it, the minus flag without a width. -/
def Field.letter (key : String) : Field := ⟨Text.lit key, ['-'], 0, some 1, 's'⟩

/-! ## Lemmas -/

section

variable {r : Record} {f : Field} {c : Content} {ps : List Piece} {part rest : Text}

theorem written_field (h : written r ps = some rest) (hc : content? r f.key = some c) (hpart : f.render c = some part) :
    written r (.field f :: ps) = some (part ++ rest) := by
  simp [written, hc, hpart, h]

theorem Field.render_plain_words (key : String) (t : Text) : (Field.plain key 's').render (.words t) = some t := by
  simp [plain, render, isBounded, ofContent, pad, cut]

theorem render_plain (r : Record) : render plainLayout r = some r.message := by
  have hpieces : pieces plainLayout = some [.field (.plain "message" 's')] := by decide +kernel
  have hc : content? r (Text.lit "message") = some (.words r.message) := by simp [content?, contents, Text.lit]
  rw [render, hpieces, Option.bind_some, written_field rfl hc (Field.render_plain_words ..), List.append_nil]

end

end SocksTunnel.Log
