import SocksTunnel.Command.Flag
import SocksTunnel.Setting.Sequence

/-
  SocksTunnel.Command.Arguments — reads the words of a command line. A word that starts
  with a dash is a flag, unless it is a negative number or has a space; a flag may be cut
  short as long as one flag alone matches, and may bring its value after an equals sign.
  Letters may be joined behind one dash. All that belongs to no flag is refused together,
  at the end.

  The words are told apart first and carried out in order afterwards, so that an
  ambiguous flag is refused before anything else. Words are signs, since those that a system
  hands over may be broken text. Callers may give other settings among the words; such a word
  can only be the value of a flag.

  Proved: no words leave every flag at its default (`parse_nil`).
-/

namespace SocksTunnel

/-- How a command line ends before anything is done: it asked for help or the version, or it was
refused. -/
inductive Ending where
  | help
  | version
  | usage (message : Text)
  deriving DecidableEq, Repr

def Ending.code : Ending → Nat
  | help => 0
  | version => 0
  | usage _ => 2

/-- Why there is nothing to run. -/
inductive Stop where
  | ended (e : Ending)
  | failed (f : Failure)

/-- A bad value is a mistake of usage; other failures stay what they are. -/
def Stop.of (f : Failure) : Stop := if f.isBadValue then .ended (.usage f.message) else .failed f

def Stop.wrongType : Stop := .failed (.fault .wrongType)

namespace Arguments

/-- A word by its form. A flag has the spelling that it was given in, and perhaps signs of its own. -/
inductive Token where
  | value
  | separator
  | unknown
  | flag (f : Flag) (name : Text) (given : Option (List Sign))
  deriving Repr

/-! ## Forms of words -/

/-- Every spelling of every flag. -/
def spellings : List (Flag × Text) := Flag.all.flatMap fun f => f.names.map (f, ·)

def flagOf? (name : List Sign) : Option Flag := (spellings.find? fun s => s.2.signs == name).map (·.1)

/-- The name before an equals sign, and what follows it. -/
def cutEquals (w : List Sign) : List Sign × Option (List Sign) :=
  match w.dropWhile (· != .char '=') with
  | [] => (w, none)
  | _ :: r => (w.takeWhile (· != .char '='), some r)

/-- The spellings that a word may stand for, with the signs that it brings. -/
def candidates (w : List Sign) : List (Flag × Text × Option (List Sign)) :=
  match w with
  | .char '-' :: .char '-' :: _ =>
    let (name, value) := cutEquals w
    (spellings.filter fun s => name.isPrefixOf s.2.signs).map fun s => (s.1, s.2, value)
  | .char '-' :: c :: r => (spellings.filter fun s => s.2.signs == [.char '-', c]).map fun s => (s.1, s.2, some r)
  | _ => []

/-- Whether a word is a number with a minus sign, a line end after it left aside. -/
def isNegativeNumber (t : Text) : Bool :=
  let isDigit (c : Char) : Bool := (Text.digit? c).isSome
  let t := if t.getLast? = some '\n' then t.dropLast else t
  match t with
  | '-' :: r =>
    match r.dropWhile isDigit with
    | [] => !r.isEmpty
    | '.' :: d => !d.isEmpty && d.all isDigit
    | _ => false
  | _ => false

def listed (items : List Text) : Text := [',', ' '].intercalate items

def classify (w : List Sign) : Except Ending Token :=
  match w with
  | .char '-' :: _ :: _ =>
    match flagOf? w with
    | some f => .ok (.flag f (Sign.text w) none)
    | none =>
      let (name, value) := cutEquals w
      match value.bind fun v => (flagOf? name).map fun f => (f, v) with
      | some (f, v) => .ok (.flag f (Sign.text name) (some v))
      | none =>
        match candidates w with
        | [] =>
          .ok (if (Text.ofSigns? w).any isNegativeNumber || w.contains (.char ' ') then .value else .unknown)
        | [(f, name, given)] => .ok (.flag f name given)
        | many =>
          .error (.usage (Text.lit "ambiguous option: " ++ Sign.text w ++ Text.lit " could match " ++
            listed (many.map (·.2.1))))
  | _ => .ok .value

/-- Whether a word without signs can be told from a flag: it does not count as given, or its first part is
text that is no dash. -/
def isPlainly (v : Value) : Bool :=
  match v.isGiven, v with
  | false, _ => true
  | true, .list (.text t :: _) => t != [] && t != ['-']
  | true, .list (.broken _ :: _) => true
  | true, _ => false

def separator : Text := ['-', '-']

/-- The words with their forms; all that follow a double dash are values. -/
def classifyAll : List Value → Except Stop (List (Value × Token))
  | [] => .ok []
  | v :: r =>
    match v.signs? with
    | some w =>
      if w = separator.signs then .ok ((v, .separator) :: r.map (·, .value))
      else
        match classify w with
        | .error e => .error (.ended e)
        | .ok k => (classifyAll r).map ((v, k) :: ·)
    | none => if isPlainly v then (classifyAll r).map ((v, .value) :: ·) else .error .wrongType

/-! ## Carrying out -/

/-- What is wrong with a flag, all its spellings in front. -/
def complaint (f : Flag) (words : Text) : Ending :=
  .usage (Text.lit "argument " ++ ['/'].intercalate f.names ++ Text.lit ": " ++ words)

/-- A word as a number with a fraction. -/
def realOf : Value → Option Binary64
  | .text t => Text.readReal? t
  | v => v.number.toOption

/-- A word as text, which it may be already. -/
def textOf : Value → Value
  | .broken b => .broken b
  | v => .text v.plain

/-- The value of a flag from its word. -/
def valueOf (f : Flag) (v : Value) : Except Ending Value :=
  match f.kind with
  | .whole =>
    match v.readWhole with
    | .ok (some n) => .ok (.int n)
    | _ => .error (complaint f (Text.lit "invalid int value: " ++ v.shown))
  | .real =>
    match realOf v with
    | some x => .ok (.real x)
    | none => .error (complaint f (Text.lit "invalid float value: " ++ v.shown))
  | .choice =>
    match Protocol.ofName? v.plain with
    | some p => .ok (.text (Text.lit p.name))
    | none =>
      .error (complaint f (Text.lit "invalid choice: " ++ (textOf v).shown ++ Text.lit " (choose from " ++
        listed (Protocol.all.map fun p => (Text.lit p.name).quoted) ++ [')']))
  | _ => .ok (textOf v)

/-- The value of a flag from what stands behind its equals sign. A double dash there ends the words of the
flag, so that it has an empty list of them. -/
def givenOf (f : Flag) (w : List Sign) : Except Ending Value :=
  if w = separator.signs then .ok (.list []) else valueOf f (.ofSigns w)

/-- Sets a flag that takes no value; help ends everything. -/
def switchOn (s : Settings) (f : Flag) : Except Ending Settings :=
  if f = .help then .error .help else .ok (s.set f (.bool true))

def ignored (f : Flag) (w : List Sign) : Ending :=
  complaint f (Text.lit "ignored explicit argument " ++ (Value.ofSigns w).shown)

/-- The flags of letters that are joined behind one dash, the first of which is `f`. A letter that is
none is refused with all that follows it. -/
def cluster (f : Flag) : List Sign → Except Ending (List Flag)
  | [] => .ok [f]
  | s :: r =>
    match s.char?.bind Flag.ofLetter? with
    | none => .error (ignored f (s :: r))
    | some g => (cluster g r).map (f :: ·)

/-- The flags of a word whose flag takes no value. Signs behind a long name are refused, and so are no signs
behind an equals sign. -/
def switches (f : Flag) (name : Text) : Option (List Sign) → Except Ending (List Flag)
  | none => .ok [f]
  | some w => if w = [] ∨ name.take 2 = separator then .error (ignored f w) else cluster f w

/-- Carries out the words in order; `left` are those that belong to no flag. -/
def run : Settings → List Value → List (Value × Token) → Except Ending (Settings × List Value)
  | s, left, [] => .ok (s, left)
  | s, left, (_, .flag f name given) :: rest =>
    if f.kind = .switch then
      match switches f name given with
      | .error e => .error e
      | .ok fs =>
        match fs.foldlM switchOn s with
        | .error e => .error e
        | .ok s => run s left rest
    else
      match given, rest with
      | some w, rest =>
        match givenOf f w with
        | .error e => .error e
        | .ok v => run (s.set f v) left rest
      | none, (v, .value) :: rest =>
        match valueOf f v with
        | .error e => .error e
        | .ok v => run (s.set f v) left rest
      | none, _ => .error (complaint f (Text.lit "expected one argument"))
  | s, left, (word, _) :: rest => run s (left ++ [word]) rest

/-- Words as text, if all of them have signs. -/
def texts? (words : List Value) : Option (List Text) := words.mapM fun v => v.signs?.map Sign.text

/-- The end of a command line with words that belong to no flag. -/
def refusal (left : List Value) : Stop :=
  match texts? left with
  | some words => .ended (.usage (Text.lit "unrecognized arguments: " ++ [' '].intercalate words))
  | none => .wrongType

/-- The settings of a command line. -/
def parse (words : List Value) : Except Stop Settings := do
  let tokens ← classifyAll words
  match run .default [] tokens with
  | .error e => .error (.ended e)
  | .ok (s, left) =>
    if !left.isEmpty then .error (refusal left)
    else if (s.get .version).isGiven then .error (.ended .version)
    else .ok s

theorem parse_nil : parse [] = .ok .default := rfl

end Arguments

end SocksTunnel
