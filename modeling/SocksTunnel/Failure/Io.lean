import SocksTunnel.Failure.Fault

/-
  SocksTunnel.Failure.Io — errors of the system's input and output: what went wrong, as a
  number and a reason or in words alone, and the files that it went wrong with.

  The number of an error of no kind of its own decides its kind.

  Proved: an error in words alone has these words as its message (`message_ofWords`).
-/

namespace SocksTunnel

/-- The kinds of input and output errors. -/
inductive IoKind where
  | general
  | connectionReset
  | brokenPipe
  | timedOut
  | connectionRefused
  | connectionAborted
  | addressInfo
  | notFound
  | isDirectory
  | notDirectory
  | taken
  | permission
  | interrupted
  | wouldBlock
  | noProcess
  | noChild
  deriving DecidableEq, Repr

namespace IoKind

/-- The name that stands for an error without a text. -/
def name : IoKind → String
  | general => "OSError"
  | connectionReset => "ConnectionResetError"
  | brokenPipe => "BrokenPipeError"
  | timedOut => "TimeoutError"
  | connectionRefused => "ConnectionRefusedError"
  | connectionAborted => "ConnectionAbortedError"
  | addressInfo => "gaierror"
  | notFound => "FileNotFoundError"
  | isDirectory => "IsADirectoryError"
  | notDirectory => "NotADirectoryError"
  | taken => "FileExistsError"
  | permission => "PermissionError"
  | interrupted => "InterruptedError"
  | wouldBlock => "BlockingIOError"
  | noProcess => "ProcessLookupError"
  | noChild => "ChildProcessError"

/-- The numbers that have a kind of their own. -/
def numbers : List (Int × IoKind) := [
  (1, permission), (2, notFound), (3, noProcess), (4, interrupted), (10, noChild), (11, wouldBlock), (13, permission),
  (17, taken), (20, notDirectory), (21, isDirectory), (32, brokenPipe), (103, connectionAborted),
  (104, connectionReset), (108, brokenPipe), (110, timedOut), (111, connectionRefused), (114, wouldBlock),
  (115, wouldBlock)]

/-- The kind of an error of this kind with a number. -/
def ofNumber (k : IoKind) (n : Value) : IoKind :=
  if k = general then (n.whole?.bind fun i => numbers.lookup i).getD general else k

end IoKind

structure IoError where
  kind : IoKind
  /-- Nothing for an error in words alone. -/
  number : Option Text
  reason : Text
  /-- The file and perhaps a second one, as messages show them. -/
  files : List Text
  deriving DecidableEq, Repr

namespace IoError

def ofWords (k : IoKind) (t : Text) : IoError := ⟨k, none, t, []⟩

def fileText : List Text → Text
  | [] => []
  | files => .lit ": " ++ (Text.lit " -> ").intercalate files

def message (e : IoError) : Text :=
  match e.number with
  | none => e.reason
  | some n => .lit "[Errno " ++ n ++ .lit "] " ++ e.reason ++ fileText e.files

/-- The message of an error without files, or the reason of one that names them. -/
def brief (e : IoError) : Text := if e.files.isEmpty then e.message else e.reason

/-- What an operation that would block may say in the place of a file: how much it has done, as a whole number. -/
def isProgress (k : IoKind) (file : Value) : Except Fault Bool :=
  match k, file with
  | .wouldBlock, .bool _ => .ok true
  | .wouldBlock, .int n =>
    if -0x8000000000000000 ≤ n ∧ n < 0x8000000000000000 then .ok true else .error .indexRange
  | .wouldBlock, .real _ => .error .wrongType
  | .wouldBlock, .ipv4 _ => .error .wrongType
  | .wouldBlock, .ipv6 _ => .error .wrongType
  | _, _ => .ok false

/-- The files of an error; nothing stands for none. -/
def filesOf (k : IoKind) (file second : Value) : Except Fault (List Text) := do
  if ← isProgress k file then .ok []
  else
    match file, second with
    | .nothing, _ => .ok []
    | f, .nothing => .ok [f.shown]
    | f, g => .ok [f.shown, g.shown]

/-- The error of two to five settings: number, reason, file, one that is left aside, and a second file.
With fewer or more of them they are its words. -/
def ofSettings (k : IoKind) (vs : List Value) : Except Fault IoError :=
  match vs with
  | number :: reason :: rest =>
    if 3 < rest.length then .ok (ofWords k (Value.words vs))
    else do
      let kind := k.ofNumber number
      let files ← filesOf kind (rest.headD .nothing) ((rest.drop 2).headD .nothing)
      .ok ⟨kind, some number.plain, reason.plain, files⟩
  | vs => .ok (ofWords k (Value.words vs))

theorem message_ofWords (k : IoKind) (t : Text) : (ofWords k t).message = t := rfl

end IoError

end SocksTunnel
