import SocksTunnel.Coding.Policy
import SocksTunnel.Log.Format

/-
  SocksTunnel.Log.Sink — where the log goes. Setting it up checks the level, opens the
  file if one is named, and checks the layout, in this order; only then a new handler takes
  the place of the one of the set-up before. A set-up that fails leaves level and handlers as
  they were, but may leave a new file that is empty.

  Which file a name leads to, and which files cannot be opened, is up to the disk. So is the
  path of a name, which counts where a surrogate in it stands for no octet: the defect is at its
  place in the path.

  Records below the level are dropped, and each handler writes the others to its sink.
  Before the first set-up, and from sources that are not this program's, only warnings and
  worse are shown, as their bare message.

  Proved: a set-up that fails changes neither level nor handlers (`setup_error`).
-/

namespace SocksTunnel

/-- A file by the name that the disk has for it. -/
abbrev File := Bytes

/-- The files of the log and what stands in them. -/
abbrev Files := List (File × Text)

/-- What the system makes of the names of files. -/
structure Disk where
  /-- The whole path of a name that is broken text. -/
  path : BrokenText → List Sign
  /-- The file that a name leads to. -/
  file : Bytes → File
  /-- Why the file of a name cannot be opened, the files of the log being as they are. -/
  refusal : Files → Bytes → Option IoError

/-- A disk on which every name leads to a file of its own that can be opened. -/
def Disk.plain : Disk := ⟨BrokenText.signs, id, fun _ _ => none⟩

/-- How lines are laid out, and whether that is by characters alone. -/
structure LineLayout where
  text : Text
  isText : Bool
  deriving DecidableEq, Repr

namespace LineLayout

def ofText (t : Text) : LineLayout := ⟨t, true⟩

/-- A layout with surrogates, as a terminal shows it. -/
def ofBroken (b : BrokenText) : LineLayout := ⟨b.plain, false⟩

end LineLayout

/-- Where records go and how they are laid out: to a file, or to the terminal. -/
structure Sink where
  file : Option File
  layout : LineLayout
  deriving DecidableEq, Repr

/-- The line of a record, if the layout can hold it. A file takes no surrogates. -/
def Sink.line (s : Sink) (r : Record) : Option Text :=
  if s.layout.isText || s.file.isNone then Log.render s.layout.text r else none

/-- One that writes records to a sink. Each has a number of its own. -/
structure Handler where
  number : Nat
  sink : Sink
  deriving DecidableEq, Repr

structure Log where
  level : Level
  /-- Those that get every record, in the order they were added. -/
  handlers : List Handler
  /-- The one that the last set-up added and the next one removes. -/
  current : Option Handler
  /-- How many handlers have been made. -/
  made : Nat
  terminal : Text
  files : Files
  disk : Disk

namespace Log

def start : Log := ⟨.debug, [], none, 0, [], [], .plain⟩

/-- The sink of the last set-up. -/
def sink (l : Log) : Option Sink := l.current.map Handler.sink

/-- The name of the sources that the log is set up for. -/
def scope : Text := Text.lit "async_proxy"

def defaultLevel : Value := .text (Text.lit "INFO")

def defaultLayout : Value := .text standardLayout

/-! ## Files -/

/-- Opens the file of a name, which is made if it is not there. -/
def openFile (d : Disk) (name : Bytes) (files : Files) : Except Failure (File × Files) :=
  if name.contains 0 then .error (.fault .logFileName)
  else
    match d.refusal files name with
    | some e => .error (.peer (.io e))
    | none =>
      let file := d.file name
      .ok (file, if (files.lookup file).isSome then files else files ++ [(file, [])])

/-- The policy for the paths of files: surrogates stand for octets past ASCII. -/
def pathPolicy : Text := Text.lit "surrogateescape"

/-- The name of a file in a setting: none if it does not count as given. -/
def nameOf (d : Disk) (v : Value) : Except Failure (Option Bytes) :=
  if !v.isGiven then .ok none
  else
    match v with
    | .text t => .ok (some (Text.utf8 t))
    | .broken b => ((Policy.writeUtf8 pathPolicy (d.path b)).map some).mapError fun e => .fault (.coding e)
    | .bytes b => .ok (some b)
    | _ => .error (.fault .wrongType)

/-- Opens the file of a setting, if it names one. -/
def openSetting (d : Disk) (v : Value) (files : Files) : Except Failure (Option File × Files) := do
  match ← nameOf d v with
  | none => .ok (none, files)
  | some name =>
    let (file, files) ← openFile d name files
    .ok (some file, files)

/-- The layout of a setting: the plain one if it does not count as given. -/
def layoutOf (v : Value) : Except Fault LineLayout :=
  if !v.isGiven then .ok (.ofText plainLayout)
  else
    match v with
    | .text t => if hasField t then .ok (.ofText t) else .error (.logFormat t)
    | .broken b => if hasField b.plain then .ok (.ofBroken b) else .error (.logFormat b.plain)
    | _ => .error .wrongType

/-! ## Set-up -/

/-- The handlers without this one. -/
def remove (old : Option Handler) (hs : List Handler) : List Handler :=
  match old with
  | some h => hs.erase h
  | none => hs

def add (h : Handler) (hs : List Handler) : List Handler := if hs.contains h then hs else hs ++ [h]

/-- The log with a new handler in the place of that of the last set-up. -/
def replace (s : Sink) (l : Log) : Log :=
  let h : Handler := ⟨l.made, s⟩
  { l with handlers := add h (remove l.current l.handlers), current := some h, made := l.made + 1 }

def setup (file level layout : Value) (l : Log) : Except Failure Unit × Log :=
  match Level.ofValue level with
  | .error f => (.error (.fault f), l)
  | .ok level =>
    match openSetting l.disk file l.files with
    | .error f => (.error f, l)
    | .ok (file, files) =>
      match layoutOf layout with
      | .error f => (.error (.fault f), { l with files := files })
      | .ok layout => (.ok (), replace ⟨file, layout⟩ { l with files := files, level := level })

/-! ## Writing -/

/-- Whether a source is this program or a part of it. -/
def isOwn (source : Text) : Bool := source == scope || (scope ++ ['.']).isPrefixOf source

def append (text : Text) (file : File) : Files → Files
  | [] => []
  | (f, t) :: r => if f = file then (f, t ++ text) :: r else (f, t) :: append text file r

def put (file : Option File) (text : Text) (l : Log) : Log :=
  match file with
  | some file => { l with files := append text file l.files }
  | none => { l with terminal := l.terminal ++ text }

/-- A record without a handler for it. -/
def putBare (r : Record) (l : Log) : Log :=
  if Level.warning.number ≤ r.level.number then l.put none (r.message ++ ['\n']) else l

/-- A handler writes a record by its layout, unless the layout cannot hold it. -/
def emit (r : Record) (l : Log) (h : Handler) : Log :=
  match h.sink.line r with
  | some t => l.put h.sink.file (t ++ ['\n'])
  | none => l

def write (r : Record) (l : Log) : Log :=
  if !isOwn r.source then l.putBare r
  else if r.level.number < l.level.number then l
  else if l.handlers.isEmpty then l.putBare r
  else l.handlers.foldl (emit r) l

/-- Whether records of a level are at or above that of the log. -/
def shows (l : Log) (v : Level) : Bool := decide (l.level.number ≤ v.number)

theorem setup_error {file level layout : Value} {l : Log} {f : Failure} (h : (setup file level layout l).1 = .error f) :
    (setup file level layout l).2.level = l.level ∧ (setup file level layout l).2.handlers = l.handlers ∧
      (setup file level layout l).2.current = l.current := by
  unfold setup at h ⊢
  split
  · exact ⟨rfl, rfl, rfl⟩
  · split
    · exact ⟨rfl, rfl, rfl⟩
    · split
      · exact ⟨rfl, rfl, rfl⟩
      · simp_all

end Log

end SocksTunnel
