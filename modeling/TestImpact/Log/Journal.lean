import TestImpact.Config.Check
import TestImpact.Files.Operations
import TestImpact.Log.Line
import TestImpact.Log.Method
import TestImpact.Log.Template
import TestImpact.Terminal
import TestImpact.Text.Case

/-!
# The journal

Where log records go. A journal that was set up has a root level and open sinks, each with a format
and a level of its own; a record below the root level is dropped, and each sink drops what is below
its own level. Before that, structured records are written to the output stream, and plain ones only
if they are warnings or worse. Structured records are those of `structlog`, version 24.1 or later.
-/

namespace TestImpact

/-- Where a sink writes. -/
inductive LogTarget where
  | stream (s : StandardStream)
  | file (h : Files.Handle)
  deriving DecidableEq, Repr, Inhabited

/-- An open output: records below the threshold are left out. -/
structure LogSink where
  target : LogTarget
  format : LogFormat
  threshold : Nat
  deriving DecidableEq, Repr, Inhabited

structure Journal where
  /-- The weight of the root level, once the journal was set up. -/
  root : Option Nat
  sinks : List LogSink
  /-- The id of the launch in flight. -/
  runId : Option String
  deriving Repr, Inhabited

/-- What log records are written to. -/
structure Desk where
  files : Files
  terminal : Terminal
  deriving Inhabited

/-- Writes text to a standard stream. -/
def Desk.write (desk : Desk) (stream : StandardStream) (s : String) : Desk :=
  { desk with terminal := desk.terminal.write stream s }

namespace Journal

/-- The journal before it is set up. -/
def start : Journal := ⟨none, [], none⟩

/-- The weight of the root level of a journal that was not set up. -/
def initialRoot : Nat := LogLevel.warning.weight

/-- The width of events before the journal is set up. -/
def initialEventWidth : Nat := 30

/-- The root level and the levels of the sinks. -/
def levels (j : Journal) : List Nat := j.root.getD initialRoot :: j.sinks.map (·.threshold)

/-! ### Setting up -/

/-- Opens the target of an output; the directories above a file are made, and so is the file. -/
def openTarget (cwd : Location) (destination : String) (files : Files) :
    Files × Except Fault LogTarget :=
  match destination with
  | "stderr" => (files, .ok (.stream .errors))
  | "stdout" => (files, .ok (.stream .output))
  | _ =>
    let p := Path.ofText destination
    match files.ensureDir cwd p.parent with
    | (files, .error f) => (files, .error f)
    | (files, .ok ()) =>
      let file := p.lexical
      match files.append cwd file [] with
      | .error f => (files, .error f)
      | .ok files =>
        match files.find cwd true file with
        | .ok spot => (files, .ok (.file (files.hold spot.location)))
        | .error f => (files, .error f)

/-- Opens outputs in order, up to the first that cannot be opened. -/
def openSinks (cwd : Location) (config : LoggingConfig) :
    List LogOutput → Files → List LogSink × Files × Except Fault Unit
  | [], files => ([], files, .ok ())
  | o :: outputs, files =>
    match openTarget cwd o.destination files with
    | (files, .error f) => ([], files, .error f)
    | (files, .ok target) =>
      let (sinks, files, result) := openSinks cwd config outputs files
      (⟨target, o.format, config.threshold o⟩ :: sinks, files, result)

/-- Sets up the journal anew. If an output cannot be opened, the root level and the outputs before
it stand. -/
def configure (j : Journal) (cwd : Location) (config : LoggingConfig) (files : Files) :
    Journal × Files × Except Fault Unit :=
  let (sinks, files, result) := openSinks cwd config config.outputs files
  ({ j with root := some config.level.weight, sinks := sinks }, files, result)

/-- The configuration with one output to the error stream and a level given by name in any case. -/
def simpleConfig (lib : Config.Library) (format : LogFormat) (level : String) :
    Checked LoggingConfig :=
  Config.checkLogging lib default (.ofFields [("level", .text (Text.upper level)),
    ("outputs", .list [.ofFields [("format", .text format.name)]])])

/-! ### Writing -/

/-- The lines that a record writes, each with where it goes. Without sinks, the text that stands for
the record goes to the error stream if it is a warning or worse. -/
def lines (j : Journal) (level : LogLevel) (entries : List (Data × Data)) (bare : String) :
    List (LogTarget × String) :=
  if level.weight < j.root.getD initialRoot then []
  else if j.sinks.isEmpty then
    if level.weight < initialRoot then [] else [(.stream .errors, bare ++ "\n")]
  else
    (j.sinks.filter fun sink => sink.threshold ≤ level.weight).map fun sink =>
      (sink.target, LogLine.render sink.format entries ++ "\n")

/-- The lines of a record made at a time. Before the journal is set up, records show no run id. -/
def linesOf (j : Journal) (time : String) (r : LogRecord) : List (LogTarget × String) :=
  match j.root with
  | none =>
    let entries := LogRecord.entries { r with runId := none } time
    [(.stream .output, LogLine.readable initialEventWidth entries ++ "\n")]
  | some _ =>
    let entries := r.entries time
    j.lines r.level entries (Data.map entries).toNested

/-- Writes the lines that go to files. A file that was removed takes no more lines. -/
def writeFiles (lines : List (LogTarget × String)) (files : Files) : Files :=
  lines.foldl (fun files (target, line) =>
    match target with
    | .file h => files.extend h (Text.encode line)
    | .stream _ => files) files

/-- Writes the lines that go to standard streams. -/
def writeStreams (lines : List (LogTarget × String)) (terminal : Terminal) : Terminal :=
  lines.foldl (fun terminal (target, line) =>
    match target with
    | .file _ => terminal
    | .stream s => terminal.write s line) terminal

def writeLines (lines : List (LogTarget × String)) (desk : Desk) : Desk :=
  ⟨writeFiles lines desk.files, writeStreams lines desk.terminal⟩

/-- Logs a record made at a time. -/
def record (j : Journal) (time : String) (r : LogRecord) (desk : Desk) : Desk :=
  writeLines (j.linesOf time r) desk

/-- The name of what takes records, after its root level. -/
def takerName (j : Journal) : String :=
  let level := j.root.bind fun root => LogLevel.all.find? (·.weight = root)
  "BoundLoggerFilteringAt" ++ level.elim "Notset" fun l =>
    String.ofList ((l.label.toList.take 1).map Char.toUpper ++ l.label.toList.drop 1)

/-- Logs an event with fields under a word that stands for a level. A field may not have a name that
the call itself needs, and an error that is being handled is marked as one. Before the journal is
set up, a request for the stack is not shown. -/
def log (j : Journal) (time word event : String) (fields : List (String × Data)) (desk : Desk) :
    Desk × Except Fault Unit :=
  match LogMethod.ofWord? word with
  | none =>
    (desk, .error (.badForm s!"'{j.takerName}' object has no attribute '{word}'"))
  | some m =>
    let isDropped := m.level.weight < j.root.getD 0
    match m.takenName? isDropped (fields.map (·.1)) with
    | some complaint => (desk, .error (.badType complaint))
    | none =>
      let marked :=
        if m = .handled && !fields.any (·.1 = "exc_info") then [("exc_info", Data.bool true)]
        else []
      let fields := fields ++ marked
      match j.root with
      | some _ => (j.record time ⟨event, m.level, fields, j.runId⟩ desk, .ok ())
      | none =>
        let r : LogRecord := ⟨event, m.level, fields.filter (·.1 ≠ "stack_info"), none⟩
        match LogLine.trailingDefect? (r.entries time) with
        | some complaint => (desk, .error (.badType complaint))
        | none => (j.record time r desk, .ok ())

/-- What a bare record of an error that is being handled ends with. -/
def noException : String := "\nNoneType: None"

/-- Logs a plain message with values in place of its conversions; one that does not fit them is
dropped. -/
def message (j : Journal) (time : String) (m : LogMethod) (template : String)
    (values : List Data) (desk : Desk) : Desk :=
  match Log.Template.fill? template values with
  | none => desk
  | some text =>
    let marked := m = .handled
    let mark := if marked then [("exc_info", Data.list [.null, .null, .null])] else []
    let r : LogRecord := ⟨text, m.level, ("event", Data.text text) :: mark, j.runId⟩
    writeLines (j.lines m.level (r.entries time) (text ++ if marked then noException else "")) desk

/-! ### Run ids -/

/-- Sets the id of the launch in flight: the given one, or a fresh one if that is absent or empty.
-/
def setRunId (j : Journal) (fresh : String) (given : Option String) : Journal :=
  { j with runId := some ((given.filter (· ≠ "")).getD fresh) }

def clearRunId (j : Journal) : Journal := { j with runId := none }

end Journal

end TestImpact
