import TestImpact.Files.Operations
import TestImpact.Text.Blank
import TestImpact.Text.Raw

/-!
# Programs

What starts when a file is executed: one of the standard tools, or the interpreter that the first
line of a script names. Other files cannot be executed.
-/

namespace TestImpact.Child

/-- A standard tool of the system. -/
inductive Tool where
  | shell
  | sleep
  | success
  | failure
  | echo
  | printf
  | test
  | bracket
  | kill
  | cat
  | touch
  | makeDir
  | removeDir
  | remove
  | unlink
  | move
  | copy
  | link
  | readLink
  | realPath
  | chmod
  | list
  | baseName
  | dirName
  | head
  | tail
  | count
  | sort
  | unique
  | cut
  | translate
  | tee
  | sequence
  | compare
  | grep
  | expr
  | env
  | printEnv
  | workingDir
  deriving DecidableEq, Repr, Inhabited

namespace Tool

/-- The names of the tools. The shell has two. -/
def names : List (String × Tool) :=
  [("sh", shell), ("dash", shell), ("sleep", sleep), ("true", success), ("false", failure),
   ("echo", echo), ("printf", printf), ("test", test), ("[", bracket), ("kill", kill),
   ("cat", cat), ("touch", touch), ("mkdir", makeDir), ("rmdir", removeDir), ("rm", remove),
   ("unlink", unlink), ("mv", move), ("cp", copy), ("ln", link), ("readlink", readLink),
   ("realpath", realPath), ("chmod", chmod), ("ls", list), ("basename", baseName),
   ("dirname", dirName), ("head", head), ("tail", tail), ("wc", count), ("sort", sort),
   ("uniq", unique), ("cut", cut), ("tr", translate), ("tee", tee), ("seq", sequence),
   ("cmp", compare), ("grep", grep), ("expr", expr), ("env", env),
   ("printenv", printEnv), ("pwd", workingDir)]

/-- The directories that hold the tools. -/
def directories : List Location := [["bin"], ["bin", "usr"]]

/-- The tool at a location. -/
def at? (l : Location) : Option Tool :=
  match l with
  | [] => none
  | name :: dir => if directories.contains dir then names.lookup name else none

/-- The file that takes everything and holds nothing. -/
def nullFile : String := "/dev/null"

/-- Puts an empty file into a tree. -/
def installAt (p : String) (executable : Bool) (files : Files) : Files :=
  (files.putFile [] (Path.ofText p) [] executable).1

/-- Puts the tools into a tree, and the file that holds nothing. -/
def install (files : Files) : Files :=
  directories.foldl (fun files dir =>
    names.foldl (fun files (name, _) => installAt (Files.pathText (name :: dir)) true files) files)
    (installAt nullFile false files)

end Tool

/-- What starts when a file is executed, with the name that called it and its arguments. -/
structure Start where
  tool : Tool
  name : Raw
  arguments : List Raw
  deriving DecidableEq, Repr, Inhabited

/-- The interpreter in the first line of a script, with its argument if it has one. -/
def interpreter? (content : List UInt8) : Option (Raw × Option Raw) :=
  match content with
  | 0x23 :: 0x21 :: rest =>
    let line := Raw.ofBytes (rest.takeWhile (· ≠ 0x0A))
    let isGap (c : Char) : Bool := c = ' ' || c = '\t'
    let trimmed := Text.trimBy isGap line
    let program := trimmed.takeWhile (!isGap ·)
    let argument := (trimmed.dropWhile (!isGap ·)).dropWhile isGap
    some (program, if argument.isEmpty then none else some argument)
  | _ => none

/-- How many scripts may interpret each other. -/
def mostInterpreters : Nat := 5

/-- Executes a file: what starts, or why nothing does. `called` is the name that the program sees,
and the first number bounds the interpreters. -/
def executeFrom (files : Files) (cwd : Location) : Nat → Raw → Raw → List Raw →
    Except OsErrorKind Start
  | depth, called, name, arguments =>
    match files.locateText cwd true name.toText with
    | .error kind => .error kind
    | .ok ⟨_, none⟩ => .error .noEntry
    | .ok ⟨l, some (.file content true)⟩ =>
      match Tool.at? l with
      | some tool => .ok ⟨tool, called, arguments⟩
      | none =>
        match interpreter? content, depth with
        | some (program, argument), depth + 1 =>
          if program.isEmpty then .error .execFormat
          else executeFrom files cwd depth program program (argument.toList ++ name :: arguments)
        | some _, 0 => .error .tooManyLinks
        | none, _ => .error .execFormat
    | .ok _ => .error .denied

def execute (files : Files) (cwd : Location) (called name : Raw) (arguments : List Raw) :
    Except OsErrorKind Start :=
  executeFrom files cwd mostInterpreters called name arguments

/-- A name in a directory of a search path; the empty text is the current directory. -/
def inDirectory (dir name : Raw) : Raw :=
  if dir.isEmpty then name else if dir.getLast? = some '/' then dir ++ name else dir ++ '/' :: name

/-- The names under which a program is looked for. -/
def candidates (env : List (Raw × Raw)) (name : Raw) : List Raw :=
  if name.contains '/' then [name]
  else
    let path := (env.lookup "PATH".toList).getD Files.standardPath.toList
    (Text.splitOn ':' path).map fun dir => inDirectory dir name

/-- The errors that let the search for a program go on. -/
def meansElsewhere : OsErrorKind → Bool
  | .noEntry | .notDirectory => true
  | _ => false

/-- Tries names in order. The first error that is about more than a missing file is reported, and
otherwise the last one. -/
def startFirst (files : Files) (cwd : Location) (called : Raw) (arguments : List Raw)
    (kept : Option OsErrorKind) (last : OsErrorKind) : List Raw → Except OsErrorKind Start
  | [] => .error (kept.getD last)
  | name :: names =>
    match execute files cwd called name arguments with
    | .ok start => .ok start
    | .error kind =>
      let kept := kept.or (if meansElsewhere kind then none else some kind)
      startFirst files cwd called arguments kept kind names

/-- The program of a command in a directory and an environment. -/
def find (files : Files) (cwd : Location) (env : List (Raw × Raw)) (name : Raw)
    (arguments : List Raw) : Except OsErrorKind Start :=
  startFirst files cwd name arguments none .noEntry (candidates env name)

/-- The path of the shell. -/
def shellPath : Raw := "/bin/sh".toList

/-- Tries names in order like a shell: what is neither a tool nor a script with an interpreter is
read by the shell. -/
def startOrRead (files : Files) (cwd : Location) (called : Raw) (arguments : List Raw)
    (kept : OsErrorKind) : List Raw → Except OsErrorKind Start
  | [] => .error kept
  | name :: names =>
    match execute files cwd called name arguments with
    | .ok start => .ok start
    | .error .execFormat => .ok ⟨.shell, shellPath, name :: arguments⟩
    | .error kind =>
      startOrRead files cwd called arguments (if meansElsewhere kind then kept else kind) names

/-- The path of the first file of a name that can be executed, or why there is none. -/
def findPath (files : Files) (cwd : Location) (kept : OsErrorKind) :
    List Raw → Except OsErrorKind Raw
  | [] => .error kept
  | name :: names =>
    match files.locateText cwd true name.toText with
    | .ok ⟨_, some (.file _ true)⟩ => .ok name
    | .ok ⟨_, some _⟩ => findPath files cwd .denied names
    | .ok ⟨_, none⟩ => findPath files cwd kept names
    | .error kind => findPath files cwd (if meansElsewhere kind then kept else kind) names

end TestImpact.Child
