import TestImpact.CommandLine.Basic
import TestImpact.Child.Launcher
import TestImpact.Config.Lax

/-!
# Snapshots

A snapshot is a value that describes what a command runs in: the files with their texts, the current
directory, the variables and the time. The command is carried out on the snapshot, and nothing else
is touched.
-/

namespace TestImpact.CommandLine

structure Snapshot where
  files : Files
  situation : Situation

namespace Snapshot

/-- Puts one file of a snapshot into the tree: a text is a file, a mapping with `link` a symbolic
link, and any other mapping with `run` a file that can be executed. Anything else is a directory. -/
def putEntry (files : Files) (p : Path) (value : Data) : Files :=
  let (files, _) :=
    match value with
    | .text s => files.putFile [] p (Text.encode s) false
    | value =>
      match value.get? "link", value.get? "run" with
      | some target, _ => files.putLink [] p target.toText
      | none, some script => files.putFile [] p (Text.encode script.toText) true
      | none, none => files.ensureDir [] p
  files

/-- The text of a field, or a standard one. -/
def textField (value : Data) (name standard : String) : String :=
  match value.get? name with
  | some (.text s) => s
  | _ => standard

/-- The entries of a field, as texts. -/
def textFields (value : Data) (name : String) : List (String × String) :=
  ((value.get? name).getD .null).entries.map fun (key, value) => (key.toText, value.toText)

/-- The id of a launch by its number. -/
def runId (n : Nat) : String := String.ofList (Text.hexDigits 12 n)

/-- The accounts of a snapshot: their home directories by name, and that of the one that runs. -/
def accountsOf (value : Data) : Accounts where
  own := (value.get? "home").map Data.toText
  directory name := (textFields value "accounts").lookup name

/-- Reads a snapshot: `files` by path, `directory`, `env`, `accounts`, `home` and `time`. -/
def ofData (value : Data) : Snapshot :=
  let directory := Path.ofText (textField value "directory" "/")
  let env := textFields value "env"
  let accounts := accountsOf value
  let tools := Child.Tool.install .empty
  let entries := ((value.get? "files").getD .null).entries
  let files := entries.foldl
    (fun files (p, value) => putEntry files (Path.ofText p.toText) value) tools
  let files := putEntry files directory (.map [])
  let home := Path.ofText ((env.lookup "HOME").getD "/")
  ⟨files, {
    directory
    env
    userFile := home / Config.userFileName
    reader := ⟨.lax, accounts, .standard⟩
    runIds := runId
    elapsed := .ofInt 0
    time := textField value "time" "1970-01-01 00:00:00"
    launcher := Child.launcher accounts }⟩

/-- Carries out a command line on a snapshot. -/
def run (s : Snapshot) (words : List String) : Outcome := CommandLine.run s.situation words s.files

end Snapshot

/-- The exit code that a program can end with: the low byte of the code of a command, and one for a
failure that is not handled. -/
def Ending.byte : Ending → UInt32
  | .exit code => UInt32.ofNat (code.emod 256).toNat
  | .escaped _ => 1

/-- The last line for a failure that is not handled. -/
def Ending.report : Ending → String
  | .exit _ => ""
  | .escaped f => f.summary ++ "\n"

end TestImpact.CommandLine
