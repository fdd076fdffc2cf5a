import TestImpact.Error

/-!
# Faults

What stops an operation besides a launch error: errors of the operating system, interruption, and
values that cannot be worked with. A fault is described by its cause; `message` is its text.
-/

namespace TestImpact

/-- The errors of the operating system. -/
inductive OsErrorKind where
  | noEntry
  | execFormat
  | denied
  | present
  | notDirectory
  | isDirectory
  | nameTooLong
  | tooManyLinks
  | unspecified
  deriving DecidableEq, Repr, Inhabited

namespace OsErrorKind

def number : OsErrorKind → Nat
  | noEntry => 2
  | execFormat => 8
  | denied => 13
  | present => 17
  | notDirectory => 20
  | isDirectory => 21
  | nameTooLong => 36
  | tooManyLinks => 40
  | unspecified => 0

def text : OsErrorKind → String
  | noEntry => "No such file or directory"
  | execFormat => "Exec format error"
  | denied => "Permission denied"
  | present => "File exists"
  | notDirectory => "Not a directory"
  | isDirectory => "Is a directory"
  | nameTooLong => "File name too long"
  | tooManyLinks => "Too many levels of symbolic links"
  | unspecified => ""

end OsErrorKind

/-- An error of the operating system, with what it is about. -/
inductive OsError where
  /-- About a file. -/
  | at (kind : OsErrorKind) (path : String)
  /-- About the directory that a child was to start in. -/
  | startingIn (kind : OsErrorKind) (path : String)
  /-- About a symbolic link that was to be made. -/
  | linking (kind : OsErrorKind) (target path : String)
  /-- About the current directory, which was removed. -/
  | nowhere
  /-- With a text of its own. -/
  | described (kind : OsErrorKind) (text : String)
  deriving DecidableEq, Repr, Inhabited

namespace OsError

def kind : OsError → OsErrorKind
  | .at kind _ | startingIn kind _ | linking kind _ _ | described kind _ => kind
  | nowhere => .noEntry

def message : OsError → String
  | .at kind path => s!"[Errno {kind.number}] {kind.text}: {Text.quoted path}"
  | startingIn kind path => s!"[Errno {kind.number}] {kind.text}: PosixPath({Text.quoted path})"
  | linking kind target path =>
    s!"[Errno {kind.number}] {kind.text}: {Text.quoted target} -> {Text.quoted path}"
  | nowhere => s!"[Errno {OsErrorKind.noEntry.number}] {OsErrorKind.noEntry.text}"
  | described _ text => text

end OsError

/-- What stops an operation besides a launch error. -/
inductive Fault where
  | os (e : OsError)
  | timeout (text : String)
  /-- A child that was waited for has not ended in time. -/
  | stillRunning (command seconds : String)
  | interrupted (text : String)
  | exited (text : String)
  /-- A path holds a character that no file name holds. -/
  | nullByte
  | linkLoop (path : String)
  | noHome
  /-- The value of a section in the environment cannot be read. -/
  | badSetting (name : String)
  /-- A name in a configuration file is no text. -/
  | nameNotText
  /-- A file holds bytes that are no text. -/
  | undecodable (reason : String)
  /-- A value is out of the range of its type. -/
  | badValue (text : String)
  /-- A number does not fit into a type of fixed size. -/
  | tooLarge (text : String)
  | badKey (text : String)
  | badForm (text : String)
  | outOfRange (text : String)
  | badType (text : String)
  /-- A value holds itself where it has to be followed to its end. -/
  | tooDeep
  | failed (text : String)
  deriving DecidableEq, Repr, Inhabited

namespace Fault

def message : Fault → String
  | os e => e.message
  | timeout text | interrupted text | exited text => text
  | stillRunning command seconds => s!"Command '{command}' timed out after {seconds} seconds"
  | nullByte => "embedded null byte"
  | linkLoop path => s!"Symlink loop from {Text.quoted path}"
  | noHome => "Could not determine home directory."
  | badSetting name =>
    s!"error parsing value for field \"{name}\" from source \"EnvSettingsSource\""
  | nameNotText => "keywords must be strings"
  | undecodable reason => reason
  | badValue text | tooLarge text | badKey text | badForm text | outOfRange text | badType text
  | failed text => text
  | tooDeep => "maximum recursion depth exceeded"

end Fault

end TestImpact
