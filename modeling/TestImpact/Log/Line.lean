import TestImpact.Config.Basic
import TestImpact.Json.Writer
import TestImpact.Log.Record

/-!
# Log lines

A record as one line: either as JSON or for people to read. The readable form starts with time,
level, event and loggers, and goes on with the remaining values in the order of their names. Both
forms are those of the renderers of `structlog`, version 24.1 or later.
-/

namespace TestImpact.LogLine

/-- Characters for which a text is written in quotes. -/
def needsQuotes (c : Char) : Bool := " \t=\r\n\"'".toList.contains c

/-- A value in a readable line. -/
def shown : Data → String
  | .text s => if s.toList.any needsQuotes then Text.quoted s else s
  | value => value.toNested

def padded (width : Nat) (s : String) : String :=
  s ++ String.ofList (List.replicate (width - s.length) ' ')

/-- The names with a place of their own in a readable line. -/
def leadingNames : List String := ["timestamp", "level", "event", "logger", "logger_name"]

/-- The names of texts that follow a readable line on lines of their own, and of their marker. -/
def trailingNames : List String := ["stack", "exception", "exc_info"]

/-- The value with a place of its own at the start of a readable line. -/
def leading (eventWidth : Nat) (name : String) (value : Data) : String :=
  match name with
  | "level" => "[" ++ padded 9 value.toText ++ "]"
  | "event" => padded eventWidth value.toText
  | "logger" | "logger_name" => "[" ++ value.toText ++ "]"
  | _ => value.toText

def dropSpacesAtEnd (s : String) : String :=
  String.ofList (s.toList.reverse.dropWhile (· = ' ')).reverse

/-- The line between a stack and an exception. -/
def rule : String := "\n\n" ++ String.ofList (List.replicate 79 '=') ++ "\n"

/-- What follows the first line of a readable record. -/
def trailing (entries : List (Data × Data)) : String :=
  let marked := ((Data.field? "exc_info" entries).getD .null).isEmpty = false
  let present (name : String) : Option Data :=
    (Data.field? name entries).filter fun value => !value.same .null
  let stack := (present "stack").elim "" fun value =>
    "\n" ++ value.toText ++ if marked || (present "exception").isSome then rule else ""
  let exception :=
    if marked then "" else (present "exception").elim "" fun value => "\n" ++ value.toText
  stack ++ exception

/-- The complaint about a stack or an exception that is no text. -/
def trailingDefect? (entries : List (Data × Data)) : Option String :=
  let complaint? (name : String) : Option String :=
    ((Data.field? name entries).bind Data.typeName?).map fun type =>
      s!"can only concatenate str (not \"{type}\") to str"
  let marked := ((Data.field? "exc_info" entries).getD .null).isEmpty = false
  (complaint? "stack").or (if marked then none else complaint? "exception")

/-- A record for people to read, with the event padded to a width. A field without a name comes
first. -/
def readable (eventWidth : Nat) (entries : List (Data × Data)) : String :=
  let named (name : String) (value : Data) : String := name ++ "=" ++ shown value
  let lead := leadingNames.filterMap fun name =>
    (Data.field? name entries).map (leading eventWidth name)
  let rest := (entries.map fun (key, value) => (key.toText, value)).filter fun (name, _) =>
    name ≠ "" && !leadingNames.contains name && !trailingNames.contains name
  let sorted := rest.mergeSort fun a b => !decide (b.1 < a.1)
  let parts := ((Data.field? "" entries).map (named "")).toList ++ lead ++
    sorted.map fun (name, value) => named name value
  dropSpacesAtEnd (Text.joinText " " (parts.filter (· ≠ ""))) ++ trailing entries

/-- The names of notes that a record carries on its way to an output. -/
def transitNames : List String := ["_record", "_from_structlog"]

/-- A record in one of the formats of a configuration. -/
def render (format : LogFormat) (entries : List (Data × Data)) : String :=
  let entries := entries.filter fun (key, _) => !transitNames.contains key.toText
  match format with
  | .json => Json.write .line (.map entries)
  | .console => readable 0 entries

end TestImpact.LogLine
