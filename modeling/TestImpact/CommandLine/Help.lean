import TestImpact.CommandLine.Option
import TestImpact.Text.Wrap

/-!
# Help pages

A help page shows how a command is called, what it does, its options and its commands. Descriptions
stand in a column of their own and are wrapped to the width of the page (`click`, version 8.1 or
later).
-/

namespace TestImpact.CommandLine

/-- The width of a page. -/
def pageWidth : Nat := 80

def blanks (n : Nat) : String := String.ofList (List.replicate n ' ')

/-- How a command is called. -/
def usage (c : CommandSpec) : String := s!"Usage: {c.call} {c.arguments}\n"

/-- Paragraphs with an indent, and an empty line between them. -/
def paragraphs (texts : List String) : String :=
  Text.joinText "\n\n" (texts.map fun s =>
    Text.joinText "\n" ((Text.wrap (pageWidth - 4) s).map (blanks 2 ++ ·))) ++ "\n"

/-- The widest first column of a table. -/
def widestColumn : Nat := 30

/-- A row of a table whose second column starts at a given place behind the indent. -/
def tableRow (column : Nat) (term description : String) : String :=
  let start := blanks 2 ++ term
  match Text.wrap (pageWidth - 2 - column) description with
  | [] => start ++ "\n"
  | line :: lines =>
    let gap :=
      if term.length + 2 ≤ column then blanks (column - term.length)
      else "\n" ++ blanks (column + 2)
    start ++ gap ++ line ++ "\n" ++
      String.join (lines.map fun line => blanks (column + 2) ++ line ++ "\n")

/-- Terms with their descriptions under a heading. -/
def table (heading : String) (rows : List (String × String)) : String :=
  let longest := (rows.map fun row => row.1.length).foldl max 0
  let column := min longest widestColumn + 2
  s!"\n{heading}:\n" ++
    String.join (rows.map fun (term, description) => tableRow column term description)

/-- The names of an option with the word for its value. -/
def OptionSpec.term (o : OptionSpec) : String :=
  Text.joinText ", " o.names ++ o.kind.placeholder.elim "" (" " ++ ·)

/-- The description of an option with what is said about its value. -/
def OptionSpec.description (o : OptionSpec) : String :=
  let notes := (o.standard.elim [] fun s => ["default: " ++ s]) ++
    if o.required then ["required"] else []
  let note := if notes.isEmpty then "" else "[" ++ Text.joinText "; " notes ++ "]"
  if o.help = "" then note else if note = "" then o.help else o.help ++ "  " ++ note

/-- The words of a first sentence that fit into a number of characters. -/
def firstSentence (limit length : Nat) : List String → List String × Bool
  | [] => ([], true)
  | word :: words =>
    let length := length + word.length + (if length = 0 then 0 else 1)
    if limit < length then ([], false)
    else if word.toList.getLast? = some '.' then ([word], true)
    else if length = limit && !words.isEmpty then ([word], false)
    else
      let (rest, whole) := firstSentence limit length words
      (word :: rest, whole)

/-- Words from the start that fit, with dots behind them, into a number of characters. -/
def dropToFit (limit : Nat) : List String → List String
  | [] => []
  | word :: words =>
    if (Text.joinText " " (word :: words).reverse).length + 3 ≤ limit then word :: words
    else dropToFit limit words

/-- The first sentence of a summary, cut to a number of characters. -/
def shortSummary (limit : Nat) (c : CommandSpec) : String :=
  let words := ((Text.splitOn ' ' (c.summary.headD "").toList).map String.ofList).filter (· ≠ "")
  let (shown, whole) := firstSentence limit 0 words
  if whole then Text.joinText " " shown
  else Text.joinText " " (dropToFit limit shown.reverse).reverse ++ "..."

/-- The help page of a command with the commands below it, by name. -/
def helpPage (c : CommandSpec) (commands : List (String × CommandSpec)) : String :=
  let options := table "Options" (c.options.map fun o => (o.term, o.description))
  let longest := (commands.map fun (name, _) => name.length).foldl max 0
  let below :=
    if commands.isEmpty then ""
    else
      table "Commands"
        (commands.map fun (name, c) => (name, shortSummary (pageWidth - 6 - longest) c))
  usage c ++ "\n" ++ paragraphs c.summary ++ options ++ below

end TestImpact.CommandLine
