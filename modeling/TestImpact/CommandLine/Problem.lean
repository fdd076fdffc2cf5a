import TestImpact.CommandLine.Option
import TestImpact.Text.Quoted
import TestImpact.Text.Similar

/-!
# Problems with a command line

The ways in which a command line is not understood, with their messages (`click`, version 8.1 or
later).
-/

namespace TestImpact.CommandLine

inductive Problem where
  | noSuchOption (name : String) (candidates : List String)
  | noSuchCommand (name : String) (candidates : List String)
  | missingCommand
  | needsValue (name : String)
  | takesNoValue (name : String)
  | missingOption (name : String)
  | badNumber (option value : String)
  | isFile (option value : String)
  | isDirectory (option value : String)
  | extraArguments (words : List String)
  deriving DecidableEq, Repr, Inhabited

/-- A question for what was meant, if there is something similar. -/
def suggestion (name : String) (candidates : List String) : String :=
  match Text.similar name candidates with
  | [] => ""
  | [one] => " Did you mean " ++ Text.quoted one ++ "?"
  | several =>
    let sorted := several.mergeSort fun a b => !decide (b < a)
    " (Did you mean one of: " ++ Text.joinText ", " (sorted.map Text.quoted) ++ "?)"

def invalidValue (option reason : String) : String :=
  s!"Invalid value for '{option}': " ++ reason

namespace Problem

def message : Problem → String
  | noSuchOption name candidates =>
    "No such option " ++ Text.quoted name ++ "." ++ suggestion name candidates
  | noSuchCommand name candidates =>
    "No such command " ++ Text.quoted name ++ "." ++ suggestion name candidates
  | missingCommand => "Missing command."
  | needsValue name => "Option " ++ Text.quoted name ++ " requires an argument."
  | takesNoValue name => "Option " ++ Text.quoted name ++ " does not take a value."
  | missingOption name => s!"Missing option '{name}'."
  | badNumber option value =>
    invalidValue option (Text.quoted value ++ " is not a valid float.")
  | isFile option value =>
    invalidValue option ("Directory " ++ Text.quoted value ++ " is a file.")
  | isDirectory option value =>
    invalidValue option ("File " ++ Text.quoted value ++ " is a directory.")
  | extraArguments words =>
    let noun := if words.length = 1 then "argument" else "arguments"
    s!"Got unexpected extra {noun} (" ++ Text.joinText " " words ++ ")"

/-- Whether the usage of the command is shown with the message. -/
def showsUsage : Problem → Bool
  | needsValue _ | takesNoValue _ => false
  | _ => true

end Problem

end TestImpact.CommandLine
