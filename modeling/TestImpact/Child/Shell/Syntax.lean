import TestImpact.Text.Raw

/-!
# The language of the shell

Words and commands as they are read. A word is made of pieces: text, quote marks, the values of
parameters, the output of commands, and numbers. Commands are simple commands with assignments and
redirections, lists, pipelines, conditions, cases, loops, groups and functions.
-/

namespace TestImpact.Child.Shell

/-- What a parameter stands for if it is unset or empty, or the other way round. -/
inductive Fallback where
  | value
  | assign
  | instead
  | complain
  deriving DecidableEq, Repr, Inhabited

/-- How a file is opened by a redirection. -/
inductive OpenMode where
  | read
  | write
  /-- Like `write`, also if files must not be replaced. -/
  | replace
  | append
  | both
  deriving DecidableEq, Repr, Inhabited

mutual

/-- A piece of a word; `quoted` says whether it stands in quotes. -/
inductive Piece where
  | text (quoted : Bool) (s : Raw)
  /-- A quote that opens or closes. -/
  | mark
  | parameter (quoted : Bool) (name : Raw) (use : Use)
  | output (quoted : Bool) (commands : Command)
  | number (quoted : Bool) (expression : List Piece)

/-- What is made of the value of a parameter. -/
inductive Use where
  | plain
  | length
  /-- A fallback, which also stands for an empty value if `orEmpty` is set. -/
  | fallback (orEmpty : Bool) (kind : Fallback) (word : List Piece)
  /-- The value without what matches a pattern at its start or end, as short or as long as possible.
  -/
  | trimmed (atEnd longest : Bool) (pattern : List Piece)
  /-- Something that cannot be made of a parameter. -/
  | wrong

inductive Redirect where
  | file (descriptor : Nat) (mode : OpenMode) (target : List Piece)
  /-- The same as another descriptor, which a word names, or closed. -/
  | copy (descriptor : Nat) (source : List Piece)
  /-- The text of a number that is written behind the command. -/
  | here (descriptor number : Nat)

inductive Command where
  | nothing
  /-- A simple command in a line of the text. -/
  | simple (line : Nat) (assignments : List (Raw × List Piece)) (words : List (List Piece))
      (redirects : List Redirect)
  | sequence (first second : Command)
  /-- The second command is run if the first one ended as said. -/
  | link (onSuccess : Bool) (first second : Command)
  | negate (c : Command)
  /-- Commands that pass their output on. -/
  | pipe (stages : List Command)
  /-- A command that leaves the state of the shell as it is. -/
  | apart (line : Nat) (c : Command) (redirects : List Redirect)
  /-- A command that the shell does not wait for. -/
  | background (line : Nat) (c : Command)
  | choice (condition yes no : Command)
  /-- Goes on while the condition ends as said. -/
  | loop (whileSuccess : Bool) (condition body : Command)
  /-- Once for each word; without words for each argument. -/
  | each (line : Nat) (name : Raw) (words : Option (List (List Piece))) (body : Command)
  | redirected (line : Nat) (c : Command) (redirects : List Redirect)
  /-- Runs the first body with a pattern that the subject matches. -/
  | branch (line : Nat) (subject : List Piece) (cases : List (List (List Piece) × Command))
  | define (name : Raw) (body : Command)

end

instance : Inhabited Piece := ⟨.mark⟩
instance : Inhabited Use := ⟨.plain⟩
instance : Inhabited Redirect := ⟨.here 0 0⟩
instance : Inhabited Command := ⟨.nothing⟩

abbrev Word := List Piece

/-- The text of a word that is plain text without quotes. -/
def Word.plain? : Word → Option Raw
  | [.text false s] => some s
  | _ => none

/-- The text of a word with the quotes removed, as it is written. -/
def Word.written (w : Word) : Raw :=
  w.flatMap fun piece =>
    match piece with
    | .text _ s => s
    | _ => []

def Word.hasQuotes (w : Word) : Bool :=
  w.any fun piece =>
    match piece with
    | .mark | .text true _ => true
    | _ => false

def isNameStart (c : Char) : Bool := c.isAlpha || c = '_'

def isNameChar (c : Char) : Bool := c.isAlphanum || c = '_'

def isName (s : Raw) : Bool :=
  match s with
  | [] => false
  | c :: r => isNameStart c && r.all isNameChar

/-- The parameters that are named by one sign. -/
def isSpecial (c : Char) : Bool := "@*#?$!-".toList.contains c || c.isDigit

def isGap (c : Char) : Bool := c = ' ' || c = '\t'

end TestImpact.Child.Shell
