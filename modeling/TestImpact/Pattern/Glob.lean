import TestImpact.Text.Blank

/-!
# Tokens of a dotted glob

A dotted glob is read from left to right. A double star stands for any run of characters other than
a line feed, a single star for any run of characters other than a dot, a question mark for one
character other than a dot, and every other character for itself. Brackets, braces and blanks are
refused.
-/

namespace TestImpact.Pattern

inductive Token where
  | anyRun
  | nameRun
  | nameChar
  | literal (c : Char)
  deriving DecidableEq, Repr

/-- Why a glob is refused. -/
inductive Defect where
  | empty
  | bracket (c : Char)
  | blank
  deriving DecidableEq, Repr

def Defect.reason : Defect → String
  | empty => "pattern is empty"
  | bracket c => "unsupported construct '" ++ String.ofList [c] ++ "'"
  | blank => "class patterns cannot contain whitespace"

/-- The tokens of a text; of three stars the first two are the double star. -/
def tokens : List Char → List Token
  | [] => []
  | '*' :: '*' :: r => .anyRun :: tokens r
  | '*' :: r => .nameRun :: tokens r
  | '?' :: r => .nameChar :: tokens r
  | c :: r => .literal c :: tokens r

def isBracket (c : Char) : Bool := c = '[' || c = ']' || c = '\x7b' || c = '\x7d'

def charDefect? (c : Char) : Option Defect :=
  if isBracket c then some (.bracket c)
  else if Text.isBlank c then some .blank
  else none

def Token.defect? : Token → Option Defect
  | literal c => charDefect? c
  | _ => none

/-- The first thing in a glob that is refused. -/
def defect? (glob : List Char) : Option Defect :=
  if glob.isEmpty then some .empty else (tokens glob).findSome? Token.defect?

namespace Token

/-- Whether a text is a run of accepted characters followed by a text that `next` accepts. -/
def runThen (accepts : Char → Bool) (next : List Char → Bool) : List Char → Bool
  | [] => next []
  | c :: s => next (c :: s) || (accepts c && runThen accepts next s)

/-- Whether a text starts with an accepted character and goes on as `next` accepts. -/
def oneThen (accepts : Char → Bool) (next : List Char → Bool) : List Char → Bool
  | [] => false
  | c :: s => accepts c && next s

/-- Whether a name belongs to the language of a list of tokens. -/
def selects : List Token → List Char → Bool
  | [], s => s.isEmpty
  | anyRun :: r, s => runThen (· != '\n') (selects r) s
  | nameRun :: r, s => runThen (· != '.') (selects r) s
  | nameChar :: r, s => oneThen (· != '.') (selects r) s
  | literal c :: r, s => oneThen (· == c) (selects r) s

end Token

end TestImpact.Pattern
