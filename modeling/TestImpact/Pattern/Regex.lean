import TestImpact.Pattern.Glob

/-!
# Regular expressions for class names

The regular expressions that globs become. They are written with three kinds of atoms (an escaped
character, any character but a line feed, any character but a dot), each once or any number of
times. `write` gives the text of an expression and `read?` reads a text back; `Regex.accepts` is
the match of a whole name.
-/

namespace TestImpact.Pattern

/-- What stands for one character. -/
inductive Atom where
  | char (c : Char)
  | notLineFeed
  | notDot
  deriving DecidableEq, Repr

def Atom.accepts : Atom → Char → Bool
  | char c, d => d == c
  | notLineFeed, d => d != '\n'
  | notDot, d => d != '.'

/-- An atom, once or any number of times. -/
inductive Factor where
  | one (a : Atom)
  | many (a : Atom)
  deriving DecidableEq, Repr

abbrev Regex := List Factor

namespace Regex

/-- The characters that are written after a backslash. -/
def escapedChars : List Char :=
  "()[]\x7b\x7d?*+-|^$\\.&~# \t\n\r\x0b\x0c".toList

def writeAtom : Atom → List Char
  | .char c => if escapedChars.contains c then ['\\', c] else [c]
  | .notLineFeed => ['.']
  | .notDot => ['[', '^', '.', ']']

def writeFactor : Factor → List Char
  | .one a => writeAtom a
  | .many a => writeAtom a ++ ['*']

def write (r : Regex) : List Char := r.flatMap writeFactor

/-- An atom or the sign for any number of times. -/
inductive Lexeme where
  | atom (a : Atom)
  | star
  deriving DecidableEq, Repr

/-- The lexemes of a text. A backslash makes no letter and no digit a character, and none of the
escaped characters stands for itself without one. -/
def lex : List Char → Option (List Lexeme)
  | [] => some []
  | '[' :: '^' :: '.' :: ']' :: r => (lex r).map (.atom .notDot :: ·)
  | '\\' :: c :: r => if c.isAlphanum then none else (lex r).map (.atom (.char c) :: ·)
  | '.' :: r => (lex r).map (.atom .notLineFeed :: ·)
  | '*' :: r => (lex r).map (.star :: ·)
  | c :: r => if escapedChars.contains c then none else (lex r).map (.atom (.char c) :: ·)

def factors : List Lexeme → Option Regex
  | [] => some []
  | .atom a :: .star :: r => (factors r).map (.many a :: ·)
  | .atom a :: r => (factors r).map (.one a :: ·)
  | .star :: _ => none

/-- The expression that a text writes. -/
def read? (s : List Char) : Option Regex := (lex s).bind factors

/-- Whether an expression matches a whole text. -/
def accepts : Regex → List Char → Bool
  | [], s => s.isEmpty
  | .one a :: r, s => Token.oneThen a.accepts (accepts r) s
  | .many a :: r, s => Token.runThen a.accepts (accepts r) s

end Regex

/-- The factor that a token of a glob becomes. -/
def Token.factor : Token → Factor
  | anyRun => .many .notLineFeed
  | nameRun => .many .notDot
  | nameChar => .one .notDot
  | literal c => .one (.char c)

end TestImpact.Pattern
