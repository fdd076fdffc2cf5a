import TestImpact.Child.Shell.Reader

/-!
# Reading commands

Commands are read from tokens, one line of the text at a time, since each line is run before the
next one is read. What cannot be read is told about with the token at which it was seen.
-/

namespace TestImpact.Child.Shell

/-- The words of the language. -/
def keywords : List String :=
  ["!", "\x7b", "\x7d", "case", "do", "done", "elif", "else", "esac", "fi", "for", "if", "in",
   "then", "until", "while"]

/-- The word of the language that a token is. -/
def Token.keyword? : Token → Option String
  | .word w =>
    (Word.plain? w).bind fun s => keywords.find? (·.toList = s)
  | _ => none

/-- A token as a complaint tells about it. -/
def Token.name (seesKeywords : Bool) (t : Token) : String :=
  match t with
  | .ended => "end of file"
  | .newline => "newline"
  | .sign s => "\"" ++ s ++ "\""
  | .redirect .. => "redirection"
  | .word _ =>
    match if seesKeywords then t.keyword? else none with
    | some k => "\"" ++ k ++ "\""
    | none => "word"

/-- Complains about a token, and tells which one is needed. -/
def unexpected {α : Type} (t : Token) (seesKeywords : Bool) (wanted : Option String) : Reader α :=
  refuse (t.name seesKeywords ++ " unexpected" ++
    wanted.elim "" fun w => " (expecting \"" ++ w ++ "\")")

/-- Tokens that end a list of commands. -/
def Token.endsList (t : Token) : Bool :=
  match t with
  | .sign s => s = ")" || s = ";;"
  | .ended => true
  | t => t.keyword?.any ["then", "do", "done", "fi", "else", "elif", "esac", "\x7d"].contains

/-- Where a list of commands stands: in a line, or between words of the language. -/
inductive ListPlace where
  | line
  | block
  /-- A block that may be empty. -/
  | optional
  deriving DecidableEq, Repr

def push (t : Token) : Reader Unit := modify fun c => { c with pushed := some t }

/-- The command before others. -/
def Command.before (first : Command) : Command → Command
  | .nothing => first
  | second => .sequence first second

/-- The commands that give the rest of the shell their own redirections. -/
def Command.under (c : Command) (line : Nat) (redirects : List Redirect) : Command :=
  if redirects.isEmpty then c
  else
    match c with
    | .apart line c [] => .apart line c redirects
    | c => .redirected line c redirects

/-- An assignment at the start of a command. -/
def Word.assignment? (w : Word) : Option (Raw × Word) :=
  match w with
  | .text false s :: rest =>
    match Text.cut? '=' s with
    | some (name, value) =>
      if isName name then some (name, if value.isEmpty then rest else .text false value :: rest)
      else none
    | none => none
  | _ => none

/-- The utilities whose assignments stay, and which end the shell if they fail. -/
def specialUtilities : List String :=
  [".", ":", "break", "continue", "eval", "exec", "exit", "export", "local", "readonly", "return",
   "set", "shift", "times", "trap", "unset"]

/-- A simple command as far as it was read. -/
structure Started where
  assignments : List (Raw × Word)
  words : List Word
  redirects : List Redirect

mutual

/-- The readers for commands inside words. -/
def innerOf : Nat → Inner
  | 0 => ⟨refuse "Unterminated quoted string",
      refuse "Unterminated quoted string"⟩
  | fuel + 1 => {
      enclosed := do
        let waiting := (← get).announced
        modify fun c => { c with announced := [] }
        let c ← readList fuel .optional true
        let t ← readToken (innerOf fuel) fuel true
        match t with
        | .sign ")" =>
          modify fun c => { c with announced := waiting ++ c.announced }
          return c
        | t => unexpected t true (some ")")
      whole := readList fuel .optional true }

/-- Drops line ends; the texts that were announced stand behind the first one. -/
def skipLines : Nat → Reader Unit
  | 0 => pure ()
  | fuel + 1 => do
    match ← readToken (innerOf fuel) fuel true with
    | .newline =>
      readAnnounced (innerOf fuel) fuel
      skipLines fuel
    | t => push t

/-- A list of commands; the first number bounds the depth. -/
def readList : Nat → ListPlace → Bool → Reader Command
  | 0, _, _ => refuse "Unterminated quoted string"
  | fuel + 1, place, isFirst => do
    if place ≠ .line then skipLines fuel
    match ← readToken (innerOf fuel) fuel true with
    | .newline =>
      readAnnounced (innerOf fuel) fuel
      return .nothing
    | .ended =>
      readAnnounced (innerOf fuel) fuel
      push .ended
      return .nothing
    | t =>
      push t
      if place ≠ .line && (place = .optional || !isFirst) && t.endsList then return .nothing
      else
        let line := (← get).line
        let c ← readJoined fuel
        match ← readToken (innerOf fuel) fuel true with
        | .sign "&" => return Command.before (.background line c) (← readList fuel place false)
        | .sign ";" => return Command.before c (← readList fuel place false)
        | .newline =>
          push .newline
          return Command.before c (← readList fuel place false)
        | .ended =>
          push .ended
          return Command.before c (← readList fuel place false)
        | t =>
          if place = .line then unexpected t true none
          else
            push t
            return c

/-- Commands joined by their success. -/
def readJoined : Nat → Reader Command
  | 0 => refuse "Unterminated quoted string"
  | fuel + 1 => do
    let first ← readPipeline fuel
    joinMore fuel first

/-- Commands joined to a first one. -/
def joinMore : Nat → Command → Reader Command
  | 0, first => pure first
  | fuel + 1, first => do
    match ← readToken (innerOf fuel) fuel true with
    | .sign "&&" =>
      skipLines fuel
      let second ← readPipeline fuel
      joinMore fuel (.link true first second)
    | .sign "||" =>
      skipLines fuel
      let second ← readPipeline fuel
      joinMore fuel (.link false first second)
    | t =>
      push t
      return first

/-- Commands that pass their output on. -/
def readPipeline : Nat → Reader Command
  | 0 => refuse "Unterminated quoted string"
  | fuel + 1 => do
    let t ← readToken (innerOf fuel) fuel true
    let isNegated := t.keyword? = some "!"
    if !isNegated then push t
    let first ← readCommand fuel
    let more ← readStages fuel
    let c := if more.isEmpty then first else .pipe (first :: more)
    return if isNegated then .negate c else c

/-- The commands behind the bars of a pipeline. -/
def readStages : Nat → Reader (List Command)
  | 0 => pure []
  | fuel + 1 => do
    match ← readToken (innerOf fuel) fuel true with
    | .sign "|" =>
      skipLines fuel
      let c ← readCommand fuel
      return c :: (← readStages fuel)
    | t =>
      push t
      return []

/-- A word of the language that has to come next. -/
def expect : Nat → String → Reader Unit
  | 0, _ => pure ()
  | fuel + 1, wanted => do
    let t ← readToken (innerOf fuel) fuel true
    if t.keyword? = some wanted then pure () else unexpected t true (some wanted)

/-- One command with its redirections. -/
def readCommand : Nat → Reader Command
  | 0 => refuse "Unterminated quoted string"
  | fuel + 1 => do
    let t ← readToken (innerOf fuel) fuel true
    let line := (← get).line
    let redirected (c : Command) : Reader Command := do
      return c.under line (← readRedirects fuel)
    match t with
    | .sign "(" =>
      let c ← readList fuel .block true
      match ← readToken (innerOf fuel) fuel true with
      | .sign ")" => redirected (.apart line c [])
      | t => unexpected t true (some ")")
    | .redirect .. =>
      push t
      readSimple fuel
    | .word w =>
      match t.keyword? with
      | none =>
        if ← replaceAlias w then readCommand fuel
        else
          push t
          readSimple fuel
      | some "\x7b" =>
        let c ← readList fuel .block true
        expect fuel "\x7d"
        redirected c
      | some "if" =>
        let c ← readChoice fuel
        expect fuel "fi"
        redirected c
      | some "while" =>
        let c ← readLoop fuel true
        redirected c
      | some "until" =>
        let c ← readLoop fuel false
        redirected c
      | some "for" =>
        let c ← readEach fuel line
        redirected c
      | some "case" =>
        match ← readToken (innerOf fuel) fuel true with
        | .word subject =>
          skipLines fuel
          expect fuel "in"
          let cases ← readCases fuel
          redirected (.branch line subject cases)
        | t => refuse (t.name false ++ " unexpected (expecting word)")
      | some _ => unexpected t true none
    | t => unexpected t true none
where
  /-- Puts the text of an alias in place of the word that was read. -/
  replaceAlias (w : Word) : Reader Bool := do
    let c ← get
    let replacing := c.replacing.filter fun (_, left) => left < c.rest.length
    match (Word.plain? w).bind fun name => (c.aliases.lookup name).map (name, ·) with
    | some (name, text) =>
      if replacing.any (·.1 = name) then return false
      else
        set { c with rest := text ++ c.rest, replacing := (name, c.rest.length) :: replacing }
        return true
    | none => return false

/-- A condition with its branches. -/
def readChoice : Nat → Reader Command
  | 0 => refuse "Unterminated quoted string"
  | fuel + 1 => do
    let condition ← readList fuel .block true
    expect fuel "then"
    let yes ← readList fuel .block true
    let t ← readToken (innerOf fuel) fuel true
    match t.keyword? with
    | some "elif" => return .choice condition yes (← readChoice fuel)
    | some "else" => return .choice condition yes (← readList fuel .block true)
    | _ =>
      push t
      return .choice condition yes .nothing

def readLoop : Nat → Bool → Reader Command
  | 0, _ => refuse "Unterminated quoted string"
  | fuel + 1, whileSuccess => do
    let condition ← readList fuel .block true
    expect fuel "do"
    let body ← readList fuel .block true
    expect fuel "done"
    return .loop whileSuccess condition body

/-- The words of a loop up to the end of its line. -/
def readLoopWords : Nat → Reader (List Word)
  | 0 => pure []
  | fuel + 1 => do
    match ← readToken (innerOf fuel) fuel true with
    | .word w => return w :: (← readLoopWords fuel)
    | .sign ";" => return []
    | .newline =>
      readAnnounced (innerOf fuel) fuel
      return []
    | t => unexpected t false none

def readEach : Nat → Nat → Reader Command
  | 0, _ => refuse "Unterminated quoted string"
  | fuel + 1, line => do
    let t ← readToken (innerOf fuel) fuel true
    let name : Option Raw :=
      match t with
      | .word w => (Word.plain? w).filter isName
      | _ => none
    match name with
    | none => refuse "Bad for loop variable"
    | some name =>
      skipLines fuel
      let t ← readToken (innerOf fuel) fuel true
      let words ←
        if t.keyword? = some "in" then pure (some (← readLoopWords fuel))
        else
          match t with
          | .sign ";" => pure none
          | t =>
            push t
            pure none
      skipLines fuel
      expect fuel "do"
      let body ← readList fuel .block true
      expect fuel "done"
      return .each line name words body

/-- Patterns up to the closing parenthesis. -/
def readPatterns : Nat → Reader (List Word)
  | 0 => pure []
  | fuel + 1 => do
    let t ← readToken (innerOf fuel) fuel true
    let w : Word :=
      match t with
      | .word w => w
      | _ => []
    match ← readToken (innerOf fuel) fuel true with
    | .sign "|" => return w :: (← readPatterns fuel)
    | .sign ")" => return [w]
    | t => unexpected t false (some ")")

/-- The cases up to the word that ends them. -/
def readCases : Nat → Reader (List (List Word × Command))
  | 0 => pure []
  | fuel + 1 => do
    skipLines fuel
    let t ← readToken (innerOf fuel) fuel true
    if t.keyword? = some "esac" then return []
    else
      match t with
      | .sign "(" => pure ()
      | t => push t
      let patterns ← readPatterns fuel
      let body ← readList fuel .optional true
      skipLines fuel
      let t ← readToken (innerOf fuel) fuel true
      match t with
      | .sign ";;" => return (patterns, body) :: (← readCases fuel)
      | t =>
        if t.keyword? = some "esac" then return [(patterns, body)]
        else unexpected t true (some ";;")

/-- A redirection behind its sign. -/
def readRedirect : Nat → Option Nat → RedirectKind → Reader Redirect
  | 0, _, _ => refuse "Unterminated quoted string"
  | fuel + 1, descriptor, kind => do
    let isHere : Bool :=
      match kind with
      | .here _ => true
      | _ => false
    match ← readToken (innerOf fuel) fuel (!isHere) with
    | .word w =>
      match kind with
      | .file mode =>
        let standard := if mode = .read || mode = .both then 0 else 1
        return .file (descriptor.getD standard) mode w
      | .copy standard => return .copy (descriptor.getD standard) w
      | .here isStripped =>
        let number := (← get).nextNumber
        modify fun c => { c with
          nextNumber := number + 1
          announced := c.announced ++ [⟨number, Word.written w, isStripped, !Word.hasQuotes w⟩] }
        return .here (descriptor.getD 0) number
    | t => unexpected t false none

/-- The redirections behind a command. -/
def readRedirects : Nat → Reader (List Redirect)
  | 0 => pure []
  | fuel + 1 => do
    match ← readToken (innerOf fuel) fuel true with
    | .redirect descriptor kind =>
      let r ← readRedirect fuel descriptor kind
      return r :: (← readRedirects fuel)
    | t =>
      push t
      return []

/-- A simple command, or the definition of a function. -/
def readSimple : Nat → Reader Command
  | 0 => refuse "Unterminated quoted string"
  | fuel + 1 => do
    let t ← readToken (innerOf fuel) fuel true
    push t
    readMore fuel (← get).line ⟨[], [], []⟩

/-- The rest of a simple command. -/
def readMore : Nat → Nat → Started → Reader Command
  | 0, _, _ => refuse "Unterminated quoted string"
  | fuel + 1, line, c => do
    match ← readToken (innerOf fuel) fuel true with
    | .word w =>
      match if c.words.isEmpty then Word.assignment? w else none with
      | some a => readMore fuel line { c with assignments := c.assignments ++ [a] }
      | none => readMore fuel line { c with words := c.words ++ [w] }
    | .redirect descriptor kind =>
      let r ← readRedirect fuel descriptor kind
      readMore fuel line { c with redirects := c.redirects ++ [r] }
    | .sign "(" =>
      match c with
      | ⟨[], [w], []⟩ => do
        match ← readToken (innerOf fuel) fuel true with
        | .sign ")" => pure ()
        | t => unexpected t false (some ")")
        match (Word.plain? w).filter fun name =>
            isName name && !specialUtilities.contains (String.ofList name) with
        | none => refuse "Bad function name"
        | some name =>
          skipLines fuel
          return .define name (← readCommand fuel)
      | _ => unexpected (.sign "(") true none
    | t =>
      push t
      return .simple line c.assignments c.words c.redirects

end

/-- The next line of commands, if there is one, and the rest. -/
def readLine (c : Cursor) : Except Complaint (Option Command × Cursor) :=
  let fuel := 8 * c.rest.length + 64
  let read : Reader (Option Command) := do
    match ← readToken (innerOf fuel) fuel true with
    | .ended => return none
    | t =>
      push t
      return some (← readList fuel .line true)
  read.run { c with pushed := none }

end TestImpact.Child.Shell
