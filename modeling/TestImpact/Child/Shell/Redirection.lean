import TestImpact.Child.Shell.Expand

/-!
# Redirections

A redirection opens a file under a descriptor, makes a descriptor the same as another one, closes
it, or puts a text behind it. The words of all redirections are expanded before the first one is
made.
-/

namespace TestImpact.Child.Shell

/-- A redirection whose word was expanded. -/
inductive Plug where
  | file (descriptor : Nat) (mode : OpenMode) (path : Raw)
  | copy (descriptor source : Nat)
  | close (descriptor : Nat)
  | text (descriptor : Nat) (s : Raw)
  deriving DecidableEq, Repr, Inhabited

/-- Expands the word of a redirection. -/
def Redirect.plug (run : Runner) : Redirect → Action Plug
  | .file descriptor mode target => return .file descriptor mode (← expandWhole run target)
  | .copy descriptor source => do
    match ← expandWhole run source with
    | ['-'] => return .close descriptor
    | [c] =>
      if c.isDigit then return .copy descriptor (c.toNat - '0'.toNat)
      else fault "Syntax error: Bad fd number".toList
    | _ => fault "Syntax error: Bad fd number".toList
  | .here descriptor number => do
    let word := ((← get).texts.lookup number).getD []
    return .text descriptor (← expandText run word)

def closeDescriptor (descriptor : Nat) : Action Unit :=
  modify fun m => { m with descriptors := m.descriptors.filter (·.1 ≠ descriptor) }

/-- Makes a descriptor the same as another one; says whether that is open. -/
def copyDescriptor (descriptor source : Nat) : Action Bool := do
  let m ← get
  match m.descriptors.lookup source with
  | none => return false
  | some number =>
    if descriptor ≠ source then
      closeDescriptor descriptor
      modify fun m => { m with descriptors := (descriptor, number) :: m.descriptors }
    return true

/-- What is said about a file that cannot be opened. -/
def openingFault (mode : OpenMode) (path : Raw) (kind : OsErrorKind) : Raw :=
  let isMissing := kind = .noEntry || kind = .notDirectory
  let reads := mode = .read
  let why := if isMissing then (if reads then "No such file" else "Directory nonexistent")
    else kind.text
  (if reads then "cannot open " else "cannot create ").toList ++ path ++ ": ".toList ++ why.toList

/-- Makes one redirection. -/
def Plug.make (p : Plug) : Action Unit := do
  match p with
  | .close descriptor => closeDescriptor descriptor
  | .copy descriptor source =>
    if !(← copyDescriptor descriptor source) then
      -- The error output is closed by then if it was to be replaced.
      if descriptor = 2 then closeDescriptor 2
      fault (digitsOf source ++ ": Bad file descriptor".toList)
  | .text descriptor s => openAs descriptor (.pipe s (some 0))
  | .file descriptor mode path =>
    match descriptorOfPath? path with
    | some source =>
      if !(← copyDescriptor descriptor source) then fault (openingFault mode path .noEntry)
    | none =>
      match ← openFile mode (!(← get).options.noClobber) path with
      | .ok o => openAs descriptor o
      | .error kind => fault (openingFault mode path kind)

/-- Makes redirections; says whether they could be made. -/
def redirect (run : Runner) (redirects : List Redirect) : Action Bool := do
  let plugs ← redirects.mapM (Redirect.plug run)
  match ← attempt (plugs.forM Plug.make) with
  | .ok () => return true
  | .error .failed => return false
  | .error b => throw b

/-- Carries out an action with redirections, which are then taken back. -/
def withRedirects (run : Runner) (redirects : List Redirect) (a : Action Unit) : Action Unit := do
  let before := (← get).descriptors
  let result ← attempt do
    if ← redirect run redirects then a
  modify fun m => { m with descriptors := before }
  resume result

end TestImpact.Child.Shell
