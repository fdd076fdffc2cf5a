import TestImpact.Accounts
import TestImpact.Fault
import TestImpact.Path

/-!
# Home directories

A path that starts with `~` names the home directory of the user who runs the program, and one that
starts with `~name` that of another account.
-/

namespace TestImpact.Config

/-- The directory of a user; the empty name is the user who runs the program. -/
def userDirectory (accounts : Accounts) (user : String) : Except Fault String :=
  if user.toList.contains '\x00' then .error .nullByte
  else
    match if user = "" then accounts.own else accounts.directory user with
    | some dir => .ok dir
    | none => .error .noHome

/-- A path whose first segment names a home directory, with the directory in its place. -/
def expandHome (accounts : Accounts) (p : Path) : Except Fault Path :=
  match p.anchor, p.segments with
  | .relative, first :: rest =>
    match first.toList with
    | '~' :: user => do
      let dir ← userDirectory accounts (String.ofList user)
      let bare := (dir.toList.reverse.dropWhile (· = '/')).reverse
      let dir := if bare.isEmpty then "/" else String.ofList bare
      if bare.head? = some '~' then .error .noHome
      else .ok (Path.ofText dir / Path.ofText (Text.joinText "/" rest))
    | _ => .ok p
  | _, _ => .ok p

end TestImpact.Config
