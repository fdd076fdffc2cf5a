/-!
# Accounts

Which home directories a system has is known to the system alone. The accounts are given by name,
and one of them runs the program.
-/

namespace TestImpact

/-- The home directories of the accounts of a system. -/
structure Accounts where
  /-- The directory of the account that runs the program, if it has one. -/
  own : Option String
  directory : String → Option String
  deriving Inhabited

namespace Accounts

/-- The accounts for a program with a home directory in its environment, which counts as its own. -/
def withHome (accounts : Accounts) (home : Option String) : Accounts :=
  { accounts with own := home.or accounts.own }

end Accounts

end TestImpact
