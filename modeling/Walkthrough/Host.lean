import Walkthrough.Command.Arguments
import Walkthrough.Files.Home

/-!
# Hosts

What a program finds where it runs is not for the program to choose: the home folders of accounts,
the folder that its own tables are in, how much room there is for reading, and the release of the
library that reads its arguments. Nothing that is said of the program depends on what they are.

* `Host` — all of this.
* `Host.standard` — a host to try things on.
-/

namespace Walkthrough

/-- What a program finds where it runs. -/
structure Host where
  homes : Homes
  /-- The folder of the tables that come with the program. -/
  packaged : Path
  /-- How many brackets of JSON may be open at once. -/
  nesting : Nat
  /-- How arguments are read. -/
  dialect : Dialect

def Host.standard : Host where
  homes := .standard
  packaged := .parse "/usr/share/walkthrough/world"
  nesting := 900
  dialect := .newer

end Walkthrough
