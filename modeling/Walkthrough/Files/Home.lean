import Walkthrough.Files.Path

/-!
# Home folders

A path may start from the home folder of an account: a tilde and the name of the account take its
place. A tilde alone stands for the home folder of whoever runs the program.

* `Homes` — the home folders of accounts.
* `Homes.standard` — those of the accounts that every system has.
* `Path.expandHome` — a path with the home folder in the place of a tilde.
-/

namespace Walkthrough

open Walkthrough.Text

/-- The home folders of accounts, by name. The empty name stands for whoever runs the program. -/
abbrev Homes := String → Option String

namespace Homes

/-- The home folders of the accounts that every system has. -/
def standard : Homes := fun account =>
  [("root", "/root"), ("daemon", "/usr/sbin"), ("bin", "/bin"), ("sys", "/dev"), ("sync", "/bin"),
    ("games", "/usr/games"), ("man", "/var/cache/man"), ("lp", "/var/spool/lpd"),
    ("mail", "/var/mail"), ("news", "/var/spool/news"), ("uucp", "/var/spool/uucp"),
    ("proxy", "/bin"), ("www-data", "/var/www"), ("backup", "/var/backups"),
    ("list", "/var/list"), ("irc", "/run/ircd"), ("nobody", "/nonexistent"),
    ("", "/root")].lookup account

/-- The home folders where that of whoever runs the program may be set otherwise. -/
def withOwn (own : Option String) (homes : Homes) : Homes := fun account =>
  if account = "" then own.or (homes account) else homes account

end Homes

/-- A path starts from a home folder that is not known. -/
inductive HomeError
  | unknown
  deriving DecidableEq

def HomeError.message : HomeError → String
  | unknown => "Could not determine home directory."

namespace Path

/-- The path of a home folder; slashes at the end of its text do not matter. A folder that starts
from a home folder itself is of no use. -/
def home (text : String) : Except HomeError Path :=
  let trimmed := (text.toList.reverse.dropWhile (· == '/')).reverse
  match trimmed with
  | [] => .ok ⟨1, []⟩
  | '~' :: _ => .error .unknown
  | cs => .ok (parse (String.ofList cs))

/-- The path with the home folder of an account in the place of a tilde that its first name starts
with. -/
def expandHome (homes : Homes) (path : Path) : Except HomeError Path :=
  match path.root, path.names with
  | 0, first :: names =>
    match first.toList with
    | '~' :: account =>
      match homes (String.ofList account) with
      | none => .error .unknown
      | some text => (home text).map fun folder => ⟨folder.root, folder.names ++ names⟩
    | _ => .ok path
  | _, _ => .ok path

end Path

end Walkthrough
