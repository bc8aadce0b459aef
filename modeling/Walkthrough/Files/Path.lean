import Walkthrough.Text.Quoted
import Walkthrough.Text.Split

/-!
# Paths

A path is a row of names, relative or from a root. Writing a path in another way does not make it
another path: repeated slashes, single dots and a slash at the end are dropped. Two dots stay, since
what they mean depends on the files. Exactly two slashes in front are a root of their own.

* `Path.parse` — the path that a text stands for.
* `Path.text` — the path in words; `.` where there are no names.
* `Path.child`, `Path.parent` — from a folder to what is in it, and back.
-/

namespace Walkthrough

open Walkthrough.Text

structure Path where
  /-- The slashes in front: none for a relative path, else one or two. -/
  root : Nat
  names : List String
  deriving DecidableEq

namespace Path

/-- The path that a text stands for. -/
def parse (text : String) : Path :=
  let cs := text.toList
  let slashes := (cs.takeWhile (· == '/')).length
  let names := (split '/' cs).filter fun name => name != [] && name != ['.']
  ⟨if slashes = 2 then 2 else min slashes 1, names.map String.ofList⟩

def text (path : Path) : String :=
  if path.root = 0 ∧ path.names = [] then "."
  else String.ofList
    (List.replicate path.root '/' ++ join '/' (path.names.map String.toList))

/-- The path of a name in a folder. -/
def child (folder : Path) (name : String) : Path := ⟨folder.root, folder.names ++ [name]⟩

/-- The path of the folder that a name is in. -/
def parent (path : Path) : Path := ⟨path.root, path.names.dropLast⟩

end Path

end Walkthrough
