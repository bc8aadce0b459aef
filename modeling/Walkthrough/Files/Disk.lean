import Walkthrough.Files.Path
import Walkthrough.Text.Lines
import Walkthrough.Text.Utf8

/-!
# Files

A disk says what is at the end of a path. Reading a file either gives its bytes or fails; reading a
document also needs its bytes to encode a text. Some ways to fail are told apart, since they say
more about a path; any other reason that a system has for not opening it is a number with words.

* `Denial` — a reason of the system.
* `Disk` — what is at the end of each path.
* `FileError` — how reading or writing a file fails.
* `Disk.read` — the bytes of a file.
* `readDocument` — the text of a document, with its line ends unified.
* `Disk.writeError?` — whether a file can be written.
-/

namespace Walkthrough

open Walkthrough.Text

/-- Why a system does not open a path, by its own number and in its own words. -/
structure Denial where
  number : Nat
  words : String
  deriving DecidableEq

/-- Whether the reason is that the path leads nowhere: one of its names is not there or is no
folder, a link leads round in circles, or there is nothing to ask. -/
def Denial.leadsNowhere (denial : Denial) : Bool := [2, 9, 20, 40].contains denial.number

/-- What is at the end of a path. -/
inductive Entry
  | absent
  /-- The path leads through a file. -/
  | blocked
  /-- The path, or a name that it leads to, is too long. -/
  | tooLong
  /-- A name of the path holds the character that ends all names. -/
  | unnameable
  /-- The path may not be opened, be it to read or to write, though a file may be there. -/
  | denied (denial : Denial)
  | folder
  | file (bytes : List UInt8)
  deriving DecidableEq

/-- What is at the end of each path. -/
abbrev Disk := Path → Entry

/-- How reading or writing a file fails. -/
inductive FileError
  | notFound (path : Path)
  | notFolder (path : Path)
  | isFolder (path : Path)
  | tooLong (path : Path)
  /-- A path holds the character that ends all names. -/
  | unnameable
  | denied (denial : Denial) (path : Path)
  deriving DecidableEq

def FileError.message : FileError → String
  | .notFound path => "[Errno 2] No such file or directory: " ++ quote path.text
  | .notFolder path => "[Errno 20] Not a directory: " ++ quote path.text
  | .isFolder path => "[Errno 21] Is a directory: " ++ quote path.text
  | .tooLong path => "[Errno 36] File name too long: " ++ quote path.text
  | .unnameable => "embedded null byte"
  | .denied denial path =>
    "[Errno " ++ toString denial.number ++ "] " ++ denial.words ++ ": " ++ quote path.text

def Disk.read (disk : Disk) (path : Path) : Except FileError (List UInt8) :=
  match disk path with
  | .absent => .error (.notFound path)
  | .blocked => .error (.notFolder path)
  | .tooLong => .error (.tooLong path)
  | .unnameable => .error .unnameable
  | .denied denial => .error (.denied denial path)
  | .folder => .error (.isFolder path)
  | .file bytes => .ok bytes

/-- Why a file cannot be written, if it cannot: its folder must be there. -/
def Disk.writeError? (disk : Disk) (path : Path) : Option FileError :=
  match disk path with
  | .file _ => none
  | .folder => some (.isFolder path)
  | .blocked => some (.notFolder path)
  | .tooLong => some (.tooLong path)
  | .unnameable => some .unnameable
  | .denied denial => some (.denied denial path)
  | .absent => if disk path.parent = .folder then none else some (.notFound path)

inductive DocumentError
  | file (error : FileError)
  | encoding (fault : Utf8.Fault)
  deriving DecidableEq

def DocumentError.message : DocumentError → String
  | .file error => error.message
  | .encoding fault => fault.message

def readText (disk : Disk) (path : Path) : Except DocumentError (List Char) :=
  match disk.read path with
  | .error error => .error (.file error)
  | .ok bytes =>
    match Utf8.decode bytes with
    | .error fault => .error (.encoding fault)
    | .ok cs => .ok (unifyNewlines cs)

def readDocument (disk : Disk) (path : Path) : Except DocumentError String :=
  (readText disk path).map String.ofList

end Walkthrough
