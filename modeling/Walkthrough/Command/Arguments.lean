import Walkthrough.Files.Path
import Walkthrough.Text.Digit

/-!
# Command line arguments

The arguments name the documents to compile and set options. An option may be shortened as long as
only one option starts with what is left, and its value may follow after an equals sign or as the
next argument. Two dashes by themselves are never a value; after them every argument is a document.
All documents stand together: those that come after an option that follows documents are one too
many.

Releases of the library that reads arguments differ in two details: what letters that are attached
to the short option for help do, and whether two dashes attached to an option are its value.

* `Dialect` — the releases.
* `Flag` — the options.
* `Argument` — what one argument is by itself.
* `Options.parse` — what the arguments ask for.
-/

namespace Walkthrough

open Walkthrough.Text

/-- The releases of the library that reads arguments. -/
inductive Dialect
  /-- What is attached to the short option for help has to be that option again. Two dashes that are
  attached to an option leave it without a value. -/
  | older
  /-- Any letters may be attached to the short option for help, and two dashes are a value. -/
  | newer
  deriving DecidableEq

inductive Flag
  | help
  | build
  | world
  | output
  | strict
  deriving DecidableEq

namespace Flag

/-- The name of an option, without its dashes. -/
def name : Flag → String
  | help => "help"
  | build => "build"
  | world => "world"
  | output => "output"
  | strict => "strict"

def all : List Flag := [help, build, world, output, strict]

/-- Whether a value belongs to the option. -/
def takesValue : Flag → Bool
  | build | world | output => true
  | help | strict => false

/-- The options whose names start with some letters. -/
def startingWith (letters : List Char) : List Flag :=
  all.filter fun flag => letters.isPrefixOf flag.name.toList

end Flag

inductive Argument
  /-- A document, or the value of the option before it. -/
  | operand (text : String)
  /-- The two dashes after which there are no options. -/
  | separator
  /-- An option, with the value that is attached to it. -/
  | long (flag : Flag) (value : Option String)
  /-- The short option for help, with the letters that are attached to it. -/
  | shortHelp (attached : List Char)
  /-- Something that looks like an option and is none. -/
  | unknown
  deriving DecidableEq

/-- The command line is not used as it should be. -/
inductive UsageError
  | ambiguous
  | wrongValue
  | wrongArguments
  deriving DecidableEq

namespace Argument

/-- Whether a text is a number with a minus sign: digits that may have a point among them, with a
digit after it. -/
def isNegativeNumber (cs : List Char) : Bool :=
  -- A line end after the number does not matter.
  let line := if cs.getLast? = some '\n' then cs.dropLast else cs
  let isDigits (part : List Char) := part.all fun c => (decimalDigit? c).isSome
  match line with
  | '-' :: number =>
    match cutAt? '.' number with
    | none => isDigits number && !number.isEmpty
    | some (whole, fraction) => isDigits whole && isDigits fraction && !fraction.isEmpty
  | _ => false

/-- What a text after two dashes is: an option, perhaps shortened, perhaps with a value. -/
def classifyLong (text : String) (body : List Char) : Except UsageError Argument :=
  let (letters, value) :=
    match cutAt? '=' body with
    | none => (body, none)
    | some (before, after) => (before, some (String.ofList after))
  match Flag.startingWith letters with
  | [flag] => .ok (.long flag value)
  | _ :: _ :: _ => .error .ambiguous
  | [] => .ok (if text.toList.contains ' ' then .operand text else .unknown)

def classify (text : String) : Except UsageError Argument :=
  match text.toList with
  | ['-'] => .ok (.operand text)
  | ['-', '-'] => .ok .separator
  | '-' :: '-' :: body => classifyLong text body
  | '-' :: 'h' :: attached => .ok (.shortHelp attached)
  | '-' :: body =>
    .ok (if isNegativeNumber ('-' :: body) || body.contains ' ' then .operand text else .unknown)
  | _ => .ok (.operand text)

/-- What the arguments are: after two dashes all of them are operands. -/
def classifyAll : List String → Except UsageError (List Argument)
  | [] => .ok []
  | text :: rest => do
    match ← classify text with
    | .separator => return .separator :: rest.map .operand
    | argument => return argument :: (← classifyAll rest)

/-- Whether what is attached to the short option for help does no harm. The same option again never
does, any number of times. -/
def isHelp : Dialect → List Char → Bool
  -- An equals sign may come first here, if the option follows it.
  | .older, '=' :: letters => letters ≠ [] ∧ letters.all (· == 'h')
  | .older, letters => letters.all (· == 'h')
  | .newer, letters => (letters.dropWhile (· == 'h')).head?.all fun c => c != '-' && c != '='

end Argument

/-- The world that the arguments ask for. -/
inductive WorldOption
  /-- None: the settings decide. -/
  | configured
  | folder (path : Path)
  /-- The option was given without a folder. -/
  | nothing
  deriving DecidableEq

structure Options where
  documents : List Path
  build : Option Path
  world : WorldOption
  output : Option Path
  strict : Bool
  deriving DecidableEq

namespace Options

/-- What the arguments asked for so far, and whether there were any too many. -/
structure Draft where
  options : Options
  tooMany : Bool

/-- An option without a value is set. -/
def Draft.switch (draft : Draft) : Flag → Draft
  | .strict => { draft with options := { draft.options with strict := true } }
  | _ => draft

/-- An option with a value is set; the last value counts. -/
def Draft.assign (dialect : Dialect) (draft : Draft) (flag : Flag) (value : String) : Draft :=
  let path := if dialect = .older ∧ value = "--" then none else some (Path.parse value)
  match flag with
  | .build => { draft with options := { draft.options with build := path } }
  | .world =>
    let world := path.elim WorldOption.nothing .folder
    { draft with options := { draft.options with world := world } }
  | .output => { draft with options := { draft.options with output := path } }
  | _ => draft

/-- Documents that stand together are named. Only the first ones count. -/
def Draft.name (draft : Draft) (documents : List String) : Draft :=
  if documents = [] ∨ draft.options.documents ≠ [] then { draft with tooMany := true }
  else { draft with options := { draft.options with documents := documents.map Path.parse } }

/-- What is asked for: options, or help. -/
inductive Request
  | help
  | run (options : Options)
  deriving DecidableEq

/-- The request that the arguments make after a draft. The documents that were read since the last
option are held back, the last one first, until it is known that no more follow; they are `none`
where an option was read last. -/
def request (dialect : Dialect) (draft : Draft) (held : Option (List String)) :
    List Argument → Except UsageError Request
  | [] =>
    let draft := held.elim draft fun documents => draft.name documents.reverse
    if draft.tooMany ∨ draft.options.documents = [] then .error .wrongArguments
    else .ok (.run draft.options)
  | .operand text :: rest => request dialect draft (some (text :: held.getD [])) rest
  | .separator :: rest => request dialect draft (some (held.getD [])) rest
  | .unknown :: rest =>
    let draft := held.elim draft fun documents => draft.name documents.reverse
    request dialect { draft with tooMany := true } none rest
  | .shortHelp attached :: _ =>
    if Argument.isHelp dialect attached then .ok .help else .error .wrongValue
  | .long flag value :: rest =>
    let draft := held.elim draft fun documents => draft.name documents.reverse
    -- Only a value that is attached may look like an option.
    match flag.takesValue, value, rest with
    | true, some value, rest => request dialect (draft.assign dialect flag value) none rest
    | true, none, .operand value :: rest =>
      request dialect (draft.assign dialect flag value) none rest
    | true, none, _ => .error .wrongValue
    | false, some _, _ => .error .wrongValue
    | false, none, rest =>
      if flag = .help then .ok .help else request dialect (draft.switch flag) none rest

/-- What the arguments ask for. Whether a run is strict unless it is asked for is given. -/
def parse (dialect : Dialect) (strict : Bool) (arguments : List String) :
    Except UsageError Request := do
  request dialect ⟨⟨[], none, .configured, none, strict⟩, false⟩ none
    (← Argument.classifyAll arguments)

end Options

end Walkthrough
