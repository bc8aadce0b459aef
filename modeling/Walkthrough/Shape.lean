import Walkthrough.Json.Display

/-!
# Shapes of tables

A table must have a fixed shape before it is used. A shape is what it finds fault with: a function
from a value to the violations in it, each with the place where it was found. Shapes are built from
the shapes of their parts.

Which values violate a shape is laid down by JSON Schema, in its draft 2020-12. Which of several
violations is told, and in which words, is not: this is assumed to be as in release 4.26.0 of the
library `jsonschema`. The order in which violations are found, their ranks (`Violation.outranks`)
and their words (`Fault.message`) rest on that assumption, and nothing else does.

* `Shape` — with `Shape.text`, `Shape.name`, `Shape.count`, `Shape.flag`, `Shape.list`, `Shape.dict`
  and `Shape.record`.
* `Violation` — a place and what is wrong there.
* `Violation.reported?` — the one violation of several that is reported: the outermost one, of these
  the last in the order of places, and at one place rather a value of the wrong kind; of equal ones
  it is the one that was found first.
-/

namespace Walkthrough

open Walkthrough.Text

/-- The kinds of values that a shape may ask for. -/
inductive Kind
  | object
  | array
  | string
  | integer
  | boolean
  deriving DecidableEq

def Kind.word : Kind → String
  | .object => "object"
  | .array => "array"
  | .string => "string"
  | .integer => "integer"
  | .boolean => "boolean"

/-- A step from a value to a part of it. -/
inductive PathStep
  | key (name : Letters)
  | index (position : Nat)
  deriving DecidableEq

namespace PathStep

def text : PathStep → String
  | key name => name.shown
  | index position => toString position

/-- The order of steps: keys by code point, positions by number. Keys come after positions, though
no value has both. -/
def before : PathStep → PathStep → Bool
  | key a, key b => a < b
  | index a, index b => a < b
  | index _, key _ => true
  | key _, index _ => false

/-- The order of paths: by the first step in which they differ. -/
def pathBefore : List PathStep → List PathStep → Bool
  | _, [] => false
  | [], _ :: _ => true
  | a :: as, b :: bs => before a b || (a == b && pathBefore as bs)

end PathStep

/-- What may be wrong with a value. -/
inductive Fault
  | wrongKind (found : Json) (wanted : Kind)
  /-- An object lacks a member. -/
  | missing (key : String)
  /-- An object has members that its shape does not know. -/
  | unexpected (keys : List Letters)
  /-- A number is less than one. -/
  | belowOne (found : Json)
  /-- A name is the empty text. -/
  | emptyName

namespace Fault

/-- A fault in words; it may show a value that was read. -/
def message : Fault → String
  | wrongKind found wanted => found.display ++ " is not of type '" ++ wanted.word ++ "'"
  | missing key => quote key ++ " is a required property"
  | unexpected keys =>
    "Additional properties are not allowed (" ++ ", ".intercalate (keys.map quoteLetters) ++
      (if keys.length = 1 then " was" else " were") ++ " unexpected)"
  | belowOne found => found.display ++ " is less than the minimum of 1"
  | emptyName => "'' should be non-empty"

/-- Whether the kind of the value is what is wrong. -/
def isKind : Fault → Bool
  | wrongKind _ _ => true
  | _ => false

end Fault

/-- A fault at the place that a path leads to. -/
structure Violation where
  path : List PathStep
  fault : Fault

namespace Violation

/-- The violation seen from outside: one step further in. -/
def under (step : PathStep) (v : Violation) : Violation := ⟨step :: v.path, v.fault⟩

/-- The place in words. A path whose words are empty counts as the whole value. -/
def place (v : Violation) : String :=
  let words := "/".intercalate (v.path.map PathStep.text)
  if words.isEmpty then "<root>" else words

/-- Whether a violation is reported rather than another one that was found before it. -/
def outranks (v before : Violation) : Bool :=
  v.path.length < before.path.length ||
    (v.path.length == before.path.length &&
      (PathStep.pathBefore before.path v.path ||
        (v.path == before.path && v.fault.isKind && !before.fault.isKind)))

/-- The one violation that is reported of those that were found. -/
def reported? : List Violation → Option Violation
  | [] => none
  | v :: rest => some (rest.foldl (fun best w => if w.outranks best then w else best) v)

theorem reported?_eq_none_iff {vs : List Violation} : reported? vs = none ↔ vs = [] := by
  cases vs <;> simp [reported?]

end Violation

/-- A shape: the violations that a value has of it. -/
abbrev Shape := Json → List Violation

namespace Shape

/-- A member that a record may or must have. -/
structure Field where
  key : String
  required : Bool
  shape : Shape

/-- The key of a field in an object. -/
def Field.letters (field : Field) : Letters := field.key

/-- The violation that a value is of another kind. -/
def wrongKind (found : Json) (wanted : Kind) : List Violation := [⟨[], .wrongKind found wanted⟩]

def text : Shape
  | .string _ => []
  | other => wrongKind other .string

def name : Shape
  | .string text => if text.isEmpty then [⟨[], .emptyName⟩] else []
  | other => wrongKind other .string

/-- A whole number from one on. A float will do if it is equal to one. -/
def count : Shape
  | .int n => if n < 1 then [⟨[], .belowOne (.int n)⟩] else []
  | .float x =>
    -- A float may be at fault in both ways.
    (if x.toInt?.isNone then wrongKind (.float x) .integer else []) ++
      (if x.belowOne then [⟨[], .belowOne (.float x)⟩] else [])
  | other => wrongKind other .integer

def flag : Shape
  | .bool _ => []
  | other => wrongKind other .boolean

/-- An array whose items have a shape. -/
def list (item : Shape) : Shape
  | .array items =>
    items.zipIdx.flatMap fun (value, position) => (item value).map (.under (.index position))
  | other => wrongKind other .array

/-- An object with any keys whose values have a shape. -/
def dict (value : Shape) : Shape
  | .object members =>
    members.flatMap fun (key, json) => (value json).map (.under (.key key))
  | other => wrongKind other .object

/-- The violations of the value of a field, if there is one. -/
def Field.violations (members : Table Letters Json) (field : Field) : List Violation :=
  match members.get? field.letters with
  | none => []
  | some json => (field.shape json).map (.under (.key field.key))

/-- The keys that none of the fields has, in the order of code points. -/
def strangers (fields : List Field) (members : Table Letters Json) : List Letters :=
  (members.keys.filter fun key => fields.all fun field => field.letters != key).mergeSort
    fun a b => a ≤ b

/-- An object with the given fields and no other members. -/
def record (fields : List Field) : Shape
  | .object members =>
    let missing := fields.filter fun field => field.required && !Table.has field.letters members
    let extra := strangers fields members
    missing.map (fun field => ⟨[], .missing field.key⟩) ++
      fields.flatMap (·.violations members) ++
      (if extra.isEmpty then [] else [⟨[], .unexpected extra⟩])
  | other => wrongKind other .object

end Shape

end Walkthrough
