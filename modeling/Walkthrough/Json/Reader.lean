import Walkthrough.Json.Token

/-!
# Reading JSON

The reader takes the tokens of a text one after the other. What it holds between two tokens is the
brackets that are still open, each with what was read inside it, and what may come next. So reading
is a fold over the tokens. How many brackets may be open at once is for the caller to say, who knows
how much room there is.

* `Json.Excess` — what a text may have too much of.
* `Json.Reader.State` — what is held between two tokens.
* `Json.Reader.State.feed` — the state after one more token, or the error.
* `Json.read` — the value that a text stands for.
-/

namespace Walkthrough.Json

open Walkthrough.Text

/-- What a text has too much of. -/
inductive Excess
  /-- A whole number has more digits than `Number.digitLimit`. -/
  | digits (count : Nat)
  /-- An array stands inside as many brackets as may be open. -/
  | arrays
  /-- An object stands inside as many brackets as may be open. -/
  | objects
  deriving DecidableEq

def Excess.message : Excess → String
  | digits count => Number.overlongMessage count
  | arrays => "maximum recursion depth exceeded while decoding a JSON array from a unicode string"
  | objects => "maximum recursion depth exceeded while decoding a JSON object from a unicode string"

/-- Why a text stands for no JSON value. -/
inductive ReadError
  | malformed
  | excess (cause : Excess)
  deriving DecidableEq

namespace Reader

/-- An open bracket with what was read inside it. -/
inductive Bracket
  /-- An array and its items, the last one first. -/
  | array (items : List Json)
  /-- An object, its members and the key whose value is being read. -/
  | object (members : Table Letters Json) (key : Letters)

inductive Stage
  /-- A value. -/
  | value
  /-- The first value of an array, or its end. -/
  | firstItem
  /-- The first key of an object, or its end. -/
  | firstKey
  /-- Another key of an object with these members. -/
  | nextKey (members : Table Letters Json)
  /-- The colon after a key of an object with these members. -/
  | colon (members : Table Letters Json) (key : Letters)
  /-- What follows a value. -/
  | after (value : Json)

/-- The innermost bracket comes first. -/
structure State where
  stage : Stage
  brackets : List Bracket

def State.start : State := ⟨.value, []⟩

variable (nesting : Nat)

/-- The state after a bracket is opened, which the other brackets must leave room for. -/
def State.openBracket (stage : Stage) (excess : Excess) (brackets : List Bracket) :
    Except ReadError State :=
  if brackets.length < nesting then .ok ⟨stage, brackets⟩ else .error (.excess excess)

/-- The state after the first token of a value. -/
def State.beginValue (brackets : List Bracket) : Token → Except ReadError State
  | .null => .ok ⟨.after .null, brackets⟩
  | .bool value => .ok ⟨.after (.bool value), brackets⟩
  | .int value => .ok ⟨.after (.int value), brackets⟩
  | .float value => .ok ⟨.after (.float value), brackets⟩
  | .string value => .ok ⟨.after (.string value), brackets⟩
  | .beginArray => State.openBracket nesting .firstItem .arrays brackets
  | .beginObject => State.openBracket nesting .firstKey .objects brackets
  | .overlong digits => .error (.excess (.digits digits))
  | _ => .error .malformed

/-- The state after the first token of an item that follows the given ones, in an array. -/
def State.beginItem (items : List Json) (brackets : List Bracket) (token : Token) :
    Except ReadError State :=
  State.beginValue nesting (.array items :: brackets) token

/-- The state after a token that follows a value inside a bracket. -/
def State.afterValue (value : Json) :
    List Bracket → Token → Except ReadError State
  | .array items :: brackets, .comma => .ok ⟨.value, .array (value :: items) :: brackets⟩
  | .array items :: brackets, .endArray => .ok ⟨.after (.array (value :: items).reverse), brackets⟩
  | .object members key :: brackets, .comma => .ok ⟨.nextKey (members.put key value), brackets⟩
  | .object members key :: brackets, .endObject =>
    .ok ⟨.after (.object (members.put key value)), brackets⟩
  | _, _ => .error .malformed

def State.feed (state : State) (token : Token) : Except ReadError State :=
  match state.stage, token with
  | .value, token => State.beginValue nesting state.brackets token
  | .firstItem, .endArray => .ok ⟨.after (.array []), state.brackets⟩
  | .firstItem, token => State.beginItem nesting [] state.brackets token
  | .firstKey, .endObject => .ok ⟨.after (.object []), state.brackets⟩
  | .firstKey, .string key => .ok ⟨.colon [] key, state.brackets⟩
  | .nextKey members, .string key => .ok ⟨.colon members key, state.brackets⟩
  | .colon members key, .colon => .ok ⟨.value, .object members key :: state.brackets⟩
  | .after value, token => State.afterValue value state.brackets token
  | _, _ => .error .malformed

/-- The value that was read, if the text may end here. -/
def State.finish (state : State) : Except ReadError Json :=
  match state.stage, state.brackets with
  | .after value, [] => .ok value
  | _, _ => .error .malformed

end Reader

/-- The value that a row of tokens stands for. -/
def ofTokens (nesting : Nat) (tokens : List Token) : Except ReadError Json :=
  match tokens.foldlM (Reader.State.feed nesting) Reader.State.start with
  | .ok state => state.finish
  | .error e => .error e

/-- The value that a text stands for, where so many brackets may be open at once. -/
def read (nesting : Nat) (cs : List Char) : Except ReadError Json :=
  ofTokens nesting (Token.scan cs)

end Walkthrough.Json
