import MergeTrain.Json.Basic
import MergeTrain.Json.Token

/-!
# Reading JSON

The reader takes one token at a time and keeps the open arrays and objects on a stack, so values
may nest to any depth. A text is one value, with nothing after it.

## Main definitions

* `Frame` — an array or object that is still open.
* `Goal` — what may come next.
* `read?` — the value that a text denotes.
-/

namespace MergeTrain.Json

/-- The key of an entry, or `none` if it has half of a surrogate pair. -/
abbrev Key := Option String

/-- An array or object that is still open, its parts last first. -/
inductive Frame where
  | array (done : List Json)
  | object (done : List (Key × Json)) (key : Key)

/-- What may come next. -/
inductive Goal where
  | value
  | itemOrEnd
  | key (done : List (Key × Json))
  | keyOrEnd
  | colon (done : List (Key × Json)) (key : Key)
  /-- A value is complete; the frame around it goes on or ends. -/
  | after (v : Json)

/-- The value of a token that is a value by itself. -/
def Token.scalar? : Token → Option Json
  | .null => some .null
  | .bool b => some (.bool b)
  | .int n => some (.int n)
  | .real s => some (.real s)
  | .string s => some (.string s)
  | .halfPair => some .unreadable
  | _ => none

/-- The key of a token that is a string. -/
def Token.key? : Token → Option Key
  | .string s => some (some s)
  | .halfPair => some none
  | _ => none

/-- The object with some entries. -/
def objectOf (entries : List (Key × Json)) : Json :=
  match entries.mapM fun e => e.1.map fun key => (key, e.2) with
  | some entries => .object entries
  | none => .unreadable

/-- A token where a value is due. -/
def readValue (stack : List Frame) (t : Token) : Option (Goal × List Frame) :=
  match t with
  | .openBracket => some (.itemOrEnd, .array [] :: stack)
  | .openBrace => some (.keyOrEnd, stack)
  | t => t.scalar?.map fun v => (.after v, stack)

/-- One token. -/
def readStep : Goal × List Frame → Token → Option (Goal × List Frame)
  | (.value, stack), t => readValue stack t
  | (.itemOrEnd, .array [] :: stack), .closeBracket => some (.after (.array []), stack)
  | (.itemOrEnd, stack), t => readValue stack t
  | (.key done, stack), t => t.key?.map fun k => (.colon done k, stack)
  | (.keyOrEnd, stack), .closeBrace => some (.after (.object []), stack)
  | (.keyOrEnd, stack), t => t.key?.map fun k => (.colon [] k, stack)
  | (.colon done k, stack), .colon => some (.value, .object done k :: stack)
  | (.after v, .array done :: stack), .comma => some (.value, .array (v :: done) :: stack)
  | (.after v, .array done :: stack), .closeBracket =>
    some (.after (.array (v :: done).reverse), stack)
  | (.after v, .object done k :: stack), .comma => some (.key ((k, v) :: done), stack)
  | (.after v, .object done k :: stack), .closeBrace =>
    some (.after (objectOf ((k, v) :: done).reverse), stack)
  | _, _ => none

/-- The value that a text denotes. -/
def read? (text : String) : Option Json := do
  match ← (← tokens? text.toList).foldlM readStep (.value, []) with
  | (.after v, []) => some v
  | _ => none

end MergeTrain.Json
