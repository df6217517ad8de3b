import MergeTrain.Json.Fields
import MergeTrain.Spelled
import MergeTrain.Toml.Basic

/-!
# Records in TOML

A record is written as a table with one key per field, and may be read from the array of its fields
in order too. Records are closed: a key that is no field is an error. Items of an array beyond the
last field are skipped.

## Main definitions

* `fields?` — the values of a record's fields, in the order of its shape.
* `required`, `orNone`, `orElse` — one of those values, read.
* `Spelled.ofToml?` — an alternative read from its word.
-/

namespace MergeTrain

namespace Toml

open Json (Presence Shape)

/-- The values of the fields of an array. -/
def positions? : Shape → List Toml → Option (List (Option Toml))
  | [], _ => some []
  | (_, p) :: shape, [] =>
    if p = .defaulted then (positions? shape []).map (none :: ·) else none
  | _ :: shape, v :: rest => (positions? shape rest).map (some v :: ·)

/-- The value of one field of a table. -/
def field? (entries : List (String × Toml)) (name : String) (p : Presence) :
    Option (Option Toml) :=
  match entries.lookup name with
  | none => if p = .required then none else some none
  | found => some found

/-- The values of a record's fields, in the order of its shape. -/
def fields? (shape : Shape) : Toml → Option (List (Option Toml))
  | .table entries =>
    if entries.any fun e => !shape.any (·.1 == e.1) then none
    else shape.mapM fun f => field? entries f.1 f.2
  | .array items => positions? shape items
  | _ => none

/-- A field whose absence is a value of its own. -/
def orNone {α : Type} (read : Toml → Option α) : Option Toml → Option (Option α)
  | none => some none
  | some v => (read v).map some

/-- A field with a default. -/
def orElse {α : Type} (fallback : α) (read : Toml → Option α) : Option Toml → Option α
  | none => some fallback
  | some v => read v

/-- A text, and nothing else. -/
def text? : Toml → Option String
  | .text s => some s
  | _ => none

/-- A natural number of thirty-two bits. -/
def uint32? : Toml → Option UInt32
  | .integer n => if 0 ≤ n ∧ n < 4294967296 then some (UInt32.ofNat n.toNat) else none
  | _ => none

/-- Every item of an array, read in order. -/
def list? {α : Type} (read : Toml → Option α) : Toml → Option (List α)
  | .array items => items.mapM read
  | _ => none

/-- The entries of a table, their values read in order. -/
def entries? {α : Type} (read : Toml → Option α) : Toml → Option (List (String × α))
  | .table entries => entries.mapM fun e => (read e.2).map fun a => (e.1, a)
  | _ => none

/-- A value without content: an empty table or array. -/
def isUnit : Toml → Bool
  | .table entries => entries.isEmpty
  | .array items => items.isEmpty
  | _ => false

end Toml

namespace Spelled

variable {α : Type} [Spelled α]

/-- The document form: the word. -/
def toToml (a : α) : Toml :=
  .text (text a)

/-- An alternative read from its word, or from a table whose only key is its word and whose value
has no content. -/
def ofToml? : Toml → Option α
  | .text word => ofText? word
  | .table [(word, v)] => if v.isUnit then ofText? word else none
  | _ => none

end Spelled

end MergeTrain
