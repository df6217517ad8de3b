import MergeTrain.Json.Basic

/-!
# Records in JSON

A record is written as an object with one entry per field, and may be read from the array of its
fields in order too. What a missing field means is part of the record's shape.

## Main definitions

* `Presence` — what a missing field means.
* `fields?` — the values of a record's fields, in the order of its shape.
* `required`, `orNone`, `orElse` — one of those values, read.
-/

namespace MergeTrain.Json

/-- What a missing field means. -/
inductive Presence where
  /-- It is an error. -/
  | required
  /-- It is absent from an object, but an error in an array. -/
  | optional
  /-- It has a default, in objects and arrays. -/
  | defaulted
  deriving DecidableEq

/-- The fields of a record with their names, in order. -/
abbrev Shape := List (String × Presence)

/-- The value of one field of an object. A repeated field is an error. -/
def field? (entries : List (String × Json)) (name : String) (p : Presence) :
    Option (Option Json) :=
  match entries.filter fun e => e.1 == name with
  | [] => if p = .required then none else some none
  | [(_, v)] => some (some v)
  | _ => none

/-- The values of the fields of an array. -/
def positions? : Shape → List Json → Option (List (Option Json))
  | [], [] => some []
  | [], _ :: _ => none
  | (_, p) :: shape, [] =>
    if p = .defaulted then (positions? shape []).map (none :: ·) else none
  | _ :: shape, v :: rest => (positions? shape rest).map (some v :: ·)

/-- The values of a record's fields, in the order of its shape. Entries that the shape does not
name are an error if it is closed, and skipped otherwise. -/
def fields? (shape : Shape) (closed : Bool) : Json → Option (List (Option Json))
  | .object entries =>
    if closed && entries.any (fun e => !shape.any (·.1 == e.1)) then none
    else shape.mapM fun f => field? entries f.1 f.2
  | .array items => positions? shape items
  | _ => none

/-- A field that must be there. -/
def required {α : Type} (read : Json → Option α) (field : Option Json) : Option α :=
  field.bind read

/-- A field whose absence, or `null`, is a value of its own. -/
def orNone {α : Type} (read : Json → Option α) : Option Json → Option (Option α)
  | none => some none
  | some j => j.optional? read

/-- A field with a default, which `null` does not stand for. -/
def orElse {α : Type} (fallback : α) (read : Json → Option α) : Option Json → Option α
  | none => some fallback
  | some j => read j

end MergeTrain.Json
