import MergeTrain.Json.Basic

/-!
# Alternatives with fixed spellings

Many types of this library are a choice among a few alternatives, each written in one way in files
and on the wire.

## Main definitions

* `Spelled` — the alternatives of a type and their spellings.
* `Spelled.ofText?` — the alternative with a given spelling.
* `Spelled.toJson`, `Spelled.ofJson?` — the wire form.
-/

namespace MergeTrain

/-- A type whose values are written as fixed words. -/
class Spelled (α : Type) where
  /-- Every value, in the order of its declaration. -/
  all : List α
  /-- How a value is written. -/
  text : α → String

namespace Spelled

variable {α : Type} [Spelled α]

/-- The words and what they stand for. -/
def words (α : Type) [Spelled α] : List (String × α) :=
  (all : List α).map fun a => (text a, a)

/-- The value that a word stands for. -/
def ofText? (word : String) : Option α :=
  (words α).lookup word

/-- The wire form: the word. -/
def toJson (a : α) : Json :=
  .string (text a)

/-- A wire value read back. -/
def ofJson? (j : Json) : Option α :=
  j.variant? (words α)

end Spelled

end MergeTrain
