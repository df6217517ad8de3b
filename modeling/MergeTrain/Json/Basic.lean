/-!
# JSON values

A JSON value as a text gives it: the entries of an object keep their order and their repetitions,
because whether a repeated key is an error depends on who reads the object.

## Main definitions

* `Json` — the values.
* `Json.uint64?`, `Json.text?`, `Json.list?`, … — a value read as one of the types that records
  are made of, without any conversion between kinds.
-/

namespace MergeTrain

/-- A JSON value. -/
inductive Json where
  | null
  | bool (value : Bool)
  /-- A number written as an integer, `-0` excepted. -/
  | int (value : Int)
  /-- Any other number, as written. -/
  | real (text : String)
  | string (text : String)
  /-- A string with half of a surrogate pair, or an object with such a key. There is no text for
  the string, so only a reader that skips the value accepts it. -/
  | unreadable
  | array (items : List Json)
  | object (entries : List (String × Json))
  deriving Inhabited

namespace Json

/-- The value of an optional field: `null` stands for absence. -/
def ofOption {α : Type} (encode : α → Json) : Option α → Json
  | none => null
  | some a => encode a

/-- A natural number as a value. -/
def nat (n : Nat) : Json :=
  int (Int.ofNat n)

/-- A text, and nothing else. -/
def text? : Json → Option String
  | string s => some s
  | _ => none

/-- A truth value. -/
def bool? : Json → Option Bool
  | bool b => some b
  | _ => none

/-- A natural number below `bound`. -/
def natBelow? (bound : Nat) : Json → Option Nat
  | int n => if 0 ≤ n ∧ n < bound then some n.toNat else none
  | _ => none

/-- A number of sixty-four bits. -/
def uint64? (j : Json) : Option UInt64 :=
  (j.natBelow? UInt64.size).map UInt64.ofNat

/-- A number of thirty-two bits. -/
def uint32? (j : Json) : Option UInt32 :=
  (j.natBelow? UInt32.size).map UInt32.ofNat

/-- A number of sixteen bits. -/
def uint16? (j : Json) : Option UInt16 :=
  (j.natBelow? UInt16.size).map UInt16.ofNat

/-- Every item of an array, read in order. -/
def list? {α : Type} (read : Json → Option α) : Json → Option (List α)
  | array items => items.mapM read
  | _ => none

/-- A value that may be `null`. -/
def optional? {α : Type} (read : Json → Option α) : Json → Option (Option α)
  | null => some none
  | j => (read j).map some

/-- The entries of an object, their values read in order. -/
def entries? {α : Type} (read : Json → Option α) : Json → Option (List (String × α))
  | object entries => entries.mapM fun e => (read e.2).map fun a => (e.1, a)
  | _ => none

/-- One of the named alternatives: its name, or an object whose only key is its name and whose
value is `null`. -/
def variant? {α : Type} (names : List (String × α)) : Json → Option α
  | string s => names.lookup s
  | object [(s, null)] => names.lookup s
  | _ => none

end Json

end MergeTrain
