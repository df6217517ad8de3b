import MergeTrain.Json.Basic

/-!
# Priorities

The weight of a pull request in its queue: a number, three of which have names.

## Main definitions

* `Priority` — the weight.
* `Priority.ofAlias?`, `Priority.alias?` — the named weights.
* `Priority.text` — the name, or else the number.
-/

namespace MergeTrain

/-- The weight of a pull request in its queue. -/
structure Priority where
  weight : UInt32
  deriving DecidableEq, Repr

namespace Priority

/-- The weight called `low`. -/
def low : Priority := ⟨1000⟩

/-- The weight called `medium`, which is the default. -/
def medium : Priority := ⟨2000⟩

/-- The weight called `high`. -/
def high : Priority := ⟨3000⟩

/-- The greatest weight that a policy may give. -/
def highest : Priority := ⟨10000⟩

instance : Inhabited Priority :=
  ⟨medium⟩

/-- The named weights. -/
def aliases : List (String × Priority) :=
  [("low", low), ("medium", medium), ("high", high)]

/-- The weight of a name. -/
def ofAlias? (name : String) : Option Priority :=
  aliases.lookup name

/-- The name of a weight. -/
def alias? (p : Priority) : Option String :=
  (aliases.find? fun a => a.2 == p).map Prod.fst

/-- The name of a weight, or else its number. -/
def text (p : Priority) : String :=
  p.alias?.getD (toString p.weight.toNat)

/-- The wire form: the number. -/
def toJson (p : Priority) : Json :=
  .nat p.weight.toNat

/-- A wire value read back. -/
def ofJson? (j : Json) : Option Priority :=
  j.uint32?.map Priority.mk

end Priority

end MergeTrain
