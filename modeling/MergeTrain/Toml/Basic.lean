/-!
# TOML values

What a TOML document holds. A document is a table.

## Main definitions

* `Toml` — the values.
-/

namespace MergeTrain

/-- A TOML value. -/
inductive Toml where
  | text (value : String)
  /-- A number of sixty-four bits with a sign. -/
  | integer (value : Int)
  | bool (value : Bool)
  /-- A number with a fraction, or a date or time, as written. -/
  | other (source : String)
  | array (items : List Toml)
  /-- A table; no key comes twice. -/
  | table (entries : List (String × Toml))
  deriving Inhabited

end MergeTrain
