import MergeTrain.Json.Printer
import MergeTrain.Toml.Basic

/-!
# Printing TOML

One form per value. A text is written in the simplest form that needs no escapes: between double
quotes, between single quotes, or between three of either kind; failing that, with escapes. A table
gets a header unless it holds nothing but tables.

## Main definitions

* `Form`, `form` — the forms of a text, and the one that is chosen.
* `quotedText`, `keyText` — a text and a key as written.
* `render` — a document as written.
-/

namespace MergeTrain.Toml

/-! ### Texts -/

/-- How a text is written. -/
inductive Form where
  /-- Between quotes, with escapes. -/
  | basic
  /-- Between single quotes, as it is. -/
  | literal
  /-- Between three quotes, with escapes. -/
  | longBasic
  /-- Between three single quotes, as it is. -/
  | longLiteral
  deriving DecidableEq

/-- The length of the longest run of a character. -/
def longestRun (c : Char) (s : List Char) : Nat :=
  go 0 s
where
  /-- The longest run, when `current` of them stand right before. -/
  go (current : Nat) : List Char → Nat
    | [] => current
    | d :: rest => if d = c then go (current + 1) rest else max current (go 0 rest)

/-- A control character that no form shows as it is. Tabs and line feeds are not among them. -/
def isHidden (c : Char) : Bool :=
  (c.toNat < 0x20 && c != '\t' && c != '\n') || c.toNat == 0x7F

/-- The form of a text. -/
def form (s : List Char) : Form :=
  let hidden := s.any isHidden
  let singles := longestRun '\'' s
  let doubles := longestRun '\"' s
  if !hidden && !s.contains '\\' && doubles == 0 && !s.contains '\n' then .basic
  else if !hidden && singles == 0 && !s.contains '\n' then .literal
  else if !hidden && !s.contains '\\' && doubles ≤ 2 then .longBasic
  else if !hidden && singles ≤ 2 then .longLiteral
  else if s.contains '\n' then .longBasic
  else .basic

/-- A character in a form with escapes, quotes aside. Line feeds stay in the long form. -/
def escaped (long : Bool) (c : Char) : List Char :=
  match c with
  | '\x08' => ['\\', 'b']
  | '\t' => ['\\', 't']
  | '\n' => if long then ['\n'] else ['\\', 'n']
  | '\x0c' => ['\\', 'f']
  | '\r' => ['\\', 'r']
  | '\\' => ['\\', '\\']
  | _ =>
    if isHidden c then
      let digit n := (Json.hexDigit n).toUpper
      ['\\', 'u', '0', '0', digit (c.toNat / 16), digit (c.toNat % 16)]
    else [c]

/-- A text with escapes. In the long form up to two quotes in a row stay as they are; `run` of them
stand right before. -/
def escapedText (long : Bool) (run : Nat) : List Char → List Char
  | [] => []
  | c :: rest =>
    if c = '\"' then
      if long && run < 2 then '\"' :: escapedText long (run + 1) rest
      else '\\' :: '\"' :: escapedText long 0 rest
    else escaped long c ++ escapedText long 0 rest

/-- The line feed that begins a long text, if that has lines at all. -/
def opening (s : List Char) : List Char :=
  if s.contains '\n' then ['\n'] else []

/-- A text in a given form. -/
def inForm (s : List Char) : Form → List Char
  | .basic => ['\"'] ++ escapedText false 0 s ++ ['\"']
  | .literal => ['\''] ++ s ++ ['\'']
  | .longBasic =>
    let quotes := List.replicate 3 '\"'
    quotes ++ opening s ++ escapedText true 0 s ++ quotes
  | .longLiteral =>
    let quotes := List.replicate 3 '\''
    quotes ++ opening s ++ s ++ quotes

/-- A text as written. -/
def quotedText (text : String) : String :=
  let s := text.toList
  String.ofList (inForm s (form s))

/-! ### Keys -/

/-- Whether a key can stand without quotes. -/
def isBare (s : List Char) : Bool :=
  !s.isEmpty && s.all fun c => c.isAlphanum || c == '_' || c == '-'

/-- The form of a key that needs quotes; keys have no long forms. -/
def keyForm (s : List Char) : Form :=
  let hidden := s.any fun c => isHidden c || c == '\n'
  if hidden then .basic
  else if !s.contains '\\' && !s.contains '\"' then .basic
  else if !s.contains '\'' then .literal
  else .basic

/-- A key as written. -/
def keyText (key : String) : String :=
  let s := key.toList
  if isBare s then key else String.ofList (inForm s (keyForm s))

/-! ### Values -/

/-- The items of an array: one line if there are fewer than two, and else a line for each. -/
def arrayText : List String → String
  | [] => "[]"
  | [item] => "[" ++ item ++ "]"
  | items => "[\n" ++ String.join (items.map fun item => "    " ++ item ++ ",\n") ++ "]"

/-- The entries of a table in braces. -/
def bracesText (entries : List String) : String :=
  if entries.isEmpty then "\x7b\x7d" else "\x7b " ++ ", ".intercalate entries ++ " \x7d"

mutual

/-- A value as written after its key. -/
def valueText : Toml → String
  | .text value => quotedText value
  | .integer value => toString value
  | .bool value => if value then "true" else "false"
  | .other source => source
  | .array items => arrayText (itemTexts items)
  | .table entries => bracesText (entryTexts entries)

/-- The items of an array as written. -/
def itemTexts : List Toml → List String
  | [] => []
  | v :: rest => valueText v :: itemTexts rest

/-- The entries of a table as written. -/
def entryTexts : List (String × Toml) → List String
  | [] => []
  | (key, v) :: rest => (keyText key ++ " = " ++ valueText v) :: entryTexts rest

end

/-! ### Documents -/

/-- Whether a value is a table. -/
def isTable : Toml → Bool
  | .table _ => true
  | _ => false

/-- The header of the table at a path. The document itself has none. -/
def headerText (path : List String) : String :=
  if path.isEmpty then "" else "[" ++ ".".intercalate (path.map keyText) ++ "]\n"

/-- A table without the tables in it, unless that leaves nothing to write. -/
def block (path : List String) (entries : List (String × Toml)) : List String :=
  let own := entries.filter fun e => !isTable e.2
  if own.isEmpty && (path.isEmpty || !entries.isEmpty) then []
  else [headerText path ++ String.join ((entryTexts own).map fun line => line ++ "\n")]

mutual

/-- A table and the tables in it, each as a block. -/
def blocks (path : List String) : Toml → List String
  | .table entries => block path entries ++ innerBlocks path entries
  | _ => []

/-- The blocks of the tables among some entries. -/
def innerBlocks (path : List String) : List (String × Toml) → List String
  | [] => []
  | (key, v) :: rest => blocks (path ++ [key]) v ++ innerBlocks path rest

end

/-- A document as written. -/
def render (document : Toml) : String :=
  "\n".intercalate (blocks [] document)

end MergeTrain.Toml
