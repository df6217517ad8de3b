import MergeTrain.Toml.Node
import MergeTrain.Toml.Scalar

/-!
# Reading TOML

A document is read statement by statement. Lines end at a line feed, with a carriage return before
it or not; other control characters than the tab are allowed nowhere.

## Main definitions

* `Reader` — a reader of text.
* `Statement` — a header, or a key with its value.
* `Statement.perform?` — what a statement does to a document.
* `Toml.ofText?` — the table that a text denotes.
-/

namespace MergeTrain.Toml

open Text

/-- A reader: it takes text, or refuses it. -/
abbrev Reader := StateT (List Char) Option

/-- How deep arrays and tables may nest, and how many parts a key may have, plus one. -/
def depthLimit : Nat :=
  80

namespace Reader

/-- The next character. -/
def peek : Reader (Option Char) := do
  return (← get).head?

/-- Take one character. -/
def advance : Reader Unit :=
  modify List.tail

/-- Take a given text if it is next. -/
def take? (lead : String) : Reader Bool := do
  match after? lead.toList (← get) with
  | some rest =>
    set rest
    return true
  | none => return false

/-- Take a given text. -/
def expect (lead : String) : Reader Unit := do
  if !(← take? lead) then failure

/-- Take characters as long as they pass a test. -/
def span (test : Char → Bool) : Reader (List Char) := do
  let s ← get
  let taken := s.takeWhile test
  set (s.drop taken.length)
  return taken

/-- Whether the text is used up. -/
def atEnd : Reader Bool := do
  return (← get).isEmpty

/-! ### Blanks -/

/-- A tab or a space. -/
def isGap (c : Char) : Bool :=
  c == ' ' || c == '\t'

/-- A character that may stand in a comment, or unescaped in a string. -/
def isPlain (c : Char) : Bool :=
  c == '\t' || (0x20 ≤ c.toNat && c.toNat != 0x7F)

/-- Skip tabs and spaces. -/
def gap : Reader Unit :=
  discard (span isGap)

/-- Take the end of a line if it is next. -/
def newline? : Reader Bool := do
  if ← take? "\n" then return true else take? "\r\n"

/-- Skip a comment if one is next. -/
def comment : Reader Unit := do
  if ← take? "#" then discard (span isPlain)

/-- Skip blanks, line ends and comments. `fuel` bounds the number of lines. -/
def blanks : Nat → Reader Unit
  | 0 => failure
  | fuel + 1 => do
    gap
    comment
    if ← newline? then blanks fuel

/-- Take what may follow a statement on its line, and the end of the line. -/
def lineEnd : Reader Unit := do
  gap
  comment
  if !(← newline?) && !(← atEnd) then failure

/-! ### Strings -/

/-- The character of a code point given in `count` hexadecimal digits. -/
def codePoint (count : Nat) : Reader Char := do
  let s ← get
  let digits := s.take count
  let values := digits.filterMap Json.hexValue?
  let n := values.foldl (fun n d => 16 * n + d) 0
  if values.length == count && n.isValidChar then
    set (s.drop count)
    return Char.ofNat n
  else failure

/-- The character of an escape, after its backslash. -/
def escape : Reader Char := do
  match ← peek with
  | none => failure
  | some c =>
    advance
    match c with
    | 'b' => return '\x08'
    | 't' => return '\t'
    | 'n' => return '\n'
    | 'f' => return '\x0c'
    | 'r' => return '\r'
    | '\"' => return '\"'
    | '\\' => return '\\'
    | 'u' => codePoint 4
    | 'U' => codePoint 8
    | _ => failure

/-- The body of a string on one line up to its closing quote. Escapes count in strings with double
quotes. -/
def lineBody (quote : Char) : Nat → List Char → Reader String
  | 0, _ => failure
  | fuel + 1, done => do
    match ← peek with
    | none => failure
    | some c =>
      if c == quote then
        advance
        return String.ofList done.reverse
      else if c == '\\' && quote == '\"' then
        advance
        lineBody quote fuel ((← escape) :: done)
      else if isPlain c then
        advance
        lineBody quote fuel (c :: done)
      else failure

/-- Take a backslash at the end of a line, with all blanks and line ends after it. -/
def joinedLines : Reader Bool := do
  let s ← get
  let (hadEnd, rest) ← (do
    gap
    let hadEnd ← newline?
    return (hadEnd, ← get) : Reader (Bool × List Char))
  if hadEnd then
    blankLines rest.length.succ
    return true
  else
    set s
    return false
where
  /-- Skip blanks and line ends. -/
  blankLines : Nat → Reader Unit
    | 0 => failure
    | fuel + 1 => do
      gap
      if ← newline? then blankLines fuel

/-- The body of a string on several lines up to its three closing quotes. One or two more quotes
may stand right before these. -/
def linesBody (quote : Char) : Nat → List Char → Reader String
  | 0, _ => failure
  | fuel + 1, done => do
    match ← peek with
    | none => failure
    | some c =>
      if c == quote then
        let quotes := (← get).takeWhile (· == quote)
        let count := min quotes.length 5
        modify fun s => s.drop count
        if count < 3 then linesBody quote fuel (List.replicate count quote ++ done)
        else return String.ofList (List.replicate (count - 3) quote ++ done).reverse
      else if c == '\\' && quote == '\"' then
        advance
        if ← joinedLines then linesBody quote fuel done
        else linesBody quote fuel ((← escape) :: done)
      else if ← newline? then linesBody quote fuel ('\n' :: done)
      else if isPlain c then
        advance
        linesBody quote fuel (c :: done)
      else failure

/-- A string on one line. -/
def lineString : Reader String := do
  let fuel := (← get).length.succ
  if ← take? "\"" then lineBody '\"' fuel []
  else
    expect "'"
    lineBody '\'' fuel []

/-- A string of any form. -/
def string : Reader String := do
  let fuel := (← get).length.succ
  if ← take? "\"\"\"" then
    discard newline?
    linesBody '\"' fuel []
  else if ← take? "'''" then
    discard newline?
    linesBody '\'' fuel []
  else lineString

/-! ### Keys -/

/-- A character of a key without quotes. -/
def isKeyChar (c : Char) : Bool :=
  c.isAlphanum || c == '_' || c == '-'

/-- One part of a key. -/
def keyPart : Reader String := do
  if (← peek).any fun c => c == '\"' || c == '\'' then lineString
  else
    let chars ← span isKeyChar
    if chars.isEmpty then failure else return String.ofList chars

/-- The parts of a key with dots between them, last first. -/
def keyParts : Nat → List String → Reader (List String)
  | 0, _ => failure
  | fuel + 1, done => do
    gap
    let done := (← keyPart) :: done
    gap
    if ← take? "." then keyParts fuel done else return done

/-- A key: the path to its last part, and that part. -/
def key : Reader (List String × String) := do
  match ← keyParts (depthLimit - 1) [] with
  | last :: path => return (path.reverse, last)
  | [] => failure

/-! ### Values -/

mutual

/-- A value inside `depth` arrays and tables. -/
def value : Nat → Nat → Reader Toml
  | 0, _ => failure
  | fuel + 1, depth => do
    match ← peek with
    | some '\"' | some '\'' => return .text (← string)
    | some '[' =>
      if depthLimit ≤ depth + 1 then failure
      advance
      items fuel (depth + 1) []
    | some '\x7b' =>
      if depthLimit ≤ depth + 1 then failure
      advance
      gap
      if ← take? "\x7d" then return .table [] else pairs fuel (depth + 1) []
    | _ =>
      let chars := word (← get)
      modify fun s => s.drop chars.length
      (scalar? chars : Option Toml)

/-- The items of an array up to its closing bracket, last first. -/
def items : Nat → Nat → List Toml → Reader Toml
  | 0, _, _ => failure
  | fuel + 1, depth, done => do
    blanks (fuel + 1)
    if ← take? "]" then return .array done.reverse
    let done := (← value fuel depth) :: done
    blanks (fuel + 1)
    if ← take? "," then items fuel depth done
    else
      expect "]"
      return .array done.reverse

/-- The entries of a table in braces up to its closing brace. -/
def pairs : Nat → Nat → Entries → Reader Toml
  | 0, _, _ => failure
  | fuel + 1, depth, entries => do
    let (path, last) ← key
    expect "="
    gap
    let v ← value fuel depth
    gap
    let entries ← (assignAt path last v .header entries : Option Entries)
    if ← take? "," then pairs fuel depth entries
    else
      expect "\x7d"
      return .table (finished entries)

end

end Reader

/-! ### Documents -/

/-- A statement of a document. -/
inductive Statement where
  /-- A key and its value in the current table. -/
  | assign (path : List String) (key : String) (value : Toml)
  /-- The header of a table. -/
  | table (path : List String) (key : String)
  /-- The header of one of a list of tables. -/
  | item (path : List String) (key : String)

namespace Statement

open Reader

/-- Read a statement with its line. -/
def read : Reader Statement := do
  let fuel := 2 * (← get).length + 2
  if ← take? "[[" then
    let (path, last) ← key
    expect "]]"
    lineEnd
    return .item path last
  else if ← take? "[" then
    let (path, last) ← key
    expect "]"
    lineEnd
    return .table path last
  else
    let (path, last) ← key
    expect "="
    gap
    let v ← value fuel 0
    lineEnd
    return .assign path last v

/-- Read the statements of a document, last first. -/
def readAll : Nat → List Statement → Reader (List Statement)
  | 0, _ => failure
  | fuel + 1, done => do
    blanks (fuel + 1)
    if ← atEnd then return done
    readAll fuel ((← read) :: done)

/-- What a statement does to a document. The path to the current table comes with the document. -/
def perform? : List String × Entries → Statement → Option (List String × Entries)
  | (current, entries), .assign path key v => do
    return (current, ← editAt false (assignAt path key v) current .header entries)
  | (_, entries), .table path key => do
    return (path ++ [key], ← editAt false (openTable key) path .header entries)
  | (_, entries), .item path key => do
    return (path ++ [key], ← editAt false (openItem key) path .header entries)

end Statement

/-- A text without the mark of its byte order. -/
def dropMark : List Char → List Char
  | '\ufeff' :: rest => rest
  | rest => rest

/-- The table that a text denotes. -/
def ofText? (text : String) : Option Toml := do
  let chars := dropMark text.toList
  let (statements, _) ← (Statement.readAll (chars.length + 1) []).run chars
  let (_, entries) ← statements.reverse.foldlM Statement.perform? ([], [])
  return .table (finished entries)

end MergeTrain.Toml
