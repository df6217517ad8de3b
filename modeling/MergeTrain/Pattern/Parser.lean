import MergeTrain.Json.Token
import MergeTrain.Pattern.Machine
import MergeTrain.Text.Blank
import MergeTrain.Text.Search
import MergeTrain.Unicode.CaseFold

/-!
# Reading patterns

The written form of patterns. There is no look-around and there are no references to groups: both
are refused. Flags such as `(?i)` act from where they stand to the end of their group.

## Main definitions

* `Flags` — what the flags of a pattern change.
* `Source` — the text that is left, the flags in force and the groups so far.
* `Pattern.ofText?` — the pattern that a text denotes.
-/

namespace MergeTrain.Pattern

open Text Unicode

/-! ### The reader's state -/

/-- What the flags of a pattern change. -/
structure Flags where
  /-- Case does not count. -/
  anyCase : Bool := false
  /-- `^` and `$` stand for the ends of lines. -/
  multiLine : Bool := false
  /-- `.` stands for line feeds too. -/
  dotAll : Bool := false
  /-- Carriage returns end lines. -/
  returns : Bool := false
  /-- Repetitions prefer fewer matches, unless a question mark follows. -/
  lazyFirst : Bool := false
  /-- Blanks and comments do not count. -/
  verbose : Bool := false
  /-- Classes have characters of all scripts. -/
  unicode : Bool := true

/-- The text that is left, the flags in force and the groups so far. -/
structure Source where
  rest : List Char
  flags : Flags := {}
  /-- The number of groups whose matches are remembered. -/
  groups : Nat := 0
  /-- The names of groups. -/
  names : List (List Char) := []

/-- A reader: it takes text from the source, or refuses it. -/
abbrev Reader := StateT Source Option

/-- The text after blanks and comments. -/
def skipComments : Bool → List Char → List Char
  | _, [] => []
  | true, c :: rest => skipComments (c != '\n') rest
  | false, c :: rest =>
    if isBlank c then skipComments false rest
    else if c == '#' then skipComments true rest
    else c :: rest

namespace Source

/-- The source without the blanks and comments at its start, if these do not count. -/
def skip (s : Source) : Source :=
  if s.flags.verbose then { s with rest := skipComments false s.rest } else s

end Source

namespace Reader

/-- The next character. -/
def peek : Reader (Option Char) := do
  return (← get).rest.head?

/-- Skip what does not count. -/
def skip : Reader Unit :=
  modify Source.skip

/-- Take one character. -/
def bump : Reader Unit :=
  modify fun s => { s with rest := s.rest.drop 1 }

/-- Take one character and skip what does not count after it. -/
def advance : Reader Unit := do
  bump
  skip

/-- The next character; the text must not end here. -/
def need : Reader Char := do
  match ← peek with
  | some c => return c
  | none => failure

/-- Take a given character, and skip what does not count. -/
def expect (c : Char) : Reader Unit := do
  if (← need) == c then advance else failure

/-- Take a given text if it is next. -/
def take? (lead : String) : Reader Bool := do
  let s ← get
  match after? lead.toList s.rest with
  | some rest =>
    set { s with rest }
    return true
  | none => return false

end Reader

open Reader

/-! ### Flags -/

/-- Switch one flag on or off. -/
def Flags.switch? (f : Flags) (flag : Char) (on : Bool) : Option Flags :=
  match flag with
  | 'i' => some { f with anyCase := on }
  | 'm' => some { f with multiLine := on }
  | 's' => some { f with dotAll := on }
  | 'R' => some { f with returns := on }
  | 'x' => some { f with verbose := on }
  | 'u' => some { f with unicode := on }
  | 'U' => some { f with lazyFirst := on }
  | _ => none

/-- Read flags up to a colon or a closing parenthesis: the flags, which of the two it is, the text
after it, and the letters seen. No letter may come twice, and a hyphen needs a letter after it. -/
def readFlags? (f : Flags) (seen : List Char) (dangling : Bool) :
    List Char → Option (Flags × Char × List Char × List Char)
  | [] => none
  | c :: rest =>
    if c == ':' || c == ')' then if dangling then none else some (f, c, rest, seen)
    else if seen.contains c then none
    else if c == '-' then readFlags? f (c :: seen) true rest
    else
      match f.switch? c (!seen.contains '-') with
      | some f => readFlags? f (c :: seen) false rest
      | none => none

/-! ### Escapes -/

/-- What a backslash and the text after it stand for. -/
inductive Escape where
  /-- A character; `byte` when it was written as two hexadecimal digits. -/
  | literal (c : Char) (byte : Bool)
  | set (s : CharSet)
  | boundary (b : Boundary)

/-- The character with a code, unless it is half of a surrogate pair or beyond the last. -/
def scalar? (n : Nat) : Option Char :=
  if n < 0xD800 || (0xDFFF < n && n < 0x110000) then some (Char.ofNat n) else none

/-- Read a number of hexadecimal digits. -/
def hexDigits : Nat → Nat → Reader Nat
  | 0, value => return value
  | k + 1, value => do
    let d ← (Json.hexValue? (← need) : Option Nat)
    advance
    hexDigits k (16 * value + d)

/-- Read hexadecimal digits up to a closing brace, given how much text is left. -/
def bracedHex : Nat → Bool → Nat → Reader Nat
  | 0, _, _ => failure
  | k + 1, found, value => do
    let c ← need
    if c == '\x7d' then
      advance
      if found then return value else failure
    else
      let d ← (Json.hexValue? c : Option Nat)
      advance
      bracedHex k true (16 * value + d)

/-- Read a character written by its code, after the letter that says how many digits it has. -/
def hexEscape (digits : Nat) : Reader Escape := do
  advance
  if (← need) == '\x7b' then
    advance
    let n ← bracedHex ((← get).rest.length + 1) false 0
    return .literal (← (scalar? n : Option Char)) false
  else
    let n ← hexDigits digits 0
    return .literal (← (scalar? n : Option Char)) (digits == 2)

/-- Characters up to a closing brace, which is taken, given how much text is left. -/
def braced : Nat → List Char → Reader (List Char)
  | 0, _ => failure
  | k + 1, found => do
    let c ← need
    if c == '\x7d' then
      bump
      return found.reverse
    else
      advance
      braced k (c :: found)

/-- The set that the text between braces stands for: a name, or a property and its value. The
second part tells whether the set is the one of all other characters. -/
def propertyOf? (text : List Char) : Option (CharSet × Bool) :=
  match cut? ['!', '='] text with
  | some (name, value) => (CharSet.ofValue? name value).map fun s => (s, true)
  | none =>
    match (cut? [':'] text).or (cut? ['='] text) with
    | some (name, value) => (CharSet.ofValue? name value).map fun s => (s, false)
    | none => (CharSet.ofName? text).map fun s => (s, false)

/-- The set closed under case, where case does not count. -/
def Flags.fold (f : Flags) (s : CharSet) : CharSet :=
  if f.anyCase then if f.unicode then s.anyCase else s.anyAsciiCase else s

/-- A set of characters, or of all others. The latter needs characters beyond ASCII. -/
def Flags.close? (f : Flags) (negated : Bool) (s : CharSet) : Option CharSet :=
  if negated then if f.unicode then some (f.fold s).compl else none else some (f.fold s)

/-- Read a property, after the letter that says whether it is negated. -/
def propertyEscape (negated : Bool) : Reader Escape := do
  advance
  let c ← need
  let (set, other) ←
    if c == '\x7b' then do
      advance
      let text ← braced ((← get).rest.length + 1) []
      (propertyOf? text : Option (CharSet × Bool))
    else if c == '\\' then failure
    else do
      advance
      ((CharSet.ofName? [c]).map fun s => (s, false) : Option (CharSet × Bool))
  let flags := (← get).flags
  if flags.unicode then return .set (← (flags.close? (negated != other) set : Option CharSet))
  else failure

/-- Read one of the sets with a letter of their own. -/
def letterEscape (c : Char) : Reader Escape := do
  bump
  let flags := (← get).flags
  let base : CharSet :=
    match c.toLower, flags.unicode with
    | 'd', true => digits
    | 'd', false => asciiDigits
    | 's', true => blanks
    | 's', false => asciiBlanks
    | _, true => wordChars
    | _, false => asciiWordChars
  if c.toLower == c then return .set base
  else if flags.unicode then return .set base.compl
  else failure

/-- The letters and hyphens at the start of a text, without what does not count between them. -/
def wordBoundaryName (flags : Flags) : Nat → List Char → List Char → List Char × List Char
  | 0, found, rest => (found.reverse, rest)
  | k + 1, found, rest =>
    match rest with
    | c :: tail =>
      if c.isAlpha || c == '-' then
        wordBoundaryName flags k (c :: found)
          (Source.skip { rest := tail, flags := flags }).rest
      else (found.reverse, rest)
    | [] => (found.reverse, [])

/-- Read what may follow `\b` between braces: the name of a special boundary. Braces with anything
else in them are left alone. -/
def wordBoundary (ascii : Bool) : Reader Escape := do
  let s ← get
  match s.rest with
  | '\x7b' :: tail =>
    let inside := (Source.skip { s with rest := tail }).rest
    match inside with
    | [] => failure
    | c :: _ =>
      if c.isAlpha || c == '-' then
        match wordBoundaryName s.flags inside.length [] inside with
        | (name, '\x7d' :: rest) =>
          set { s with rest }
          match String.ofList name with
          | "start" => return .boundary (.wordStart ascii)
          | "end" => return .boundary (.wordEnd ascii)
          | "start-half" => return .boundary (.wordStartHalf ascii)
          | "end-half" => return .boundary (.wordEndHalf ascii)
          | _ => failure
        | _ => failure
      else return .boundary (.word ascii)
  | _ => return .boundary (.word ascii)

/-- Whether a backslash before the character makes it stand for itself. -/
def isEscapable (c : Char) : Bool :=
  c.toNat < 128 && !c.isAlphanum && c != '<' && c != '>'

/-- Read what follows a backslash. -/
def escape : Reader Escape := do
  bump
  let c ← need
  let ascii := !(← get).flags.unicode
  match c with
  | 'x' => hexEscape 2
  | 'u' => hexEscape 4
  | 'U' => hexEscape 8
  | 'p' => propertyEscape false
  | 'P' => propertyEscape true
  | 'd' | 's' | 'w' | 'D' | 'S' | 'W' => letterEscape c
  | _ =>
    bump
    if isEscapable c then return .literal c false
    match c with
    | 'a' => return .literal '\x07' false
    | 'f' => return .literal '\x0c' false
    | 't' => return .literal '\t' false
    | 'n' => return .literal '\n' false
    | 'r' => return .literal '\r' false
    | 'v' => return .literal '\x0b' false
    | 'A' => return .boundary .textStart
    | 'z' => return .boundary .textEnd
    | 'b' => wordBoundary ascii
    | 'B' => return .boundary (.notWord ascii)
    | '<' => return .boundary (.wordStart ascii)
    | '>' => return .boundary (.wordEnd ascii)
    | _ => failure

/-! ### Sets between brackets -/

/-- A set with the depth of the expression that it was written as. -/
structure SetPart where
  set : CharSet
  height : Nat := 0

/-- The union of the parts between two operators, last first. -/
def unionOf : List SetPart → SetPart
  | [] => ⟨.empty, 0⟩
  | [p] => p
  | p :: rest =>
    ⟨.unions ((p :: rest).map SetPart.set),
      rest.foldl (fun height p => max height (p.height + 1)) (p.height + 1)⟩

/-- An operator between sets. -/
inductive SetOp where
  | inter
  | diff
  | symmDiff

/-- Apply the operator that waits for its right side, if there is one. -/
def applyOp (flags : Flags) : Option (SetOp × SetPart) → SetPart → SetPart
  | none, right => right
  | some (op, left), right =>
    let a := flags.fold left.set
    let b := flags.fold right.set
    let set : CharSet :=
      match op with
      | .inter => a.inter b
      | .diff => a.diff b
      | .symmDiff => a.symmDiff b
    ⟨set, max left.height right.height + 1⟩

/-- A named set such as `[:alpha:]`, and the text after it; `none` if the text is something else. -/
def namedSet? (flags : Flags) : List Char → Option (Option CharSet × List Char)
  | '[' :: ':' :: tail =>
    let (negated, tail) : Bool × List Char :=
      match tail with
      | '^' :: more => (true, more)
      | more => (false, more)
    let name := tail.takeWhile (· != ':')
    match tail.dropWhile (· != ':') with
    | ':' :: ']' :: rest =>
      (asciiSet? (String.ofList name)).map fun s => (flags.close? negated s, rest)
    | _ => none
  | _ => none

/-- One end of a range, or a single part of a set. -/
def setItem : Reader Escape := do
  if (← need) == '\\' then escape
  else
    let c ← need
    bump
    return .literal c false

/-- A character where only characters are allowed. With ASCII classes it must be one of ASCII. -/
def literalOf (flags : Flags) : Escape → Option Char
  | .literal c _ => if flags.unicode || c.toNat < 128 then some c else none
  | _ => none

/-- The character that shows what a hyphen stands for, given the text after it. Where blanks do not
count, it is the first that is neither a blank nor the mark of a comment, be it part of the
comment, or the next one if there is none. -/
def afterHyphen? (flags : Flags) (rest : List Char) : Option Char :=
  if flags.verbose then
    let next :=
      match trimStart rest with
      | '#' :: comment => trimStart comment
      | next => next
    next.head?.or rest.head?
  else rest.head?

/-- Whether a hyphen here joins the ends of a range. -/
def joinsRange (s : Source) : Bool :=
  match afterHyphen? s.flags (s.rest.drop 1) with
  | some c => c != ']' && c != '-'
  | none => true

/-- Read a part of a set: a character, a class, or a range. -/
def setRange : Reader SetPart := do
  let first ← setItem
  skip
  let s ← get
  if (← need) != '-' || !joinsRange s then
    match first with
    | .set set => return ⟨set, 0⟩
    | .boundary _ => failure
    | .literal .. => return ⟨.one (← (literalOf s.flags first : Option Char)), 0⟩
  else
    advance
    discard need
    let last ← setItem
    let a ← (literalOf s.flags first : Option Char)
    let b ← (literalOf s.flags last : Option Char)
    if a ≤ b then return ⟨.range a b, 0⟩ else failure

/-- Read hyphens that stand for themselves at the start of a set. -/
def leadingHyphens : Nat → List SetPart → Reader (List SetPart)
  | 0, _ => failure
  | k + 1, found => do
    if (← need) == '-' then
      advance
      leadingHyphens k (⟨.one '-', 0⟩ :: found)
    else return found

/-- Read the start of a set after its bracket: whether it is negated, and the hyphens, or the
closing bracket, that stand for themselves there. -/
def setStart : Reader (Bool × List SetPart) := do
  let negated := (← need) == '^'
  if negated then advance
  let hyphens ← leadingHyphens ((← get).rest.length + 1) []
  if hyphens.isEmpty && (← need) == ']' then
    advance
    discard need
    return (negated, [⟨.one ']', 0⟩])
  else return (negated, hyphens)

/-- Read a set after its start, up to its closing bracket. `fuel` bounds the number of parts. -/
def setBody : Nat → Bool → Option (SetOp × SetPart) → List SetPart → Reader SetPart
  | 0, _, _, _ => failure
  | fuel + 1, negated, op, parts => do
    skip
    let s ← get
    match ← need with
    | '[' =>
      match namedSet? s.flags s.rest with
      | some (set?, rest) =>
        set { s with rest }
        setBody fuel negated op (⟨← (set? : Option CharSet), 0⟩ :: parts)
      | none =>
        advance
        let (inner, start) ← setStart
        let nested ← setBody fuel inner none start
        setBody fuel negated op (nested :: parts)
    | ']' =>
      bump
      let whole := applyOp s.flags op (unionOf parts)
      return ⟨← (s.flags.close? negated whole.set : Option CharSet), whole.height + 1⟩
    | _ =>
      let left := applyOp s.flags op (unionOf parts)
      if ← take? "&&" then setBody fuel negated (some (.inter, left)) []
      else if ← take? "--" then setBody fuel negated (some (.diff, left)) []
      else if ← take? "~~" then setBody fuel negated (some (.symmDiff, left)) []
      else
        let part ← setRange
        setBody fuel negated op (part :: parts)

/-! ### Pieces -/

/-- A part of a pattern, with the depth of the expression that it was written as. -/
structure Piece where
  pattern : Pattern
  height : Nat := 0
  /-- Whether it only sets flags, so that it cannot be repeated. -/
  isFlags : Bool := false

/-- Pieces one after the other, last first. -/
def sequenceOf : List Piece → Piece
  | [] => ⟨.empty, 0, false⟩
  | [p] => p
  | pieces =>
    ⟨sequence (pieces.reverse.map Piece.pattern),
      pieces.foldl (fun h p => max h p.height) 0 + 1, false⟩

/-- One of several branches, last first. -/
def choiceOf : List Piece → Piece
  | [p] => p
  | branches =>
    ⟨choice (branches.reverse.map Piece.pattern),
      branches.foldl (fun h p => max h p.height) 0 + 1, false⟩

/-- Whether there is a last piece that can be repeated. -/
def canRepeat : List Piece → Bool
  | p :: _ => !p.isFlags
  | [] => false

/-- Repeat the last piece. -/
def repeatLast (least : Nat) (most : Option Nat) (greedy : Bool) :
    List Piece → Option (List Piece)
  | p :: rest =>
    if p.isFlags then none
    else some (⟨p.pattern.times least most greedy, p.height + 1, false⟩ :: rest)
  | [] => none

/-- Read the question mark that a repetition may have: whether more matches are preferred. -/
def preferMore : Reader Bool := do
  let usual := !(← get).flags.lazyFirst
  if (← peek) == some '?' then
    bump
    return !usual
  else return usual

/-- Read decimal digits with blanks around them, not above the greatest number of 32 bits. -/
def count : Nat → List Char → Reader Nat
  | 0, _ => failure
  | k + 1, found => do
    match ← peek with
    | some c =>
      if isDigit c then
        advance
        count k (c :: found)
      else if isBlank c then
        if found.isEmpty then bump
        else
          modify fun s => { s with rest := trimStart s.rest }
          skip
        if found.isEmpty then count k found else finish found
      else finish found
    | none => finish found
where
  /-- The number that was read. -/
  finish (found : List Char) : Reader Nat := do
    let n := natOfDigits found.reverse
    if found.isEmpty || UInt32.size ≤ n then failure else return n

/-- Read the bounds of a repetition, from its opening brace on. -/
def bounds : Reader (Nat × Option Nat × Bool) := do
  advance
  let size := (← get).rest.length + 1
  let least ← count size []
  let most ←
    if (← need) == ',' then do
      advance
      if (← need) == '\x7d' then pure none
      else do pure (some (← count size []))
    else pure (some least)
  if (← need) == '\x7d' then
    advance
    let greedy ← preferMore
    if most.any fun m => m < least then failure else return (least, most, greedy)
  else failure

/-- The piece for a character. -/
def literalPiece (flags : Flags) (c : Char) (byte : Bool) : Option Piece :=
  if !flags.unicode && byte && 128 ≤ c.toNat then none
  else if flags.unicode || c.toNat < 128 then some { pattern := ofSet (flags.fold (.one c)) }
  else some { pattern := .text [c] }

/-- The piece for a dot. -/
def dotPiece (flags : Flags) : Option Piece :=
  if !flags.unicode then none
  else
    let ends : CharSet :=
      if flags.dotAll then .empty
      else if flags.returns then .union (.one '\r') (.one '\n')
      else .one '\n'
    some { pattern := ofSet ends.compl }

/-- Read a character, a class or a boundary. -/
def primitive : Reader Piece := do
  let flags := (← get).flags
  match ← need with
  | '\\' =>
    match ← escape with
    | .literal c byte => (literalPiece flags c byte : Option Piece)
    | .set s => return { pattern := ofSet s }
    | .boundary b => return { pattern := .boundary b }
  | '.' =>
    bump
    (dotPiece flags : Option Piece)
  | '^' =>
    bump
    let b : Boundary := if flags.multiLine then .lineStart flags.returns else .textStart
    return { pattern := .boundary b }
  | '$' =>
    bump
    let b : Boundary := if flags.multiLine then .lineEnd flags.returns else .textEnd
    return { pattern := .boundary b }
  | c =>
    bump
    (literalPiece flags c false : Option Piece)

/-! ### Groups -/

/-- Read the name of a group up to the closing angle. It starts with a letter or an underscore, and
no other group has it. -/
def groupName : Reader Unit := do
  let s ← get
  let name := s.rest.takeWhile (· != '>')
  let isFirst c := c == '_' || isAlphabetic c
  let isLater c := c == '_' || c == '.' || c == '[' || c == ']' || isAlphanumeric c
  match name, s.rest.drop name.length with
  | c :: later, _ :: rest =>
    if isFirst c && later.all isLater && !s.names.contains name then
      set { s with rest, names := name :: s.names }
    else failure
  | _, _ => failure

/-- What stands after an opening parenthesis. -/
inductive Opening where
  /-- Flags alone, which act on what follows. -/
  | flags
  /-- A group whose match is remembered under a number, or is not. -/
  | group (number : Option Nat)

/-- Number one more group. -/
def nextGroup : Reader Opening := do
  modify fun s => { s with groups := s.groups + 1 }
  return .group (some (← get).groups)

/-- The pattern of a group. -/
def groupOf (number : Option Nat) (p : Pattern) : Pattern :=
  match number with
  | some n => .group n p
  | none => p

/-- Read what stands after an opening parenthesis. Flags are in force from then on. -/
def opening : Reader Opening := do
  bump
  skip
  if ← ["?=", "?!", "?<=", "?<!"].anyM take? then failure
  else if ← ["?P<", "?<"].anyM take? then
    groupName
    nextGroup
  else if ← take? "?" then
    let s ← get
    let (flags, close, rest, seen) ←
      (readFlags? s.flags [] false s.rest : Option (Flags × Char × List Char × List Char))
    set { s with rest, flags }
    if close == ':' then return .group none
    else if seen.isEmpty then failure
    else return .flags
  else nextGroup

/-- Read branches up to a closing parenthesis or the end of the text, which are left alone. `fuel`
bounds the number of pieces. -/
def branchesOf : Nat → List Piece → List Piece → Reader Piece
  | 0, _, _ => failure
  | fuel + 1, pieces, done => do
    skip
    let whole := choiceOf (sequenceOf pieces :: done)
    match ← peek with
    | none | some ')' => return whole
    | some '|' =>
      bump
      branchesOf fuel [] (sequenceOf pieces :: done)
    | some '(' =>
      let before := (← get).flags
      match ← opening with
      | .flags => branchesOf fuel ({ pattern := .empty, isFlags := true } :: pieces) done
      | .group number =>
        let inner ← branchesOf fuel [] []
        if (← peek) == some ')' then
          bump
          modify fun s => { s with flags := before }
          let piece := { pattern := groupOf number inner.pattern, height := inner.height + 1 }
          branchesOf fuel (piece :: pieces) done
        else failure
    | some '[' =>
      advance
      let (negated, start) ← setStart
      let part ← setBody fuel negated none start
      branchesOf fuel ({ pattern := ofSet part.set, height := part.height } :: pieces) done
    | some '?' =>
      bump
      let greedy ← preferMore
      branchesOf fuel (← (repeatLast 0 (some 1) greedy pieces : Option (List Piece))) done
    | some '*' =>
      bump
      let greedy ← preferMore
      branchesOf fuel (← (repeatLast 0 none greedy pieces : Option (List Piece))) done
    | some '+' =>
      bump
      let greedy ← preferMore
      branchesOf fuel (← (repeatLast 1 none greedy pieces : Option (List Piece))) done
    | some '\x7b' =>
      if !canRepeat pieces then failure
      let (least, most, greedy) ← bounds
      branchesOf fuel (← (repeatLast least most greedy pieces : Option (List Piece))) done
    | some _ =>
      let piece ← primitive
      branchesOf fuel (piece :: pieces) done

/-- The deepest expression that is accepted. -/
def greatestHeight : Nat :=
  250

/-- The pattern that a text denotes. -/
def ofText? (text : String) : Option Pattern := do
  let chars := text.toList
  let (piece, left) ← (branchesOf (2 * chars.length + 4) [] []).run { rest := chars }
  if left.rest.isEmpty && piece.height ≤ greatestHeight && piece.pattern.fits then
    return piece.pattern
  else failure

end MergeTrain.Pattern
