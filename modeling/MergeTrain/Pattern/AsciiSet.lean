import MergeTrain.Unicode.CharSet

/-!
# Sets of ASCII

The sets that patterns know by name and that have characters of ASCII alone.

## Main definitions

* `asciiDigits`, `asciiBlanks`, `asciiWordChars` — the sets with letters of their own.
* `asciiSet?` — the set that stands between brackets and colons.
-/

namespace MergeTrain.Pattern

open Unicode

/-- The characters from the first to the last of each pair. -/
def setOfPairs (pairs : List (Char × Char)) : CharSet :=
  .ofRanges (pairs.map fun p => ⟨p.1.toNat, p.2.toNat⟩)

/-- The digits of ASCII. -/
def asciiDigits : CharSet :=
  .range '0' '9'

/-- The blanks of ASCII. -/
def asciiBlanks : CharSet :=
  setOfPairs [('\t', '\r'), (' ', ' ')]

/-- The characters of words in ASCII. -/
def asciiWordChars : CharSet :=
  setOfPairs [('0', '9'), ('A', 'Z'), ('_', '_'), ('a', 'z')]

/-- The set between brackets and colons that has a given name. -/
def asciiSet? (name : String) : Option CharSet :=
  match name with
  | "alnum" => some (setOfPairs [('0', '9'), ('A', 'Z'), ('a', 'z')])
  | "alpha" => some (setOfPairs [('A', 'Z'), ('a', 'z')])
  | "ascii" => some (.range '\x00' '\x7f')
  | "blank" => some (setOfPairs [('\t', '\t'), (' ', ' ')])
  | "cntrl" => some (setOfPairs [('\x00', '\x1f'), ('\x7f', '\x7f')])
  | "digit" => some asciiDigits
  | "graph" => some (.range '!' '~')
  | "lower" => some (.range 'a' 'z')
  | "print" => some (.range ' ' '~')
  | "punct" => some (setOfPairs [('!', '/'), (':', '@'), ('[', '\x60'), ('\x7b', '~')])
  | "space" => some asciiBlanks
  | "upper" => some (.range 'A' 'Z')
  | "word" => some asciiWordChars
  | "xdigit" => some (setOfPairs [('0', '9'), ('A', 'F'), ('a', 'f')])
  | _ => none

end MergeTrain.Pattern
