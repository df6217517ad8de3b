/-!
# The octets of a character

A character is written as one octet if it is of ASCII, else as two to four that are above 127.

## Main definitions

* `octetCount`, `octetsOf` — the octets of the character with a code, and how many there are.
-/

namespace MergeTrain.Text

/-- The number of octets of the character with a code. -/
def octetCount (n : Nat) : Nat :=
  if n < 0x80 then 1 else if n < 0x800 then 2 else if n < 0x10000 then 3 else 4

/-- The octets of the character with a code. -/
def octetsOf (n : Nat) : List Nat :=
  if n < 0x80 then [n]
  else if n < 0x800 then [0xC0 + n / 64, 0x80 + n % 64]
  else if n < 0x10000 then [0xE0 + n / 4096, 0x80 + n / 64 % 64, 0x80 + n % 64]
  else [0xF0 + n / 262144, 0x80 + n / 4096 % 64, 0x80 + n / 64 % 64, 0x80 + n % 64]

theorem length_octetsOf (n : Nat) : (octetsOf n).length = octetCount n := by
  unfold octetsOf octetCount
  repeat' split
  all_goals rfl

end MergeTrain.Text
