/-!
# Searching a text

The first place where one text occurs in another, and what stands on both sides of it.
-/

namespace MergeTrain.Text

/-- What follows `lead` in a text that starts with it. -/
def after? (lead : List Char) (s : List Char) : Option (List Char) :=
  if lead.isPrefixOf s then some (s.drop lead.length) else none

/-- The parts before and after the first occurrence of `mark`. -/
def cut? (mark : List Char) : List Char → Option (List Char × List Char)
  | [] => if mark.isEmpty then some ([], []) else none
  | c :: rest =>
    match after? mark (c :: rest) with
    | some tail => some ([], tail)
    | none => (cut? mark rest).map fun parts => (c :: parts.1, parts.2)

/-- Whether `mark` occurs in the text. -/
def occursIn (mark : String) (s : String) : Bool :=
  (cut? mark.toList s.toList).isSome

end MergeTrain.Text
