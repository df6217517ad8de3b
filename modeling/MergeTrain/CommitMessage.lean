import MergeTrain.MergeConfig
import MergeTrain.Pull.Basic
import MergeTrain.Text.Blank
import MergeTrain.Text.Letter
import MergeTrain.Text.Lines

/-!
# Commit messages

The title and the message of a merge commit. They come from the title and the body of the pull
request, or from the section of the body under a heading `# Commit Message`: its first line that is
not blank is the title, the lines after it are the message.

## Main definitions

* `isHeading`, `isMessageHeading` — the lines that begin sections.
* `messageSection` — the lines under the heading.
* `PullSnapshot.commitMessage` — title and message, if anything overrides the platform's own.
-/

namespace MergeTrain

open Text

/-- What follows one or more number signs and a space. -/
def afterHeadingMark? (line : List Char) : Option (List Char) :=
  match line, line.dropWhile (· == '#') with
  | '#' :: _, ' ' :: rest => some rest
  | _, _ => none

/-- Whether a line begins a section. -/
def isHeading (line : List Char) : Bool :=
  (afterHeadingMark? line).isSome

/-- A text without `c` at its start, if it has one there. -/
def dropOptional (c : Char) (s : List Char) : List Char :=
  if s.head? = some c then s.tail else s

/-- Whether a line begins the section of the commit message, in any case, with or without a
colon. -/
def isMessageHeading (line : List Char) : Bool :=
  match (afterHeadingMark? line).bind (afterAnyCase? "commit message".toList) with
  | none => false
  | some rest => isBlankText (dropOptional ':' (dropOptional ' ' rest))

/-- The lines between the first heading of a commit message and the next heading that is none. -/
def messageSection (lines : List (List Char)) : List (List Char) :=
  ((lines.dropWhile fun l => !isMessageHeading l).takeWhile
    fun l => isMessageHeading l || !isHeading l).filter fun l => !isMessageHeading l

/-- The title and the message in the body of a pull request. -/
def sectionMessage? (body : String) : Option (String × String) :=
  match (messageSection (lines body.toList)).dropWhile isBlankText with
  | [] => none
  | title :: rest =>
    let message := (rest.dropWhile isBlankText).map fun l => String.ofList (trim l)
    some (String.ofList (trim title), "\n".intercalate message)

/-- The title and the message of the merge commit. Without them the platform chooses. -/
def PullSnapshot.commitMessage (s : PullSnapshot) (mode : CommitMessageMode) :
    Option (String × String) :=
  match mode with
  | .titleAndBody => some (s.title ++ " (" ++ numberText s.number ++ ")", s.body.getD "")
  | .default => sectionMessage? (s.body.getD "")

end MergeTrain
