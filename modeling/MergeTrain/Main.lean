import MergeTrain.CommandLine.Commands
import Std.Time.DateTime.Timestamp

/-!
# The program

Reading files and the clock, and printing. What is printed is worked out elsewhere, from the
contents of the files that a request may read.
-/

namespace MergeTrain.CommandLine

/-- What is found under a name. -/
def readContent (name : String) : IO FileContent := do
  try
    return .text (← IO.FS.readFile name)
  catch
    | .noFileOrDirectory .. => return .absent
    | _ => return .unreadable

/-- The present time. -/
def presentTime : IO Instant := do
  let time := (← Std.Time.Timestamp.now).val
  return (Instant.ofParts? time.second.val time.nano.val.toNat).getD .epoch

/-- Answer a request and give the exit code. -/
def answer (request : Request) : IO UInt32 := do
  let found ← request.paths.mapM fun name => return (name, ← readContent name)
  let result := execute (fun name => (found.lookup name).getD .absent) (← presentTime) request
  IO.print result.printed.output
  match result.printed.failure with
  | some error => IO.eprintln ("Error: " ++ error.message)
  | none => if result.code == 2 then IO.eprintln helpText
  return result.code

end MergeTrain.CommandLine

/-- Run the program. -/
def main (arguments : List String) : IO UInt32 :=
  MergeTrain.CommandLine.answer (MergeTrain.CommandLine.Request.ofArguments arguments)
