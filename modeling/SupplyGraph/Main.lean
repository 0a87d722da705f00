import SupplyGraph.CommandLine.Report

/-!
The command line: reads the file that the arguments name and prints the answer.
-/

open SupplyGraph
open SupplyGraph.CommandLine

/-- How the command is called. -/
def usage : String :=
  "Usage: supply-graph [-v] <nodes|validate|compile> --file <FILE>\n\n"
    ++ "  nodes     Print the compiled node map\n"
    ++ "  validate  Validate a template document\n"
    ++ "  compile   Compile a template document into a manifest\n"

/-- The content of a file. -/
def readContent (path : String) : IO (Except ReadFailure String) := do
  try
    return .ok (← IO.FS.readFile path)
  catch failure =>
    match failure with
    | .noFileOrDirectory _ code _ => return .error ⟨"No such file or directory", code.toNat⟩
    | .permissionDenied _ code _ => return .error ⟨"Permission denied", code.toNat⟩
    | .inappropriateType _ code _ => return .error ⟨"Is a directory", code.toNat⟩
    | other => return .error ⟨toString other, 5⟩

def main (arguments : List String) : IO UInt32 := do
  match Request.ofArguments arguments with
  | .error .help =>
      IO.print usage
      return 0
  | .error .mistake =>
      IO.eprint usage
      return 2
  | .ok request =>
      let outcome := request.answer (← readContent request.file)
      IO.println outcome.text
      return outcome.exitCode.toUInt32
