import SupplyGraph.CommandLine.Arguments
import SupplyGraph.Manifest
import SupplyGraph.Template.Text

/-!
What the command line answers. A file that cannot be read or decoded ends with exit code 1, a
rejected document and wrong arguments with exit code 2.
-/

namespace SupplyGraph.CommandLine

/-- The exit code and the value that is printed. -/
structure Outcome where
  exitCode : Nat
  output : Json

/-- The text that is printed, the members of objects in ascending order of their keys. -/
def Outcome.text (outcome : Outcome) : String := outcome.output.canonical.renderIndented

/-- Why the operating system could not read a file. -/
structure ReadFailure where
  description : String
  code : Nat
deriving DecidableEq, Repr

def ReadFailure.message (failure : ReadFailure) : String :=
  failure.description ++ " (os error " ++ toString failure.code ++ ")"

/-- The last part of a path, unless it leads to the parent directory. -/
def fileName? (path : String) : Option String :=
  let parts := (path.splitOn "/").filter (fun part => part ≠ "" && part ≠ ".")
  parts.getLast?.filter (· ≠ "..")

/-- A file whose name has the extension `json` holds JSON, every other one YAML. -/
def formatOf (path : String) : Template.TextFormat :=
  match fileName? path with
  | none => .yaml
  | some name => if name.endsWith ".json" && name ≠ ".json" then .json else .yaml

/-- The document in a file, or why there is none. -/
def loadDocument (path : String) (content : Except ReadFailure String)
    : Except String Template.Document :=
  match content with
  | .error failure => .error ("Failed to read " ++ path ++ ": " ++ failure.message)
  | .ok text =>
      match (formatOf path).read? text with
      | none => .error ("Failed to decode " ++ path ++ ": " ++ (formatOf path).failureMessage)
      | some document => .ok document

/-- The nodes of a document. -/
def reportNodes (document : Template.Document) : Outcome :=
  match compile .standard document with
  | .ok chain => ⟨0, chain.toJson⟩
  | .error rejection =>
      ⟨2, .object
        [("error", .string rejection.message),
          ("kind", .string rejection.fault.cause.name)]⟩

/-- Whether a document is valid. -/
def reportValidity (document : Template.Document) : Outcome :=
  match compile .standard document with
  | .ok chain =>
      ⟨0, .object
        [("valid", .bool true),
          ("entityTypes", .array (chain.entityTypes.map Json.ofLabelled))]⟩
  | .error rejection =>
      ⟨2, .object
        [("valid", .bool false),
          ("error", .string rejection.message),
          ("kind", .string rejection.fault.cause.name),
          ("entry", Json.integer rejection.entry),
          ("field", .string rejection.fault.field.render)]⟩

/-- The manifest of a document. -/
def reportManifest (document : Template.Document) : Outcome :=
  match Manifest.ofDocument .standard document with
  | .ok manifest =>
      ⟨0, .object [("success", .bool true), ("manifest", manifest.toJson)]⟩
  | .error rejection =>
      ⟨2, .object
        [("success", .bool false),
          ("error", .string (Manifest.rejectionMessage rejection))]⟩

/-- What a command answers about a document. -/
def Command.report : Command → Template.Document → Outcome
  | .nodes => reportNodes
  | .validate => reportValidity
  | .compile => reportManifest

/-- The answer to a request, given what reading its file came to. -/
def Request.answer (request : Request) (content : Except ReadFailure String) : Outcome :=
  match loadDocument request.file content with
  | .error message => ⟨1, .object [("error", .string message)]⟩
  | .ok document => request.command.report document

/-- The exit code for arguments that make no request. -/
def Stop.exitCode : Stop → Nat
  | help => 0
  | mistake => 2

end SupplyGraph.CommandLine
