/-!
The arguments of the command line: a command and the file that it reads. Flags may be written one
by one or several letters behind one hyphen, and the file in the argument of its flag or in the
next one. Arguments are read from left to right; the first request for help, or else the first
mistake, ends the reading.
-/

namespace SupplyGraph.CommandLine

inductive Command where
  | nodes
  | validate
  | compile
deriving DecidableEq, Repr

def Command.ofName? : String → Option Command
  | "nodes" => some .nodes
  | "validate" => some .validate
  | "compile" => some .compile
  | _ => none

/-- A command with the file that it is to read. -/
structure Request where
  command : Command
  file : String
deriving DecidableEq, Repr

/-- Why arguments make up no request. -/
inductive Stop where
  | help
  | mistake
deriving DecidableEq, Repr

/-- A flag as it is written. The value of a file flag may be left to the next argument. -/
inductive Flag where
  | help
  | verbose
  | file (value : Option String)
  | unknown
deriving DecidableEq, Repr

/-- The flags that letters behind a hyphen stand for. Whatever follows the letter of the file flag
is its value, up to an equals sign in front. -/
def letterFlags : List Char → List Flag
  | [] => []
  | 'h' :: rest => .help :: letterFlags rest
  | 'v' :: rest => .verbose :: letterFlags rest
  | 'f' :: [] => [.file none]
  | 'f' :: '=' :: value => [.file (some (String.ofList value))]
  | 'f' :: value => [.file (some (String.ofList value))]
  | _ => [.unknown]

/-- The flag with a name behind two hyphens. -/
def wordFlag (word : List Char) : Flag :=
  if word = "help".toList then .help
  else if word = "verbose".toList then .verbose
  else if word = "file".toList then .file none
  else if "file=".toList.isPrefixOf word then .file (some (String.ofList (word.drop 5)))
  else .unknown

/-- The flags that an argument stands for. -/
def flags (argument : String) : List Flag :=
  match argument.toList with
  | '-' :: '-' :: word => [wordFlag word]
  | '-' :: letter :: letters => letterFlags (letter :: letters)
  | _ => [.unknown]

/-- An argument is a value unless it starts with a hyphen and goes on behind it. -/
def isValue (argument : String) : Bool := argument = "-" || argument.front != '-'

/-- The flags that arguments stand for, in order. Two hyphens may end them. -/
def allFlags : List String → List Flag
  | [] => []
  | ["--"] => []
  | argument :: value :: rest =>
      let written := flags argument
      if !isValue argument && written.getLast? = some (.file none) then
        if isValue value then written.dropLast ++ .file (some value) :: allFlags rest
        else written.dropLast ++ [.unknown]
      else written ++ allFlags (value :: rest)
  | [argument] => if isValue argument then [.unknown] else flags argument

/-- What flags have set so far. -/
structure Options where
  verbose : Bool := false
  file : Option String := none
deriving DecidableEq, Repr

namespace Options

/-- Takes in a flag. No flag may be repeated, and a file has a name. -/
def take (options : Options) : Flag → Except Stop Options
  | .help => .error .help
  | .verbose =>
      if options.verbose then .error .mistake else .ok { options with verbose := true }
  | .file (some value) =>
      if options.file.isSome || value.isEmpty then .error .mistake
      else .ok { options with file := some value }
  | _ => .error .mistake

end Options

/-- What a flag stands for in front of the command, where there is no file to name. -/
def Flag.inFront : Flag → Flag
  | .file _ => .unknown
  | flag => flag

/-- Help is also a command; it may name the command that it is about. -/
def helpFor : List String → Stop
  | [] => .help
  | [name] => if name = "help" || (Command.ofName? name).isSome then .help else .mistake
  | _ => .mistake

/-- The request that arguments make. -/
def Request.ofArguments (arguments : List String) : Except Stop Request := do
  let before := arguments.takeWhile (fun argument => !isValue argument)
  let _ ← ((before.flatMap flags).map Flag.inFront).foldlM Options.take {}
  match arguments.dropWhile (fun argument => !isValue argument) with
  | [] => .error .mistake
  | name :: rest =>
      if name = "help" then .error (helpFor rest)
      else
        match Command.ofName? name with
        | none => .error .mistake
        | some command => do
            let options ← (allFlags rest).foldlM Options.take {}
            match options.file with
            | none => .error .mistake
            | some file => .ok ⟨command, file⟩

end SupplyGraph.CommandLine
