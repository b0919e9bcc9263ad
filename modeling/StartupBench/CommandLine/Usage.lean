import StartupBench.CommandLine.Argument

/-!
# What the program says about its arguments
-/

namespace StartupBench.CommandLine

/-- What is wrong with a command line, in words. -/
def UsageError.message : UsageError → String
  | .missingArgument => "a required argument is missing"
  | .unknownArgument => "an argument is not known"
  | .invalidValue => "a value is missing or not possible"
  | .unreadableValue => "a value cannot be read"
  | .conflict => "arguments exclude each other"
  | .surplusValue => "a value is given to an argument that takes none"
  | .notText => "a value is not text"
  | .helpWanted => "help is wanted"
  | .versionWanted => "the version is wanted"

/-- An argument as it stands in the overview. -/
def Argument.usage (a : Argument) : String :=
  let name := match a.name? with
    | some name => "--" ++ name
    | none => if a = .exe then "EXE" else "PROFILE_DIR"
  let letter := match a.letter? with
    | some letter => String.ofList ['-', letter, ',', ' ']
    | none => ""
  let value := if a.name?.isSome && a.takesValue then " VALUE" else ""
  let fromVariable := match a.fromEnvironment? with
    | some name => " [env: " ++ name ++ "]"
    | none => ""
  "  " ++ letter ++ name ++ value ++ fromVariable ++ "\n"

/-- The overview of all arguments. -/
def overview : String :=
  "Usage: launchbench [OPTIONS] EXE PROFILE_DIR\n\n" ++
    String.join (Argument.all.map Argument.usage)

end StartupBench.CommandLine
