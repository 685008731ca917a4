import ScanQuery.Output.Format

/-!
What a command line asks for: the version of the program, or one of its commands under settings
that the command line may override.
-/

namespace ScanQuery

/-- How a result is shown: in a built-in format, or by the template in a file. -/
inductive Display where
  | builtin (format : Format)
  | template (path : String)
  deriving DecidableEq, Repr

/-- A command. Inputs, templates and outputs are paths. -/
inductive Command where
  | query (input text : String) (display : Display)
  | portscan (input : String) (display : Display)
  | write (input template output : String)
  | list (input : String)
  | version
  deriving DecidableEq, Repr

/-- A command, the settings file it is run with, and how its log is written. -/
structure Invocation where
  config : Option String
  logLevel : Option String
  jsonLogs : Bool
  command : Command
  deriving DecidableEq, Repr

/-- What is asked for. -/
inductive Request where
  | version
  | run (invocation : Invocation)
  deriving DecidableEq, Repr

/-- Why a command line asks for nothing. -/
inductive UsageError where
  | unknownOption (spelling : String)
  | missingValue (name : String)
  | unneededValue (name : String)
  | invalidValue (name value : String)
  | repeated (name : String)
  | conflict (name other : String)
  | missingOption (name : String)
  | missingCommand
  | unexpected (argument : String)
  deriving DecidableEq, Repr

/-- The error in words. -/
def UsageError.message : UsageError → String
  | unknownOption spelling => "unknown option '" ++ spelling ++ "'"
  | missingValue name => "option '--" ++ name ++ "' needs a value"
  | unneededValue name => "option '--" ++ name ++ "' takes no value"
  | invalidValue name value => "invalid value '" ++ value ++ "' for option '--" ++ name ++ "'"
  | repeated name => "option '--" ++ name ++ "' is given twice"
  | conflict name other => "options '--" ++ name ++ "' and '--" ++ other ++ "' exclude each other"
  | missingOption name => "option '--" ++ name ++ "' is missing"
  | missingCommand => "a command is missing"
  | unexpected argument => "unexpected argument '" ++ argument ++ "'"

end ScanQuery
