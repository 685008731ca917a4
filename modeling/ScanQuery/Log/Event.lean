import ScanQuery.Json.Basic
import ScanQuery.KeyMap
import ScanQuery.Log.Code
import ScanQuery.Log.Level

/-!
Events: a level, a code, a message and a context of named values. An event has two written
forms, a plain line and a JSON object whose keys stand in ascending order. The moment of an event
is not part of it; the JSON form takes it as an argument.
-/

namespace ScanQuery.Log

/-- Something worth telling about a run. -/
structure Event where
  level : Level
  code : Code
  message : String
  context : KeyMap String
  deriving DecidableEq

namespace Event

/-- An error with its code. -/
def error (code : Code) (message : String) (context : List (String × String)) : Event :=
  ⟨.error, code, message, .ofList context⟩

/-- A warning with a code of its own. -/
def warningWithCode (code : Code) (message : String) (context : List (String × String)) : Event :=
  ⟨.warning, code, message, .ofList context⟩

/-- A warning without a code of its own. -/
def warning (message : String) (context : List (String × String)) : Event :=
  ⟨.warning, Code.plainWarning, message, .ofList context⟩

/-- A success with its code. -/
def success (code : Code) (message : String) (context : List (String × String)) : Event :=
  ⟨.info, code, message, .ofList context⟩

/-- A piece of information without a code of its own. -/
def info (message : String) (context : List (String × String)) : Event :=
  ⟨.info, Code.plainInfo, message, .ofList context⟩

/-- A debugging note. -/
def debug (message : String) (context : List (String × String)) : Event :=
  ⟨.debug, Code.plainDebug, message, .ofList context⟩

/-- The plain form: level, code, message, and the context in parentheses when there is any. -/
def format (e : Event) : String :=
  let head := "[" ++ e.level.tag ++ "] " ++ e.code ++ " - " ++ e.message
  if e.context.isEmpty then head
  else head ++ " (" ++ ", ".intercalate (e.context.entries.map fun (k, v) => k ++ "=" ++ v) ++ ")"

/-- The JSON form of an event that happened `seconds` after the start of 1970. -/
def toJson (seconds : Nat) (e : Event) : Json :=
  .object <|
    [("category", .string (Code.category e.code)), ("code", .string e.code)] ++
    (if e.context.isEmpty then []
      else [("context", .object (e.context.entries.map fun (k, v) => (k, Json.string v)))]) ++
    (if e.level = .error then
      [("error_metadata", .object
        [("description", .string (Code.description e.code)),
          ("recoverable", .bool (Code.recoverable e.code))])]
      else []) ++
    [("level", .string e.level.tag), ("message", .string e.message),
      ("timestamp", .number seconds)]

end Event

end ScanQuery.Log
