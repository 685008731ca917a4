import ScanQuery.Command.Request
import ScanQuery.Text.Split

/-!
Reading command lines. Options have a long name and some a letter; a value follows in the next
argument, behind an equals sign, or directly behind the letter. An argument that begins with a dash
is never the value of the option before it, a single dash apart. Options that belong to every
command stand before the command or behind it, where the ones behind it win.

Help is left out, with its texts: `--help`, `-h` and the command `help` ask for nothing here and are
refused like any other unknown argument, where a program that has them prints the help, runs no
command and exits with 0.
-/

namespace ScanQuery.Arguments

/-- What may be given to an option: nothing, any text, a path, which is not empty, or the name of
a format. An option that ends the reading takes nothing, and what follows it is not looked at. -/
inductive ValueKind where
  | flag
  | ending
  | text
  | path
  | format
  deriving DecidableEq, Repr

/-- Whether a text is a value of the kind. -/
def ValueKind.admits : ValueKind → String → Bool
  | flag, _ => true
  | ending, _ => true
  | text, _ => true
  | path, value => !value.isEmpty
  | format, value => (Format.parse? value).isSome

/-- An option. -/
structure OptionForm where
  name : String
  letter : Option Char
  kind : ValueKind
  deriving DecidableEq, Repr

/-- The options read so far with their values. -/
abbrev Given := List (String × String)

/-! ### Arguments -/

/-- An argument by its form. -/
inductive Argument where
  | word
  | long (name : String) (value : Option String)
  | letter (c : Char) (rest : List Char)
  | separator
  deriving DecidableEq, Repr

/-- The form of an argument. A single dash is a word. -/
def Argument.ofText (text : String) : Argument :=
  match text.toList with
  | ['-', '-'] => .separator
  | '-' :: '-' :: body =>
    match Text.splitOnce? "=" (String.ofList body) with
    | some (name, value) => .long name (some value)
    | none => .long (String.ofList body) none
  | '-' :: c :: rest => .letter c rest
  | _ => .word

/-- What an argument says about options. -/
inductive Step where
  | none
  | closing (form : OptionForm)
  | complete (form : OptionForm) (value : String)
  | waiting (form : OptionForm)
  deriving DecidableEq, Repr

/-- The value attached to a letter, without the equals sign that may stand before it. -/
def attached : List Char → Option String
  | [] => none
  | '=' :: value => some (String.ofList value)
  | value => some (String.ofList value)

/-- What an option says with the value attached to it. -/
def stepOf (form : OptionForm) (value : Option String) : Except UsageError Step :=
  match form.kind, value with
  | .ending, none => .ok (.closing form)
  | .flag, none => .ok (.complete form "")
  | .ending, some _ => .error (.unneededValue form.name)
  | .flag, some _ => .error (.unneededValue form.name)
  | _, some value => .ok (.complete form value)
  | _, none => .ok (.waiting form)

/-- What an argument says where the given options may stand. -/
def step (forms : List OptionForm) (argument : String) : Except UsageError Step :=
  match Argument.ofText argument with
  | .word => .ok .none
  | .separator => .ok .none
  | .long name value =>
    match forms.find? (·.name = name) with
    | some form => stepOf form value
    | none => .error (.unknownOption argument)
  | .letter c rest =>
    match forms.find? (·.letter = some c) with
    | some form => if form.kind = .ending then .ok (.closing form) else stepOf form (attached rest)
    | none => .error (.unknownOption argument)

/-- The options with one more, which must not be there yet. -/
def add (given : Given) (form : OptionForm) (value : String) : Except UsageError Given :=
  if (given.lookup form.name).isSome then .error (.repeated form.name)
  else if form.kind.admits value then .ok (given ++ [(form.name, value)])
  else .error (.invalidValue form.name value)

/-- The options at the start of some arguments, and the arguments from the first word on that is
no value of an option. -/
def readOptions (forms : List OptionForm) :
    Given → List String → Except UsageError (Given × List String)
  | given, [] => .ok (given, [])
  | given, argument :: rest =>
    match step forms argument with
    | .error e => .error e
    | .ok .none => .ok (given, argument :: rest)
    | .ok (.closing form) => .ok (given ++ [(form.name, "")], [])
    | .ok (.complete form value) =>
      match add given form value with
      | .ok given => readOptions forms given rest
      | .error e => .error e
    | .ok (.waiting form) =>
      match rest with
      | [] => .error (.missingValue form.name)
      | value :: rest =>
        if Argument.ofText value = .word then
          match add given form value with
          | .ok given => readOptions forms given rest
          | .error e => .error e
        else .error (.missingValue form.name)

/-! ### Commands -/

/-- A command: its name, its options, and what is made of their values. -/
structure CommandForm where
  name : String
  options : List OptionForm
  build : Given → Except UsageError Command

/-- The value of an option that must be given. -/
def required (given : Given) (name : String) : Except UsageError String :=
  match given.lookup name with
  | some value => .ok value
  | none => .error (.missingOption name)

/-- How the result is to be shown. -/
def display (given : Given) : Except UsageError Display :=
  match given.lookup "format", given.lookup "template" with
  | some _, some _ => .error (.conflict "format" "template")
  | none, some path => .ok (.template path)
  | name, none => .ok (.builtin ((name.bind Format.parse?).getD .auto))

def inputOption : OptionForm := ⟨"input", some 'i', .path⟩
def queryOption : OptionForm := ⟨"query", some 'q', .text⟩
def formatOption : OptionForm := ⟨"format", none, .format⟩
def templateOption : OptionForm := ⟨"template", some 't', .path⟩
def outputOption : OptionForm := ⟨"output", some 'o', .path⟩

/-- The options of every command. -/
def sharedOptions : List OptionForm :=
  [⟨"config", none, .path⟩, ⟨"log-level", none, .text⟩, ⟨"json-logs", none, .flag⟩]

/-- The option that asks for the version. -/
def versionOption : OptionForm := ⟨"version", some 'V', .ending⟩

/-- The commands. -/
def commands : List CommandForm :=
  [⟨"query", [inputOption, queryOption, formatOption, templateOption], fun given => do
      return .query (← required given "input") (← required given "query") (← display given)⟩,
    ⟨"portscan", [inputOption, formatOption, templateOption], fun given => do
      return .portscan (← required given "input") (← display given)⟩,
    ⟨"write", [inputOption, templateOption, outputOption], fun given => do
      return .write (← required given "input") (← required given "template")
        (← required given "output")⟩,
    ⟨"list", [inputOption], fun given => do return .list (← required given "input")⟩,
    ⟨"version", [], fun _ => return .version⟩]

/-- Refuses arguments that are left over; a separator with nothing behind it is none. -/
def refuseRest : List String → Except UsageError Unit
  | [] => .ok ()
  | ["--"] => .ok ()
  | argument :: _ => .error (.unexpected argument)

end ScanQuery.Arguments

namespace ScanQuery

open Arguments in
/-- What the arguments of a command line ask for. -/
def Request.parse (arguments : List String) : Except UsageError Request := do
  let (before, rest) ← readOptions (versionOption :: sharedOptions) [] arguments
  if (before.lookup versionOption.name).isSome then return .version
  match rest with
  | [] => throw .missingCommand
  | name :: rest =>
    match commands.find? (·.name = name) with
    | none => throw (.unexpected name)
    | some form =>
      let (behind, rest) ← readOptions (form.options ++ sharedOptions) [] rest
      refuseRest rest
      let command ← form.build behind
      let shared := behind ++ before
      return .run ⟨shared.lookup "config", shared.lookup "log-level",
        (shared.lookup "json-logs").isSome, command⟩

end ScanQuery
