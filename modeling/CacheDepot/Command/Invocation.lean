/-!
# Invocations

What a command line asks for. A command line names a command, `config` or
`status`, and options of it; the verbose switch can stand before the command as
well. Options are read from left to right, and the first thing that settles the
matter does so: a request for help or for the version, or a mistake. Each option
but `--set` can be given once, and a switch takes no value.
-/

namespace CacheDepot.Command

/-- The commands that do something. -/
inductive Action where
  /-- Shows the configuration. -/
  | config
  /-- Applies the configuration and shows the caches. -/
  | status
  deriving DecidableEq, Repr

namespace Action

def name : Action → String
  | .config => "config"
  | .status => "status"

def ofName? (name : String) : Option Action :=
  [Action.config, Action.status].find? fun action => action.name = name

end Action

/-- What help is about. -/
inductive Topic where
  | everything
  | action (action : Action)
  | help
  deriving DecidableEq, Repr

/-- A mistake on the command line. -/
inductive Misuse where
  | noCommand
  | unknownCommand (name : String)
  | unexpected (argument : String)
  | repeated (option : String)
  | missingValue (option : String)
  | needlessValue (option : String)
  deriving DecidableEq, Repr

namespace Misuse

def message : Misuse → String
  | .noCommand => "a command is required"
  | .unknownCommand name => "unrecognized command '" ++ name ++ "'"
  | .unexpected argument => "unexpected argument '" ++ argument ++ "'"
  | .repeated option => "the option '" ++ option ++ "' can be given only once"
  | .missingValue option => "the option '" ++ option ++ "' needs a value"
  | .needlessValue option => "the option '" ++ option ++ "' takes no value"

end Misuse

/-- The options of a command. -/
structure Options where
  /-- Asks for a log. Nothing here is logged, so it makes no difference. -/
  verbose : Bool := false
  /-- The configuration file. -/
  file : Option String := none
  /-- The values of `--set`, in order. -/
  settings : List String := []
  json : Bool := false
  deriving DecidableEq, Repr

/-- What a command line asks for. -/
inductive Invocation where
  | perform (action : Action) (options : Options)
  | help (topic : Topic)
  | version
  | misuse (mistake : Misuse)
  deriving DecidableEq, Repr

/-- An argument by its form. -/
inductive Form where
  /-- Two dashes alone: no options follow. -/
  | separator
  /-- Two dashes and a name, possibly with a value after an equals sign. -/
  | long (name : String) (value : Option String)
  /-- A dash and letters. -/
  | letters (letters : List Char)
  | plain
  deriving DecidableEq, Repr

namespace Form

/-- What stands before and after the first equals sign. -/
def splitAtEquals (text : List Char) : List Char × Option (List Char) :=
  match text.dropWhile (· ≠ '=') with
  | [] => (text, none)
  | _ :: value => (text.takeWhile (· ≠ '='), some value)

/-- The form of an argument. A single dash is plain. -/
def ofArgument (argument : String) : Form :=
  match argument.toList with
  | ['-', '-'] => .separator
  | '-' :: '-' :: text =>
      let (name, value) := splitAtEquals text
      .long (String.ofList name) (value.map String.ofList)
  | '-' :: letter :: more => .letters (letter :: more)
  | _ => .plain

end Form

/-- The options that take a value. -/
inductive Valued where
  | file
  | setting
  deriving DecidableEq, Repr

namespace Valued

def name : Valued → String
  | .file => "--config"
  | .setting => "--set"

end Valued

/-- Where the reading of a command's options stands. -/
structure Reading where
  options : Options := {}
  /-- The option whose value comes next. -/
  pending : Option Valued := none

namespace Reading

/-- Reading ends early with an invocation, or goes on. -/
abbrev Progress := Except Invocation Reading

def mistake {α : Type} (mistake : Misuse) : Except Invocation α :=
  .error (.misuse mistake)

def setVerbose (r : Reading) : Progress :=
  if r.options.verbose then mistake (.repeated "--verbose")
  else .ok { r with options := { r.options with verbose := true } }

def setJson (r : Reading) : Progress :=
  if r.options.json then mistake (.repeated "--json")
  else .ok { r with options := { r.options with json := true } }

/-- Takes the value of an option. A file has a name that is not empty. -/
def take (option : Valued) (value : String) (r : Reading) : Progress :=
  match option with
  | .setting =>
      .ok { options := { r.options with settings := r.options.settings ++ [value] } }
  | .file =>
      if r.options.file.isSome then mistake (.repeated Valued.file.name)
      else if value = "" then mistake (.missingValue Valued.file.name)
      else .ok { options := { r.options with file := some value } }

/-- The value stands in the same argument or is the next one. -/
def takeOrAwait (option : Valued) (value : Option String) (r : Reading) : Progress :=
  match value with
  | some value => r.take option value
  | none => .ok { r with pending := some option }

/-- A switch, which has no value. -/
def switch (name : String) (value : Option String) (effect : Progress) : Progress :=
  match value with
  | some _ => mistake (.needlessValue name)
  | none => effect

def long (action : Action) (name : String) (value : Option String) (r : Reading) : Progress :=
  match name with
  | "verbose" => switch "--verbose" value r.setVerbose
  | "json" => switch "--json" value r.setJson
  | "help" => switch "--help" value (.error (.help (.action action)))
  | "config" => r.takeOrAwait .file value
  | "set" => r.takeOrAwait .setting value
  | _ => mistake (.unexpected ("--" ++ name))

/-- Letters after a single dash. What follows the letter of an option with a value is its value,
without an equals sign in front. -/
def letters (action : Action) : List Char → Reading → Progress
  | [], r => .ok r
  | 'v' :: rest, r =>
      match r.setVerbose with
      | .ok next => letters action rest next
      | .error invocation => .error invocation
  | 'h' :: _, _ => .error (.help (.action action))
  | 'c' :: '=' :: value, r => r.take .file (String.ofList value)
  | ['c'], r => .ok { r with pending := some .file }
  | 'c' :: value, r => r.take .file (String.ofList value)
  | letter :: _, _ => mistake (.unexpected (String.ofList ['-', letter]))

/-- The end of the options. -/
def settle (r : Reading) : Except Invocation Options :=
  match r.pending with
  | some option => mistake (.missingValue option.name)
  | none => .ok r.options

/-- Reads the next argument; an option whose value is still to come takes only a plain one. -/
def next (action : Action) (argument : String) (r : Reading) : Progress :=
  match r.pending, Form.ofArgument argument with
  | some option, .plain => r.take option argument
  | some option, _ => mistake (.missingValue option.name)
  | none, .long name value => r.long action name value
  | none, .letters letters => r.letters action letters
  | none, _ => mistake (.unexpected argument)

/-- Reads the options of a command. After two dashes nothing may follow. -/
def readAll (action : Action) : List String → Reading → Except Invocation Options
  | [], r => r.settle
  | argument :: rest, r =>
      if Form.ofArgument argument = .separator then
        match rest with
        | [] => r.settle
        | extra :: _ => mistake (.unexpected extra)
      else
        match r.next action argument with
        | .ok following => readAll action rest following
        | .error invocation => .error invocation

end Reading

namespace Invocation

/-- The invocation of a command whose options follow. -/
def ofOptions (action : Action) (verbose : Bool) (arguments : List String) : Invocation :=
  match Reading.readAll action arguments {} with
  | .ok options => .perform action { options with verbose := verbose || options.verbose }
  | .error invocation => invocation

/-- Help on a command. No command has commands of its own. -/
def ofHelp : List String → Invocation
  | [] => .help .everything
  | name :: rest =>
      let topic := if name = "help" then some .help else (Action.ofName? name).map .action
      match topic, rest with
      | some topic, [] => .help topic
      | some _, extra :: _ => .misuse (.unknownCommand extra)
      | none, _ => .misuse (.unknownCommand name)

/-- Letters after a single dash in front of the command; tells whether the verbose switch has been
given. -/
def leadingLetters : List Char → (verbose : Bool) → Except Invocation Bool
  | [], verbose => .ok verbose
  | 'v' :: rest, verbose =>
      if verbose then .error (.misuse (.repeated "--verbose")) else leadingLetters rest true
  | 'h' :: _, _ => .error (.help .everything)
  | 'V' :: _, _ => .error .version
  | letter :: _, _ => .error (.misuse (.unexpected (String.ofList ['-', letter])))

/-- An option with a long name in front of the command. -/
def leadingLong (name : String) (value : Option String) (verbose : Bool) : Except Invocation Bool :=
  match name, value with
  | "verbose", none => if verbose then .error (.misuse (.repeated "--verbose")) else .ok true
  | "help", none => .error (.help .everything)
  | "version", none => .error .version
  | _, none => .error (.misuse (.unexpected ("--" ++ name)))
  | _, some _ => .error (.misuse (.needlessValue ("--" ++ name)))

/-- The invocation that arguments make after the verbose switch has been given or not. -/
def ofArgumentsFrom (verbose : Bool) : List String → Invocation
  | [] => .misuse .noCommand
  | argument :: rest =>
      match Form.ofArgument argument with
      | .separator => .misuse .noCommand
      | .long name value =>
          match leadingLong name value verbose with
          | .ok verbose => ofArgumentsFrom verbose rest
          | .error invocation => invocation
      | .letters letters =>
          match leadingLetters letters verbose with
          | .ok verbose => ofArgumentsFrom verbose rest
          | .error invocation => invocation
      | .plain =>
          if argument = "help" then ofHelp rest
          else
            match Action.ofName? argument with
            | some action => ofOptions action verbose rest
            | none => .misuse (.unknownCommand argument)

/-- The invocation that a command line makes. -/
def ofArguments (arguments : List String) : Invocation :=
  ofArgumentsFrom false arguments

end Invocation

end CacheDepot.Command
