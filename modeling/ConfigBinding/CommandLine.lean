/-!
# Command lines

Long options, some with a value after an equals sign or in the next argument, and single-letter
switches. There are no other arguments. An option's value is looked at only when the next known
option or the end of the line shows that it is complete, so an unknown argument in between is
reported first.
-/

set_option autoImplicit false

namespace ConfigBinding

/-- What an option does. -/
inductive OptionAction where
  | takeValue (mayBeEmpty : Bool)
  | setFlag
  | showHelp
  | showVersion
  deriving DecidableEq, Repr

/-- An option of a command line. -/
structure OptionSpec where
  name : String
  letter : Option Char
  action : OptionAction
  deriving DecidableEq, Repr

/-- Why a command line is not carried out as a run of the program. -/
inductive CommandLineFault where
  | unknownArgument
  | invalidValue
  | argumentConflict
  | tooManyValues
  | displayHelp
  | displayVersion
  deriving DecidableEq, Repr

/-- What is said about a fault. -/
def CommandLineFault.message : CommandLineFault → String
  | unknownArgument => "unexpected argument"
  | invalidValue => "an option needs a value"
  | argumentConflict => "an option cannot be used twice"
  | tooManyValues => "a flag takes no value"
  | displayHelp => "help was asked for"
  | displayVersion => "the version was asked for"

/-- The options that were given. -/
structure ParsedOptions where
  values : List (String × String)
  flags : List String
  deriving DecidableEq, Repr

namespace ParsedOptions

/-- The value that an option was given. -/
def value? (p : ParsedOptions) (spec : OptionSpec) : Option String :=
  p.values.lookup spec.name

/-- Whether a flag was given. -/
def isSet (p : ParsedOptions) (spec : OptionSpec) : Bool :=
  p.flags.contains spec.name

end ParsedOptions

namespace CommandLine

/-- The state between two arguments: what was parsed, and the option that waits for its value, or
for something known after it. -/
structure State where
  parsed : ParsedOptions
  pending : Option (OptionSpec × Option String)

/-- Takes an option with its values, of which there must be one. -/
def giveValue (s : State) (spec : OptionSpec) (value : Option String) :
    Except CommandLineFault State :=
  match value with
  | none => .error .invalidValue
  | some v =>
    if (s.parsed.value? spec).isSome then .error .argumentConflict
    else if v.isEmpty && spec.action != .takeValue true then .error .invalidValue
    else .ok ⟨{ s.parsed with values := s.parsed.values ++ [(spec.name, v)] }, none⟩

/-- Takes the option that waits, if one does. -/
def settle (s : State) : Except CommandLineFault State :=
  match s.pending with
  | none => .ok s
  | some (spec, value) => giveValue s spec value

/-- Takes an option that has no value. -/
def giveSwitch (s : State) (spec : OptionSpec) : Except CommandLineFault State := do
  let s ← settle s
  match spec.action with
  | .showHelp => .error .displayHelp
  | .showVersion => .error .displayVersion
  | _ =>
    if s.parsed.isSet spec then .error .argumentConflict
    else .ok { s with parsed := { s.parsed with flags := s.parsed.flags ++ [spec.name] } }

/-- Splits an argument after its dashes at the first equals sign. -/
def splitAttached (cs : List Char) : String × Option String :=
  match cs.dropWhile (· != '=') with
  | '=' :: value => (String.ofList (cs.takeWhile (· != '=')), some (String.ofList value))
  | _ => (String.ofList cs, none)

/-- Takes a long option. -/
def giveLong (specs : List OptionSpec) (s : State) (cs : List Char) :
    Except CommandLineFault State :=
  let (name, attached) := splitAttached cs
  match specs.find? (·.name == name) with
  | none => .error .unknownArgument
  | some spec =>
    match spec.action, attached with
    | .takeValue _, some v => (settle s).bind fun s => giveValue s spec (some v)
    | .takeValue _, none => (settle s).map fun s => { s with pending := some (spec, none) }
    | _, some _ => .error .tooManyValues
    | _, none => giveSwitch s spec

/-- Takes single-letter switches. -/
def giveLetters (specs : List OptionSpec) (s : State) : List Char → Except CommandLineFault State
  | [] => .ok s
  | c :: cs =>
    match specs.find? (·.letter == some c) with
    | none => .error .unknownArgument
    | some spec => (giveSwitch s spec).bind fun s => giveLetters specs s cs

/-- Takes one argument. -/
def give (specs : List OptionSpec) (s : State) (argument : String) :
    Except CommandLineFault State :=
  match argument.toList with
  | '-' :: '-' :: cs => giveLong specs s cs
  | '-' :: c :: cs => giveLetters specs s (c :: cs)
  | _ =>
    match s.pending with
    | some (spec, none) => .ok { s with pending := some (spec, some argument) }
    | _ => .error .unknownArgument

/-- Takes arguments in turn. After two dashes nothing is an option, and so nothing may follow. -/
def giveAll (specs : List OptionSpec) (s : State) : List String → Except CommandLineFault State
  | [] => settle s
  | "--" :: [] => settle s
  | "--" :: _ => .error .unknownArgument
  | argument :: rest => (give specs s argument).bind fun s => giveAll specs s rest

/-- Parses a command line. -/
def parse (specs : List OptionSpec) (arguments : List String) :
    Except CommandLineFault ParsedOptions :=
  (giveAll specs ⟨⟨[], []⟩, none⟩ arguments).map State.parsed

end CommandLine

end ConfigBinding
