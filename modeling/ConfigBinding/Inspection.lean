import ConfigBinding.Launch
import ConfigBinding.Text.Terminal

/-!
# The inspecting program

A program that loads the runtime of a service from its own environment and prints what it found.
Like every program that loads a configuration it can take a descriptor, only check, or show what it
could be given; the scope of computed keys can be set too.
-/

set_option autoImplicit false

namespace ConfigBinding

/-- The options of the inspecting program. -/
structure InspectionOptions where
  load : LoadOptions
  scope : Option String
  deriving DecidableEq, Repr

namespace InspectionOptions

/-- The option with the scope of computed keys; it may be empty. -/
def scopeOption : OptionSpec :=
  ⟨"prefix", none, .takeValue true⟩

/-- The option that asks for the version. -/
def versionOption : OptionSpec :=
  ⟨"version", some 'V', .showVersion⟩

/-- Parses the command line of the program. -/
def parse (arguments : List String) : Except CommandLineFault InspectionOptions :=
  (CommandLine.parse (LoadOptions.specs ++ [scopeOption, versionOption]) arguments).map fun p =>
    ⟨LoadOptions.ofParsed p, p.value? scopeOption⟩

end InspectionOptions

/-- How a run of the program ends. -/
inductive Completion where
  | done (output : String)
  | failed (complaint : String)
  /-- The command line was not understood. -/
  | misused (fault : CommandLineFault)
  deriving DecidableEq, Repr

namespace Completion

/-- The number that the program ends with. -/
def exitCode : Completion → Nat
  | done _ => 0
  | failed _ => 1
  | misused _ => 2

/-- What the program prints. -/
def output : Completion → String
  | done output => output
  | failed _ | misused _ => ""

/-- What the program complains of. -/
def complaint? : Completion → Option String
  | done _ => none
  | failed complaint => some complaint
  | misused fault => some fault.message

end Completion

namespace Inspection

/-- The name of the program. -/
def programName : String :=
  "envbind"

/-- The name and the version of the program. -/
def versionText : String :=
  programName ++ " 0.1.0\n"

/-- The lines about what the program can be asked for. -/
def helpLines : List String :=
  ["Inspect the environment-bound runtime configuration",
    "",
    "Usage: envbind [OPTIONS]",
    "",
    "Options:",
    "      --config <PATH>    Deployment descriptor (YAML) whose container environment " ++
      "is layered under the local environment",
    "      --validate         Validate the configuration and exit. Required secrets may be absent",
    "      --usage            Print the configuration usage table and exit",
    "      --prefix <PREFIX>  Prefix for computed keys, overriding the compile-time prefix",
    "  -h, --help             Print help",
    "  -V, --version          Print version"]

/-- What the program can be asked for. -/
def helpText : String :=
  String.join (helpLines.map (· ++ "\n"))

/-- The names and the values fixed when the program was built. -/
def buildValues : List (List String) :=
  [["ENVBIND_PREFIX", BuildValues.scope], ["ENVBIND_SERVICE_VERSION", BuildValues.serviceVersion]]

/-- Everything that shapes the configuration of the program of the given name. -/
def usageText (program : String) (c : Config) : String :=
  "\nRuntime configuration of " ++ program ++ ":\n\n" ++ c.usage ++
    "\nBuild-time configuration of " ++ program ++ ":\n\n" ++
    Table.render ["VARIABLE", "VALUE"] buildValues

/-- What is said about an error, behind what was being done, with its causes; it is said on a
terminal. -/
def complaint (activity : String) (e : ConfigError) : String :=
  Text.forTerminal (": ".intercalate (activity :: e.message :: e.causes))

/-- The settings that the options ask for. -/
def settings (o : InspectionOptions) : Settings :=
  o.load.apply { Settings.default with scope := o.scope.getD BuildValues.scope }

/-- Carries out a run with understood options. -/
def perform (w : World) (program : Path) (o : InspectionOptions) : Completion :=
  match (Config.build (settings o) [(Launch.runtimeGroupName, ServiceRuntime.schema)]).result with
  | .error e => .failed (complaint "invalid configuration structure" e)
  | .ok c =>
    if o.load.usage then .done (usageText (program.fileName?.getD programName) c)
    else
      let loaded := c.load w
      match loaded.outcome with
      | .error e => .failed (complaint "failed to load configuration" e)
      | .ok () => .done loaded.config.snapshot.2.render

/-- Runs the program, known under the given path, with arguments. -/
def run (w : World) (program : Path) (arguments : List String) : Completion :=
  match InspectionOptions.parse arguments with
  | .error .displayHelp => .done helpText
  | .error .displayVersion => .done versionText
  | .error fault => .misused fault
  | .ok o => perform w program o

end Inspection

end ConfigBinding
