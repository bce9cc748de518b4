import ConfigBinding.Config.Load
import ConfigBinding.Config.View
import ConfigBinding.LoadOptions
import ConfigBinding.ServiceRuntime

/-!
# Launching an application

An application is launched by loading two groups of one configuration: the runtime of the service,
and then the application's own. The options may ask for the usage table instead, before anything is
read, or for no more than the check that everything loads.
-/

set_option autoImplicit false

namespace ConfigBinding

/-- The loaded groups of a launched application. -/
structure Application where
  config : Schema Leaf
  runtimeGroup : Schema Leaf

/-- The runtime values of an application. -/
def Application.runtime (a : Application) : ServiceRuntime :=
  ServiceRuntime.ofSchema a.runtimeGroup

/-- What a launch came to. -/
inductive Launch where
  | run (a : Application)
  /-- The usage table was asked for. -/
  | showUsage (table : String)
  /-- Only a check was asked for, and everything loaded. -/
  | valid

/-- Why an application was not launched. -/
structure LaunchError where
  cause : ConfigError
  deriving DecidableEq

namespace LaunchError

/-- What is said about the error. -/
def message (e : LaunchError) : String :=
  "configuration error: " ++ e.cause.message

/-- The parts of the error by name, of a value that a field refused. -/
def detail? (e : LaunchError) : Option String :=
  e.cause.detail?.map fun parts => "Config(" ++ parts ++ ")"

/-- What is said about the causes of the error, the nearest first. -/
def causes (e : LaunchError) : List String :=
  e.cause.message :: e.cause.causes

end LaunchError

namespace Launch

/-- The name of the group of runtime values. -/
def runtimeGroupName : String :=
  "runtime"

/-- What was printed. -/
def output : Launch → String
  | showUsage table => table
  | run _ | valid => ""

/-- The schema of the group at a place of a configuration. -/
def groupAt (c : Config) (i : Nat) : Schema Leaf :=
  (c.groups[i]?).elim .nil Group.schema

/-- Loads a configuration for an application, with the events reported before. -/
def afterBuild (w : World) (o : LoadOptions) (c : Config) (events : List Event) :
    Report LaunchError Launch :=
  let loaded := c.load w
  match loaded.outcome with
  | .error e => ⟨.error ⟨e⟩, events ++ loaded.events⟩
  | .ok () =>
    let (c, shown) := loaded.config.logResolved
    let events := events ++ loaded.events ++ shown
    if o.validate then ⟨.ok .valid, events ++ [.valid]⟩
    else ⟨.ok (.run ⟨groupAt c 1, groupAt c 0⟩), events⟩

/-- Launches an application whose group has the given name and schema. -/
def start (w : World) (o : LoadOptions) (s : Settings) (name : String) (schema : Schema Leaf) :
    Report LaunchError Launch :=
  let groups := [(runtimeGroupName, ServiceRuntime.schema), (name, schema)]
  let built := Config.build (o.apply s) groups
  match built.result with
  | .error e => ⟨.error ⟨e⟩, built.events⟩
  | .ok c =>
    if o.usage then ⟨.ok (.showUsage c.usage), built.events⟩ else afterBuild w o c built.events

end Launch

end ConfigBinding
