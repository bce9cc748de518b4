import ConfigBinding.Config.Basic

/-!
# Loading

A load reads the descriptor, if there is one, checks its secrets, layers its entries under the
environment, and gives every leaf of every group the value its field takes. It happens once: a
configuration that was loaded, or failed to, cannot be loaded again.
-/

set_option autoImplicit false

namespace ConfigBinding

/-- What a load can look at: the variables of the process, and files. -/
structure World where
  process : List (List UInt8 × List UInt8)
  files : FileReader

namespace World

/-- The variable that names a server for questions about the platform. -/
def metadataHostKey : String :=
  "GCE_METADATA_HOST"

/-- The file that holds the name of the machine's product. -/
def productFile : Path :=
  ⟨"/sys/class/dmi/id/product_name"⟩

/-- The names of the platform's machines. -/
def platformProducts : List String :=
  ["Google", "Google Compute Engine"]

/-- Whether the machine is one of the platform's. -/
def hasPlatformProduct (w : World) : Bool :=
  match w.files productFile with
  | .error _ => false
  | .ok bytes =>
    match Text.ofBytes? bytes with
    | none => false
    | some name => platformProducts.contains (Text.trim name)

/-- What is known about the platform without asking a server: the program runs on it if the
variables of the process name a server to ask, or if the machine is one of the platform's. The
answer of a server over the network is left out here; where it counts, it is given as the platform
of the settings. -/
def platform (w : World) : Platform := fun _ =>
  w.process.any (·.1 == Text.bytes metadataHostKey) || w.hasPlatformProduct

end World

namespace Config

/-- The state in which a load leaves a configuration, with its outcome. -/
structure Loaded where
  config : Config
  outcome : Except ConfigError Unit
  events : List Event

/-- Gives the leaves of groups their values, up to the first failure. -/
def resolveGroups (r : Resolver) (scope : String) :
    List Group → Resolving → List Group × Resolving × Option ConfigError
  | [], s => ([], s, none)
  | g :: gs, s =>
    let walked := g.schema.walk r.visit scope s
    let g := { g with schema := walked.schema }
    match walked.failure with
    | some e => (g :: gs, walked.state, some e)
    | none =>
      let (gs, s, failure) := resolveGroups r scope gs walked.state
      (g :: gs, s, failure)

/-- The environment with the descriptor's entries layered under it, if there is a descriptor. -/
def layered (w : World) (c : Config) (e : Environment) : Report ConfigError Environment :=
  match c.descriptor with
  | none => ⟨.ok e, []⟩
  | some path =>
    let loaded := Descriptor.load w.files path
    match loaded.result with
    | .error error => ⟨.error error, loaded.events⟩
    | .ok d =>
      match d.validateSecrets c.fields with
      | .error error => ⟨.error error, loaded.events⟩
      | .ok () =>
        let (layered, added) := e.layer (d.candidates e)
        ⟨.ok layered,
          loaded.events ++ d.overridden e ++ [.environmentLayered path added]⟩

/-- The environment that a load starts from. -/
def startEnvironment (w : World) (c : Config) : Environment :=
  c.environment.getD (Environment.ofProcess w.process)

/-- The resolution of a configuration's fields against an environment. -/
def resolver (w : World) (c : Config) (e : Environment) : Resolver where
  environment := e
  platform := c.platform.getD w.platform
  optionalSecrets := c.optionalSecrets

/-- Loads a configuration that has not been loaded. -/
def loadFresh (w : World) (c : Config) : Loaded :=
  let report := c.layered w (c.startEnvironment w)
  match report.result with
  | .error error =>
    ⟨{ c with environment := none, stage := .failed }, .error error, report.events⟩
  | .ok e =>
    let (groups, s, failure) :=
      resolveGroups (c.resolver w e) c.scope c.groups ⟨⟨c.asked, none⟩, []⟩
    let c := { c with groups, environment := some e, asked := s.probe.asked }
    let events := report.events ++ s.events
    match failure with
    | some error => ⟨{ c with stage := .failed }, .error error, events⟩
    | none =>
      ⟨{ c with stage := .fieldsResolved }, .ok (), events ++ [.loaded groups.length]⟩

/-- Loads a configuration, unless it has been loaded. -/
def load (w : World) (c : Config) : Loaded :=
  if c.stage = .fieldsCollected then c.loadFresh w else ⟨c, .error .alreadyLoaded, []⟩

end Config

end ConfigBinding
