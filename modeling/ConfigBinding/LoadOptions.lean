import ConfigBinding.CommandLine
import ConfigBinding.Config.Basic

/-!
# Load options

The options of every program that loads a configuration: the descriptor to layer, whether only to
check that the configuration loads, and whether only to show the usage table.
-/

set_option autoImplicit false

namespace ConfigBinding

/-- The options that say how a configuration is loaded. -/
structure LoadOptions where
  descriptor : Option Path
  validate : Bool
  usage : Bool
  deriving DecidableEq, Repr

namespace LoadOptions

/-- The options of a command line without arguments. -/
def default : LoadOptions :=
  ⟨none, false, false⟩

instance : Inhabited LoadOptions := ⟨LoadOptions.default⟩

/-- The option with the path of a descriptor. -/
def descriptorOption : OptionSpec :=
  ⟨"config", none, .takeValue false⟩

/-- The option of a dry run. -/
def validateOption : OptionSpec :=
  ⟨"validate", none, .setFlag⟩

/-- The option that asks for the usage table. -/
def usageOption : OptionSpec :=
  ⟨"usage", none, .setFlag⟩

/-- The option that asks for help. -/
def helpOption : OptionSpec :=
  ⟨"help", some 'h', .showHelp⟩

/-- The options of a program that adds none of its own. -/
def specs : List OptionSpec :=
  [descriptorOption, validateOption, usageOption, helpOption]

/-- The options among those parsed. -/
def ofParsed (p : ParsedOptions) : LoadOptions where
  descriptor := (p.value? descriptorOption).map Path.mk
  validate := p.isSet validateOption
  usage := p.isSet usageOption

/-- Parses a command line with these options alone. -/
def parse (arguments : List String) : Except CommandLineFault LoadOptions :=
  (CommandLine.parse specs arguments).map ofParsed

/-- Settings that follow the options. A dry run can do without required secrets. -/
def apply (o : LoadOptions) (s : Settings) : Settings where
  scope := s.scope
  descriptor := o.descriptor.or s.descriptor
  optionalSecrets := o.validate
  environment := s.environment
  platform := s.platform
  hashOrder := s.hashOrder

end LoadOptions

end ConfigBinding
