import ConfigBinding.Config.Load
import ConfigBinding.Config.View

/-!
# Sessions

The operations that a program performs on a configuration after it is built, in any order and
number.
-/

set_option autoImplicit false

namespace ConfigBinding.Config

/-- An operation on a configuration. -/
inductive Operation where
  | load
  | snapshot
  | logResolved
  | usage
  | stage
  | environment
  deriving DecidableEq, Repr

/-- What an operation answers. -/
inductive Answer where
  | outcome (o : Except ConfigError Unit)
  | snapshot (s : Snapshot)
  | usage (table : String)
  | stage (s : Stage)
  | environment (e : Option Environment)

/-- The configuration after an operation, its answer, and the events it reported. -/
def perform (w : World) (c : Config) : Operation → Config × Answer × List Event
  | .load =>
    let loaded := c.load w
    (loaded.config, .outcome loaded.outcome, loaded.events)
  | .snapshot =>
    let (c, s) := c.snapshot
    (c, .snapshot s, [])
  | .logResolved =>
    let (c, events) := c.logResolved
    (c, .outcome (.ok ()), events)
  | .usage => (c, .usage c.usage, [])
  | .stage => (c, .stage c.stage, [])
  | .environment => (c, .environment c.environment?, [])

end ConfigBinding.Config
