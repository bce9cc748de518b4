import ConfigBinding.Config.Basic
import ConfigBinding.Snapshot
import ConfigBinding.Table

/-!
# Views of a configuration

The snapshot shows the current value of every field, a secret's not; the log says the same in one
event for each group; the usage table lists the fields.
-/

set_option autoImplicit false

namespace ConfigBinding

/-- The group after a walk that shows it, and its snapshot. -/
def Group.display (orders : String → EntryOrder) (scope : String) (g : Group) :
    Group × GroupSnapshot :=
  let shown := g.schema.display orders scope
  ({ g with schema := shown.1 }, ⟨g.name, shown.2⟩)

namespace Config

/-- The configuration after a walk that shows it, and its snapshot. -/
def snapshot (c : Config) : Config × Snapshot :=
  let shown := c.groups.mapIdx fun i g => g.display (c.hashOrder c.stage i) c.scope
  ({ c with groups := shown.map (·.1) }, ⟨shown.map (·.2)⟩)

/-- The configuration after a walk that shows it, and the events that log its values. -/
def logResolved (c : Config) : Config × List Event :=
  let (c, s) := c.snapshot
  (c, s.groups.map fun g => .resolved g.name g.oneLine)

/-- The header of the usage table. -/
def usageHeader : List String :=
  ["CONFIG", "ENV", "TYPE", "DEFAULT", "ON GCE"]

/-- The row of a field in the usage table. -/
def usageRow (group : String) (f : Field) : List String :=
  [group, f.key, f.typeName, f.default?.getD "", f.onPlatform?.getD ""]

/-- The usage table: one row for each field of each group. -/
def usage (c : Config) : String :=
  Table.render usageHeader (c.groups.flatMap fun g => g.fields.map (usageRow g.name))

end Config

end ConfigBinding
