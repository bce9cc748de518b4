/-!
# Snapshots

The shown values of every field of every group. A snapshot is written with one line for each group
and, below it, one line for each of its fields.
-/

set_option autoImplicit false

namespace ConfigBinding

/-- The keys and shown values of one group. -/
structure GroupSnapshot where
  name : String
  values : List (String × String)
  deriving DecidableEq, Repr

/-- The shown values of every group. -/
structure Snapshot where
  groups : List GroupSnapshot
  deriving DecidableEq, Repr

namespace Snapshot

/-- The shown value of a key in the first group of a name. -/
def get? (s : Snapshot) (group key : String) : Option String :=
  match s.groups.find? (·.name == group) with
  | some g => g.values.lookup key
  | none => none

/-- The line of a key and its value. -/
def valueLine (v : String × String) : String :=
  "  " ++ v.1 ++ "=" ++ v.2 ++ "\n"

/-- The lines of a group. -/
def groupLines (g : GroupSnapshot) : String :=
  g.name ++ ":\n" ++ String.join (g.values.map valueLine)

/-- The text of a snapshot. -/
def render (s : Snapshot) : String :=
  String.join (s.groups.map groupLines)

end Snapshot

/-- The values of a group in one line. -/
def GroupSnapshot.oneLine (g : GroupSnapshot) : String :=
  " ".intercalate (g.values.map fun v => v.1 ++ "=" ++ v.2)

end ConfigBinding
