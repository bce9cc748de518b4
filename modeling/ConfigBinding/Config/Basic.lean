import ConfigBinding.BuildValues
import ConfigBinding.Descriptor.Basic
import ConfigBinding.Resolution

/-!
# Configurations

A configuration binds the fields of several groups, each a schema with a name. It is built from
settings and groups: every group's fields are collected, and no key may stand twice in one group.
Two groups may share a key; that is reported.
-/

set_option autoImplicit false

namespace ConfigBinding

/-- How far the one load of a configuration has come. -/
inductive Stage where
  | fieldsCollected
  | descriptorExtracted
  | secretsValidated
  | environmentLayered
  | fieldsResolved
  | failed
  deriving DecidableEq, Repr

/-- The name of a stage. -/
def Stage.name : Stage → String
  | fieldsCollected => "FieldsCollected"
  | descriptorExtracted => "DescriptorExtracted"
  | secretsValidated => "SecretsValidated"
  | environmentLayered => "EnvironmentLayered"
  | fieldsResolved => "FieldsResolved"
  | failed => "Failed"

/-- A named schema and its fields as they were collected. -/
structure Group where
  name : String
  schema : Schema Leaf
  fields : List Field

/-- The orders in which the hashed maps of a configuration keep their entries, given by the place of
the group and the key of the leaf. A load makes new maps, so the stage decides as well. -/
def HashOrder : Type :=
  Stage → Nat → String → EntryOrder

/-- What a configuration is built with, apart from its groups. Without an environment that of the
process is used; without a platform, what the process says about it. -/
structure Settings where
  /-- The scope of the groups' fields. -/
  scope : String
  descriptor : Option Path
  optionalSecrets : Bool
  environment : Option Environment
  platform : Option Platform
  /-- No program sets these orders: what holds of a configuration holds whatever they are. -/
  hashOrder : HashOrder := fun _ _ _ => .byText

/-- The settings that nothing was set in. -/
def Settings.default : Settings where
  scope := BuildValues.scope
  descriptor := none
  optionalSecrets := false
  environment := none
  platform := none

instance : Inhabited Settings := ⟨Settings.default⟩

/-- A configuration. -/
structure Config where
  groups : List Group
  scope : String
  descriptor : Option Path
  optionalSecrets : Bool
  /-- The environment set by hand before the load, the one that was resolved against after it. -/
  environment : Option Environment
  platform : Option Platform
  hashOrder : HashOrder
  /-- How often the platform was asked. -/
  asked : Nat
  stage : Stage

namespace Config

/-- The first key in a list that stands in it earlier, or among those `seen`. -/
def firstRepeated? (seen : List String) : List String → Option String
  | [] => none
  | k :: ks => if seen.contains k then some k else firstRepeated? (k :: seen) ks

/-- Collects the fields of a group. -/
def collectGroup (scope : String) (g : String × Schema Leaf) : Except ConfigError Group :=
  let collected := g.2.collect scope
  match firstRepeated? [] (collected.2.map Field.key) with
  | some key => .error (.duplicateKey g.1 key)
  | none => .ok ⟨g.1, collected.1, collected.2⟩

/-- Collects the fields of groups in turn. -/
def collectGroups (scope : String) : List (String × Schema Leaf) → Except ConfigError (List Group)
  | [] => .ok []
  | g :: gs =>
    match collectGroup scope g with
    | .error e => .error e
    | .ok group =>
      match collectGroups scope gs with
      | .error e => .error e
      | .ok groups => .ok (group :: groups)

/-- The reports of keys that an earlier group has. `owners` are the pairs of a key and the group
that has it, the latest first. -/
def sharedKeys (owners : List (String × String)) : List (String × String) → List Event
  | [] => []
  | (key, group) :: rest =>
    let report := match owners.lookup key with
      | some first => [Event.keyShared key first group]
      | none => []
    report ++ sharedKeys ((key, group) :: owners) rest

/-- The keys of all groups with the names of their groups, in order. -/
def keyedGroups (groups : List Group) : List (String × String) :=
  groups.flatMap fun g => g.fields.map fun f => (f.key, g.name)

/-- Builds a configuration. -/
def build (s : Settings) (groups : List (String × Schema Leaf)) : Report ConfigError Config :=
  match collectGroups s.scope groups with
  | .error e => ⟨.error e, []⟩
  | .ok groups =>
    ⟨.ok { groups, scope := s.scope, descriptor := s.descriptor
           optionalSecrets := s.optionalSecrets, environment := s.environment
           platform := s.platform, hashOrder := s.hashOrder, asked := 0
           stage := .fieldsCollected },
      sharedKeys [] (keyedGroups groups)⟩

/-- The fields of all groups, as they were collected. -/
def fields (c : Config) : List Field :=
  c.groups.flatMap Group.fields

/-- The environment that was resolved against, once there is one. -/
def environment? (c : Config) : Option Environment :=
  if c.stage = .fieldsCollected then none else c.environment

end Config

end ConfigBinding
