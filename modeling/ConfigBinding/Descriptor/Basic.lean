import ConfigBinding.Descriptor.Manifest
import ConfigBinding.Error
import ConfigBinding.Event

/-!
# Deployment descriptors

A descriptor is what a deployment manifest says about the environment of its first container: the
name of the deployment, published under a key of its own, and the container's entries. Its literal
entries are candidates for the environment where that lacks their names; its secret entries must
each belong to a field that is tagged as a secret.
-/

set_option autoImplicit false

namespace ConfigBinding

/-- A decoded descriptor. -/
structure Descriptor where
  path : Path
  kind : DeploymentKind
  entries : List Entry
  deriving DecidableEq

namespace Descriptor

/-- The greatest number of containers. -/
def maxContainers : Nat :=
  10

/-- The key under which the name of the deployment is published. -/
def nameKey : String :=
  "K_SERVICE"

/-- The entry for the name of the deployment, unless that is missing or empty. -/
def nameEntry (name : Option String) : List Entry :=
  match name with
  | some n => if n.isEmpty then [] else [Entry.literal nameKey n]
  | none => []

/-- The events of items whose values are ignored. -/
def ignoredValues (items : List ManifestEntry) : List Event :=
  (items.filter (·.isIgnored)).map fun e => Event.valueIgnored e.name

/-- The descriptor of a manifest of a kind. -/
def ofManifest (path : Path) (k : DeploymentKind) (m : Manifest) : Report ConfigError Descriptor :=
  match m.containers with
  | [] => ⟨.error (.containerCount 0), []⟩
  | first :: rest =>
    if maxContainers < rest.length + 1 then
      ⟨.error (.containerCount (rest.length + 1)), []⟩
    else
      let entries := nameEntry m.name ++ first.map ManifestEntry.toEntry
      ⟨.ok ⟨path, k, entries⟩,
        ignoredValues first ++ [.descriptorDecoded path k.name entries.length]⟩

/-- The node of a document; a text without a document reads as one without fields. -/
def rootOf : Yaml.Content → Yaml.Node
  | .nothing => .empty
  | .document root => root

/-- Decodes a document. Its kind comes first: nothing else of it is looked at unless that is
known. -/
def ofNode (path : Path) (root : Yaml.Node) : Report ConfigError Descriptor :=
  match (Manifest.kind root).run root with
  | none => ⟨.error (.malformed path), []⟩
  | some name =>
    match DeploymentKind.ofName? (name.getD "") with
    | none => ⟨.error (.unknownKind (name.getD "")), []⟩
    | some k =>
      match (Manifest.ofNode k root).run root with
      | none => ⟨.error (.malformed path), []⟩
      | some m => ofManifest path k m

/-- Decodes the text of a descriptor; the path is for messages. -/
def parse (path : Path) (contents : String) : Report ConfigError Descriptor :=
  match Yaml.content? contents with
  | none => ⟨.error (.malformed path), []⟩
  | some content => ofNode path (rootOf content)

/-- Reads and decodes the descriptor at a path. -/
def load (files : FileReader) (path : Path) : Report ConfigError Descriptor :=
  match files path with
  | .error .missing => ⟨.error (.fileNotFound path), []⟩
  | .error fault => ⟨.error (.unreadable path fault), []⟩
  | .ok bytes =>
    match Text.ofBytes? bytes with
    | none => ⟨.error (.unreadable path .notText), []⟩
    | some contents => parse path contents

/-- The entries that are no secrets. -/
def literals (d : Descriptor) : List Entry :=
  d.entries.filter (!·.isSecret)

/-- The entries that are no secrets and whose names the environment lacks. -/
def candidates (d : Descriptor) (e : Environment) : List Entry :=
  d.literals.filter fun entry => !e.contains entry.name

/-- The events of entries that the environment overrides. -/
def overridden (d : Descriptor) (e : Environment) : List Event :=
  (d.literals.filter fun entry => e.contains entry.name).map fun entry =>
    Event.entryOverridden entry.name

/-- Checks one secret entry against the fields. -/
def checkSecret (fields : List Field) (entry : Entry) : Except ConfigError Unit :=
  match fields.filter (·.key == entry.name) with
  | [] => .error (.unboundSecret entry.name)
  | first :: rest =>
    if (first :: rest).any (·.isSecret) then .ok ()
    else .error (.untaggedSecret entry.name first.name)

/-- Checks the secret entries in order: each needs a field of its name that is tagged as a
secret. -/
def checkSecrets (fields : List Field) : List Entry → Except ConfigError Unit
  | [] => .ok ()
  | entry :: rest =>
    if entry.isSecret then
      match checkSecret fields entry with
      | .error e => .error e
      | .ok () => checkSecrets fields rest
    else checkSecrets fields rest

/-- Checks that every secret entry belongs to a secret field. -/
def validateSecrets (d : Descriptor) (fields : List Field) : Except ConfigError Unit :=
  checkSecrets fields d.entries

/-- Reads the descriptor at a path. Gives the entries that the environment lacks. -/
def extract (files : FileReader) (path : Path) (e : Environment) :
    Report ConfigError (List Entry) :=
  let loaded := load files path
  match loaded.result with
  | .error error => ⟨.error error, loaded.events⟩
  | .ok d => ⟨.ok (d.candidates e), loaded.events ++ d.overridden e⟩

end Descriptor

end ConfigBinding
