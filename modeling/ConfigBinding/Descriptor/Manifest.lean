import ConfigBinding.Entry
import ConfigBinding.Yaml.Decoder

/-!
# Manifests

The part of a deployment manifest that a descriptor is made from: its kind, the name of what it
deploys, and the environment lists of its containers. The kind decides where the containers stand.
Everything else in the document is passed over.
-/

set_option autoImplicit false

namespace ConfigBinding

/-- A kind of deployment. -/
inductive DeploymentKind where
  | service
  | workerPool
  | job
  deriving DecidableEq, Repr

namespace DeploymentKind

/-- Every kind. -/
def all : List DeploymentKind :=
  [service, workerPool, job]

/-- The name of a kind. -/
def name : DeploymentKind → String
  | service => "Service"
  | workerPool => "WorkerPool"
  | job => "Job"

/-- The kind of a name. -/
def ofName? (name : String) : Option DeploymentKind :=
  all.find? (·.name == name)

/-- The fields that lead to the containers, from the document's `spec` on. -/
def containerPath : DeploymentKind → List String
  | service | workerPool => ["template", "spec"]
  | job => ["template", "spec", "template", "spec"]

end DeploymentKind

/-- An item of an environment list, as written. -/
structure ManifestEntry where
  name : String
  value : Option Yaml.Value
  secret : Option SecretRef

namespace ManifestEntry

/-- Whether the item has a value that is used, but none that a text could stand for. -/
def isIgnored (e : ManifestEntry) : Bool :=
  e.secret.isNone && e.value.any (·.scalarText?.isNone)

/-- The entry that the item is. A secret displaces a value; a missing value is the empty text. -/
def toEntry (e : ManifestEntry) : Entry :=
  match e.secret with
  | some secret => ⟨e.name, none, some secret⟩
  | none =>
    match e.value with
    | some v => ⟨e.name, v.scalarText?, none⟩
    | none => ⟨e.name, some "", none⟩

end ManifestEntry

/-- What is read of a document of a known kind. -/
structure Manifest where
  name : Option String
  containers : List (List ManifestEntry)

namespace Manifest

open Yaml

/-- Reads the kind that a document names. -/
def kind (root : Node) : Decoder (Option String) := do
  Decoder.fieldOr (← Decoder.fields ["kind"] root) "kind" none (Decoder.optional Decoder.text)

/-- Reads a reference to a secret. -/
def secretRef (node : Node) : Decoder SecretRef := do
  let fields ← Decoder.fields ["name", "key"] node
  let name ← Decoder.field fields "name" Decoder.text
  let key ← Decoder.field fields "key" Decoder.text
  pure ⟨name, key⟩

/-- Reads where a value comes from. -/
def valueSource (node : Node) : Decoder (Option SecretRef) := do
  Decoder.fieldOr (← Decoder.fields ["secretKeyRef"] node) "secretKeyRef" none
    (Decoder.optional secretRef)

/-- Reads an item of an environment list; its value has collections at most `depth` deep. -/
def entry (depth : Nat) (node : Node) : Decoder ManifestEntry := do
  let fields ← Decoder.fields ["name", "value", "valueFrom"] node
  let name ← Decoder.field fields "name" Decoder.text
  let value ← Decoder.fieldOr fields "value" none (Decoder.optional (Decoder.value depth))
  let source ← Decoder.fieldOr fields "valueFrom" none (Decoder.optional valueSource)
  pure ⟨name, value, source.join⟩

/-- Reads a container's environment list. -/
def container (depth : Nat) (node : Node) : Decoder (List ManifestEntry) := do
  Decoder.fieldOr (← Decoder.fields ["env"] node) "env" [] fun node => do
    Decoder.each (entry depth) (← Decoder.items node)

/-- Reads the containers at the end of a path of fields; a field that is missing has none. -/
def containersAt (depth : Nat) : List String → Node → Decoder (List (List ManifestEntry))
  | [], node => do
    Decoder.fieldOr (← Decoder.fields ["containers"] node) "containers" [] fun node => do
      Decoder.each (container depth) (← Decoder.items node)
  | step :: path, node => do
    Decoder.fieldOr (← Decoder.fields [step] node) step [] (containersAt depth path)

/-- Reads the name of what is deployed. -/
def metadataName (node : Node) : Decoder (Option String) := do
  Decoder.fieldOr (← Decoder.fields ["name"] node) "name" none (Decoder.optional Decoder.text)

/-- Reads a document of a kind. An item of an environment list stands six collections deeper than
the path to the containers is long. -/
def ofNode (k : DeploymentKind) (root : Node) : Decoder Manifest := do
  let depth := Decoder.maxDepth - (k.containerPath.length + 6)
  let fields ← Decoder.fields ["metadata", "spec"] root
  let name ← Decoder.fieldOr fields "metadata" none metadataName
  let containers ← Decoder.fieldOr fields "spec" [] (containersAt depth k.containerPath)
  pure ⟨name, containers⟩

end Manifest

end ConfigBinding
