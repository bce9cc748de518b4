import ConfigBinding.BuildValues
import ConfigBinding.Schema.Basic

/-!
# The runtime of a service

The values that the serving platform puts into the environment of every container: the port to
listen on, what the service or job is called, and which revision, execution and task this is. All
but the service account are bound to variables outright.
-/

set_option autoImplicit false

namespace ConfigBinding

/-- The runtime values of a service or a job. -/
structure ServiceRuntime where
  port : Int
  service : String
  revision : String
  configuration : String
  job : String
  execution : String
  taskIndex : Int
  taskAttempt : Int
  taskCount : Int
  projectId : String
  serviceAccount : String
  serviceVersion : String
  deriving DecidableEq, Repr

namespace ServiceRuntime

/-- A leaf of a kind that is bound to a variable. -/
def bound (name key : String) (k : Kind) : Label × Leaf :=
  (⟨name, ⟨[(Tags.variableKey, key)]⟩⟩, Leaf.new (.kind k))

/-- The structure of the runtime values, before anything is loaded. -/
def schema : Schema Leaf :=
  Schema.ofLeaves
    [(⟨"port", ⟨[(Tags.variableKey, "PORT"), (Tags.defaultKey, "8080")]⟩⟩,
        Leaf.new (.kind (.int .u16))),
      bound "service" "K_SERVICE" .text,
      bound "revision" "K_REVISION" .text,
      bound "configuration" "K_CONFIGURATION" .text,
      bound "job" "CLOUD_RUN_JOB" .text,
      bound "execution" "CLOUD_RUN_EXECUTION" .text,
      bound "task_index" "CLOUD_RUN_TASK_INDEX" (.int .u32),
      bound "task_attempt" "CLOUD_RUN_TASK_ATTEMPT" (.int .u32),
      bound "task_count" "CLOUD_RUN_TASK_COUNT" (.int .u32),
      bound "project_id" "GOOGLE_CLOUD_PROJECT" .text,
      (⟨"service_account", Tags.empty⟩, Leaf.new (.kind .text)),
      bound "service_version" "SERVICE_VERSION" .text]

/-- The runtime values that a structure holds under their names; a missing text is empty, a missing
number zero. -/
def ofSchema (s : Schema Leaf) : ServiceRuntime :=
  let text (name : String) : String := ((s.find? name).bind Leaf.text?).getD ""
  let int (name : String) : Int := ((s.find? name).bind Leaf.int?).getD 0
  { port := int "port"
    service := text "service"
    revision := text "revision"
    configuration := text "configuration"
    job := text "job"
    execution := text "execution"
    taskIndex := int "task_index"
    taskAttempt := int "task_attempt"
    taskCount := int "task_count"
    projectId := text "project_id"
    serviceAccount := text "service_account"
    serviceVersion := text "service_version" }

/-- What the service is called; a service without a name is called like its program's file. -/
def serviceName (r : ServiceRuntime) (program : Path) : String :=
  if r.service.isEmpty then program.fileName?.getD "" else r.service

/-- The version of the service: the loaded one, else the one it was built with, else the
revision. -/
def version (r : ServiceRuntime) : String :=
  if !r.serviceVersion.isEmpty then r.serviceVersion
  else if !BuildValues.serviceVersion.isEmpty then BuildValues.serviceVersion
  else r.revision

/-- Whether the program runs as a task of a job. -/
def isJob (r : ServiceRuntime) : Bool :=
  !r.job.isEmpty

end ServiceRuntime

end ConfigBinding
