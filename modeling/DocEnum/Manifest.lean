import DocEnum.Job.Run
import DocEnum.Libraries

/-!
# Manifests

A manifest is a file that lists jobs, in JSON or, by its extension, in YAML: either a list, or a
mapping with the list under `jobs`.

**Loading.** All jobs are validated before any of them runs, so a manifest with an invalid job
does nothing.

**Running.** The jobs run in order, and each gives one result.
-/

namespace DocEnum.Manifest

variable {m : Type → Type} [Monad m] [Workspace m] [YamlLibrary]

/-! ## Loading -/

def isYaml (path : Path) : Bool :=
  let extension := Text.lowerAscii path.extension
  extension == ".yml" || extension == ".yaml"

/-- What is said about each job of a list: nothing where an item is no mapping. -/
abbrev Payloads := List (Option Payload)

/-- The list of jobs that a value holds. -/
def ofValue? (manifest : Value) : Option Payloads :=
  let jobs := match manifest with
    | .mapping pairs => (Value.lookup? (.text "jobs") pairs).getD (.list [])
    | value => value
  match jobs with
  | .list items => some (items.map Payload.ofValue?)
  | _ => none

/-- What a value of a YAML document says about a job. -/
def payload? (d : Yaml.Document) (ref : Yaml.Ref) : Option Payload :=
  (d.members? ref).map fun pairs name => (d.member? pairs name).map d.view

/-- The list of jobs that a YAML document holds. -/
def ofDocument? (d : Yaml.Document) : Option Payloads :=
  let items? (ref : Yaml.Ref) : Option Payloads :=
    match d.item? ref with
    | some (.list items) => some (items.map (payload? d))
    | some (.pairs pairs) => some (pairs.map fun _ => none)
    | _ => none
  match d.members? d.root with
  | none => items? d.root
  | some pairs =>
    match d.member? pairs "jobs" with
    | none => some []
    | some jobs => items? jobs

/-- The list of jobs in a manifest's text. -/
def payloads (path : Path) (text : Text) : Except Error Payloads := do
  let jobs? ←
    if isYaml path then
      match YamlLibrary.load text with
      | .ok document => pure (ofDocument? document)
      | .error (.value fault) => throw (.value fault)
      | .error fault => throw (.yaml fault)
    else
      match Json.read text with
      | .ok value => pure (ofValue? value)
      | .error (.text fault) => throw (.json fault)
      | .error (.value fault) => throw (.value fault)
      | .error .tooDeep => throw .tooDeep
  match jobs? with
  | some jobs => return jobs
  | none => throw (.manifestNotList path)

def jobsOf (path : Path) (text : Text) : Except Error (List Job) := do
  let jobs ← payloads path text
  jobs.mapM fun
    | some payload => Job.ofPayload path.parent payload
    | none => throw .jobNotMapping

def load (path : Path) : ExceptT Error m (List Job) := do
  let text ← Workspace.readText path
  ExceptT.mk (pure (jobsOf path text))

/-! ## Running -/

/-- What the jobs of a manifest did. -/
structure Summary where
  manifest : Path
  results : List Result

def runAll : List Job → ExceptT Error m (List Result)
  | [] => return []
  | job :: rest => do
    let result ← job.run
    let results ← runAll rest
    return result :: results

def run (path : Path) : ExceptT Error m Summary := do
  let jobs ← load path
  let results ← runAll jobs
  return ⟨path, results⟩

namespace Summary

def written (summary : Summary) : Nat :=
  (summary.results.filter fun result => result.file?.isSome).length

def toValue (summary : Summary) : Value :=
  .mapping [
    (.text "manifest", .text summary.manifest.text),
    (.text "jobs", .int summary.results.length),
    (.text "written", .int summary.written),
    (.text "results", .list (summary.results.map Result.toValue))]

end Summary

/-! ## Sample -/

/-- A manifest to start from. -/
def sample : Value :=
  .mapping [(.text "jobs", .list [
    .mapping [
      (.text "name", .text "order_status"),
      (.text "source", .text "src/main/java/com/example/order/OrderDO.java"),
      (.text "field", .text "status")],
    .mapping [
      (.text "name", .text "pay_channel"),
      (.text "comment", .text "1-alipay, 2-wechat, 3-card"),
      (.text "type_name", .text "PayChannelEnum"),
      (.text "namespace", .text "com.example.pay"),
      (.text "output_dir", .text "src/main/java/com/example/pay"),
      (.text "lombok", .bool false)]])]

end DocEnum.Manifest
