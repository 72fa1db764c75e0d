import Rollout.Config.Build
import Rollout.Config.Comparison
import Rollout.Config.Rendering
import Rollout.Kube.Pod
import Rollout.Mutation.Typed
import Rollout.Tls

/-!
One pass of the operator over a stack: write the configuration, compare it with the one of the last
pass, and bring the objects of the cluster in line. A component is only restarted when the hash on
its pods changes.
-/

namespace Rollout

/-- The annotation that carries the hash. -/
def hashAnnotation : String := "loki.grafana.com/config-hash"

/-- The name of the configuration file in the shared config map. -/
def configFileName : String := "config.yaml"

/-- Marks a pod template with the hash of a component. -/
def Comparison.annotate (comparison : Comparison) (component : Component)
    (template : Kube.PodTemplate) : Kube.PodTemplate :=
  let metadata := template.metadata.getD {}
  let annotations := (metadata.annotations.getD .empty).insert hashAnnotation
    (comparison.get component)
  { template with metadata := some { metadata with annotations := some annotations } }

/-- The live deployment of each component. -/
structure Deployments where
  compactor : Kube.Deployment := {}
  distributor : Kube.Deployment := {}
  ingester : Kube.Deployment := {}
  querier : Kube.Deployment := {}
  queryFrontend : Kube.Deployment := {}

namespace Deployments

/-- Deployments by their components. -/
def assignM {m : Type → Type} [Monad m] (deployment : Component → m Kube.Deployment) :
    m Deployments := do
  return {
    compactor := ← deployment .compactor
    distributor := ← deployment .distributor
    ingester := ← deployment .ingester
    querier := ← deployment .querier
    queryFrontend := ← deployment .queryFrontend }

/-- The deployment of a component. -/
def get (deployments : Deployments) : Component → Kube.Deployment
  | .compactor => deployments.compactor
  | .distributor => deployments.distributor
  | .ingester => deployments.ingester
  | .querier => deployments.querier
  | .queryFrontend => deployments.queryFrontend

end Deployments

/-- The objects of a stack that live in a cluster. -/
structure Cluster where
  /-- The configuration file of the last pass. -/
  config : Option ByteArray := none
  deployments : Deployments := {}
  configMap : Kube.ConfigMap := {}

namespace Reconciliation

inductive Error where
  | comparison (cause : ComparisonError)
  | tls (cause : Tls.Error)

/-- What a pass comes to. -/
structure Outcome where
  hash : String
  change : ConfigChange
  cluster : Cluster
  endpoint : Option Kube.Endpoint

/-- The namespace of a stack. -/
def namespaceName : String := "logging"

/-- The name of a component's objects. -/
def objectName (stack : String) (component : Component) : String :=
  stack ++ "-" ++ component.name

/-- The labels of a component's objects in a numbered pass. -/
def labels (revision : Nat) (component : Component) : KeyMap String :=
  .ofList [("component", component.name), ("revision", toString revision)]

/-- The pods of a component. -/
def podSpec (resolved : Stack.Resolved) (component : Component) : Kube.PodSpec :=
  let spec := resolved.spec.template.get component
  { containers := [{
      name := "loki"
      args := some ["-target=" ++ component.name]
      resources := some (resolved.resources component).requirements }]
    nodeSelector := spec.nodeSelector
    tolerations := spec.tolerations }

/-- The pods of a component, serving TLS where certificates are signed. -/
def securedPodSpec (stack : String) (resolved : Stack.Resolved) (component : Component) :
    Except Tls.Error Kube.PodSpec :=
  let pod := podSpec resolved component
  if resolved.flags.certificateSigning then Tls.enable pod (objectName stack component ++ "-http")
  else .ok pod

/-- The deployment that a component should have. -/
def desiredDeployment (stack : String) (revision : Nat) (resolved : Stack.Resolved)
    (hashes : Comparison) (component : Component) : Except Tls.Error Kube.Deployment := do
  let pod ← securedPodSpec stack resolved component
  return {
    metadata := {
      name := some (objectName stack component)
      labels := some (labels revision component) }
    spec := some {
      replicas := some (resolved.replicas component)
      selector := { matchLabels := some (labels revision component) }
      template := hashes.annotate component { spec := some pod } } }

/-- The config map that shares a configuration file. -/
def desiredConfigMap (file : ByteArray) : Kube.ConfigMap :=
  { binaryData := some (.ofList [(configFileName, file.toList)]) }

/-- Brings a live deployment in line; it exists from then on. -/
def update (createdAt : Kube.Time) (live desired : Kube.Deployment) : Kube.Deployment :=
  let mutated := live.mutate desired
  { mutated with metadata := { mutated.metadata with creationTimestamp := some createdAt } }

/-- A pass, numbered from zero, over a stack with settled settings. A pass that fails changes
nothing; in the first one the configuration counts as unchanged. -/
def pass (stack : String) (createdAt : Kube.Time) (cluster : Cluster) (revision : Nat)
    (resolved : Stack.Resolved) (storage : ObjectStorage) : Except Error Outcome := do
  let file := (Config.build resolved storage).toYaml.toUTF8
  let change ← (ConfigChange.between (cluster.config.getD file) file).mapError .comparison
  let deployments ← Deployments.assignM fun component => do
    let desired ← (desiredDeployment stack revision resolved change.comparison component).mapError
      .tls
    return update createdAt (cluster.deployments.get component) desired
  return {
    hash := Config.hash file
    change := change
    cluster := {
      config := some file
      deployments := deployments
      configMap := cluster.configMap.mutate (desiredConfigMap file) }
    endpoint := Tls.metricsEndpoint resolved.flags stack namespaceName }

end Reconciliation

end Rollout
