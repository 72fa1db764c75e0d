import Rollout.Kube.Managed
import Rollout.Text.Quoted

/-!
Changing a live object towards a desired one of the same kind. Labels, annotations and the fields
that the operator owns are taken over; identity and ownership stay with the live object. What a
cluster does not let change after creation is taken over only while the live object has not been
created.
-/

namespace Rollout

open Kube (Kind)

inductive MutationError where
  | mismatchedKind (existing desired : Kind)
  /-- No managed kind has this type. -/
  | unsupportedKind (apiVersion kind : String)
  /-- The object with this name does not say what it is. -/
  | missingTypeMeta (name : String)
  /-- The object is no object of the kind it claims. -/
  | unreadable (kind : Kind)
  /-- The changed object does not become a dynamic one again. -/
  | unwritable (kind : Kind)
deriving DecidableEq

def MutationError.message : MutationError → String
  | .mismatchedKind existing desired =>
    "cannot mutate a " ++ existing.name ++ " using a desired " ++ desired.name
  | .unsupportedKind apiVersion kind =>
    "missing mutate implementation for resource type " ++ apiVersion ++ "/" ++ kind
  | .missingTypeMeta name =>
    "dynamic object " ++ Text.Quoted.quote name ++ " has no type information"
  | .unreadable kind => "failed to parse dynamic object as " ++ kind.name
  | .unwritable kind => "failed to convert " ++ kind.name ++ " back into a dynamic object"

end Rollout

namespace Rollout.Kube

/-- The metadata of a live object with the labels and annotations of a desired one. -/
def ObjectMeta.adopt (existing desired : ObjectMeta) : ObjectMeta :=
  { existing with annotations := desired.annotations, labels := desired.labels }

def ConfigMap.mutate (existing desired : ConfigMap) : ConfigMap :=
  { existing with
    metadata := existing.metadata.adopt desired.metadata
    data := desired.data
    binaryData := desired.binaryData }

/-- Ports and selector are owned. -/
def ServiceSpec.mutate (existing desired : ServiceSpec) : ServiceSpec :=
  { existing with ports := desired.ports, selector := desired.selector }

def Service.mutate (existing desired : Service) : Service :=
  { existing with
    metadata := existing.metadata.adopt desired.metadata
    spec := some ((existing.spec.getD {}).mutate (desired.spec.getD {})) }

/-- Replicas, template and strategy are owned; the selector is final after creation. -/
def DeploymentSpec.mutate (creating : Bool) (existing desired : DeploymentSpec) : DeploymentSpec :=
  { existing with
    selector := if creating then desired.selector else existing.selector
    replicas := desired.replicas
    template := desired.template
    strategy := desired.strategy }

def Deployment.mutate (existing desired : Deployment) : Deployment :=
  { existing with
    metadata := existing.metadata.adopt desired.metadata
    spec := some ((existing.spec.getD {}).mutate existing.metadata.isBeingCreated
      (desired.spec.getD {})) }

/-- Replicas, template and update strategy are owned; selector, pod management and the claims of
volumes are final after creation. -/
def StatefulSetSpec.mutate (creating : Bool) (existing desired : StatefulSetSpec) :
    StatefulSetSpec :=
  { existing with
    selector := if creating then desired.selector else existing.selector
    podManagementPolicy :=
      if creating then desired.podManagementPolicy else existing.podManagementPolicy
    volumeClaimTemplates :=
      if creating then desired.volumeClaimTemplates else existing.volumeClaimTemplates
    replicas := desired.replicas
    template := desired.template
    updateStrategy := desired.updateStrategy }

def StatefulSet.mutate (existing desired : StatefulSet) : StatefulSet :=
  { existing with
    metadata := existing.metadata.adopt desired.metadata
    spec := some ((existing.spec.getD {}).mutate existing.metadata.isBeingCreated
      (desired.spec.getD {})) }

/-- The selector is final and the endpoints of a component never change, so labels and annotations
are all that is taken over. -/
def ServiceMonitor.mutate (existing desired : ServiceMonitor) : ServiceMonitor :=
  { existing with metadata := existing.metadata.adopt desired.metadata }

/-- Changes a live object towards a desired one, which has to be of the same kind. -/
def Managed.mutate : Managed → Managed → Except MutationError Managed
  | .configMap existing, .configMap desired => .ok (.configMap (existing.mutate desired))
  | .service existing, .service desired => .ok (.service (existing.mutate desired))
  | .deployment existing, .deployment desired => .ok (.deployment (existing.mutate desired))
  | .statefulSet existing, .statefulSet desired => .ok (.statefulSet (existing.mutate desired))
  | .serviceMonitor existing, .serviceMonitor desired =>
    .ok (.serviceMonitor (existing.mutate desired))
  | existing, desired => .error (.mismatchedKind existing.kind desired.kind)

/-- Reads a dynamic object as the kind that it claims to be. -/
def Managed.ofDynamic (object : DynamicObject) : Except MutationError Managed :=
  match object.types with
  | none => .error (.missingTypeMeta object.metadata.displayName)
  | some types =>
    match Kind.ofTypes? types with
    | none => .error (.unsupportedKind types.apiVersion types.kind)
    | some kind =>
      match Managed.read? kind object.toJson with
      | some managed => .ok managed
      | none => .error (.unreadable kind)

/-- The dynamic object that is read from what a typed one is written as. -/
def Managed.toDynamic (object : Managed) : Except MutationError DynamicObject :=
  match DynamicObject.ofJson? object.write with
  | some converted => .ok converted
  | none => .error (.unwritable object.kind)

end Rollout.Kube
