import Rollout.Kube.Pod

/-!
Deployments, which keep interchangeable pods running.
-/

namespace Rollout.Kube

open Fields (fixed object optional zeroed)

/-- How many pods may be replaced at once. -/
structure RollingUpdateDeployment where
  maxSurge : Option IntOrText := none
  maxUnavailable : Option IntOrText := none

def RollingUpdateDeployment.codec : Codec RollingUpdateDeployment := object <|
  RollingUpdateDeployment.mk <$> optional "maxSurge" IntOrText.codec
      RollingUpdateDeployment.maxSurge
    <*> optional "maxUnavailable" IntOrText.codec RollingUpdateDeployment.maxUnavailable

/-- How pods are replaced by new ones. -/
structure DeploymentStrategy where
  rollingUpdate : Option RollingUpdateDeployment := none
  type : Option String := none

def DeploymentStrategy.codec : Codec DeploymentStrategy := object <|
  DeploymentStrategy.mk <$> optional "rollingUpdate" RollingUpdateDeployment.codec
      DeploymentStrategy.rollingUpdate
    <*> optional "type" .text DeploymentStrategy.type

/-- The pods of a deployment. -/
structure DeploymentSpec where
  minReadySeconds : Option Int32 := none
  paused : Option Bool := none
  progressDeadlineSeconds : Option Int32 := none
  replicas : Option Int32 := none
  revisionHistoryLimit : Option Int32 := none
  selector : LabelSelector := {}
  strategy : Option DeploymentStrategy := none
  template : PodTemplate := {}

def DeploymentSpec.codec : Codec DeploymentSpec := object <|
  DeploymentSpec.mk <$> optional "minReadySeconds" .int32 DeploymentSpec.minReadySeconds
    <*> optional "paused" .bool DeploymentSpec.paused
    <*> optional "progressDeadlineSeconds" .int32 DeploymentSpec.progressDeadlineSeconds
    <*> optional "replicas" .int32 DeploymentSpec.replicas
    <*> optional "revisionHistoryLimit" .int32 DeploymentSpec.revisionHistoryLimit
    <*> zeroed "selector" LabelSelector.codec {} DeploymentSpec.selector
    <*> optional "strategy" DeploymentStrategy.codec DeploymentSpec.strategy
    <*> zeroed "template" PodTemplate.codec {} DeploymentSpec.template

/-- A condition that a deployment is in or not. -/
structure DeploymentCondition where
  lastTransitionTime : Option Time := none
  lastUpdateTime : Option Time := none
  message : Option String := none
  reason : Option String := none
  status : String := ""
  type : String := ""

def DeploymentCondition.codec : Codec DeploymentCondition := object <|
  DeploymentCondition.mk <$> optional "lastTransitionTime" Time.codec
      DeploymentCondition.lastTransitionTime
    <*> optional "lastUpdateTime" Time.codec DeploymentCondition.lastUpdateTime
    <*> optional "message" .text DeploymentCondition.message
    <*> optional "reason" .text DeploymentCondition.reason
    <*> zeroed "status" .text "" DeploymentCondition.status
    <*> zeroed "type" .text "" DeploymentCondition.type

/-- The state of a deployment. -/
structure DeploymentStatus where
  availableReplicas : Option Int32 := none
  collisionCount : Option Int32 := none
  conditions : Option (List DeploymentCondition) := none
  observedGeneration : Option Int64 := none
  readyReplicas : Option Int32 := none
  replicas : Option Int32 := none
  terminatingReplicas : Option Int32 := none
  unavailableReplicas : Option Int32 := none
  updatedReplicas : Option Int32 := none

def DeploymentStatus.codec : Codec DeploymentStatus := object <|
  DeploymentStatus.mk <$> optional "availableReplicas" .int32 DeploymentStatus.availableReplicas
    <*> optional "collisionCount" .int32 DeploymentStatus.collisionCount
    <*> optional "conditions" (.list DeploymentCondition.codec) DeploymentStatus.conditions
    <*> optional "observedGeneration" .int64 DeploymentStatus.observedGeneration
    <*> optional "readyReplicas" .int32 DeploymentStatus.readyReplicas
    <*> optional "replicas" .int32 DeploymentStatus.replicas
    <*> optional "terminatingReplicas" .int32 DeploymentStatus.terminatingReplicas
    <*> optional "unavailableReplicas" .int32 DeploymentStatus.unavailableReplicas
    <*> optional "updatedReplicas" .int32 DeploymentStatus.updatedReplicas

/-- A deployment. -/
structure Deployment where
  metadata : ObjectMeta := {}
  spec : Option DeploymentSpec := none
  status : Option DeploymentStatus := none

def Deployment.codec : Codec Deployment := object <|
  (fun _ _ => Deployment.mk) <$> fixed "apiVersion" "apps/v1"
    <*> fixed "kind" "Deployment"
    <*> zeroed "metadata" ObjectMeta.codec {} Deployment.metadata
    <*> optional "spec" DeploymentSpec.codec Deployment.spec
    <*> optional "status" DeploymentStatus.codec Deployment.status

end Rollout.Kube
