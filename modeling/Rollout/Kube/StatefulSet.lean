import Rollout.Kube.Pod

/-!
Stateful sets, whose pods keep their names and volumes.
-/

namespace Rollout.Kube

open Fields (fixed object optional zeroed)

/-- Which pods may be replaced at once. -/
structure RollingUpdateStatefulSet where
  maxUnavailable : Option IntOrText := none
  partition : Option Int32 := none

def RollingUpdateStatefulSet.codec : Codec RollingUpdateStatefulSet := object <|
  RollingUpdateStatefulSet.mk <$> optional "maxUnavailable" IntOrText.codec
      RollingUpdateStatefulSet.maxUnavailable
    <*> optional "partition" .int32 RollingUpdateStatefulSet.partition

/-- How pods are replaced by new ones. -/
structure StatefulSetUpdateStrategy where
  rollingUpdate : Option RollingUpdateStatefulSet := none
  type : Option String := none

def StatefulSetUpdateStrategy.codec : Codec StatefulSetUpdateStrategy := object <|
  StatefulSetUpdateStrategy.mk <$> optional "rollingUpdate" RollingUpdateStatefulSet.codec
      StatefulSetUpdateStrategy.rollingUpdate
    <*> optional "type" .text StatefulSetUpdateStrategy.type

/-- The number of the first pod. -/
structure StatefulSetOrdinals where
  start : Option Int32 := none

def StatefulSetOrdinals.codec : Codec StatefulSetOrdinals := object <|
  StatefulSetOrdinals.mk <$> optional "start" .int32 StatefulSetOrdinals.start

/-- What becomes of the claims when a stateful set is deleted or made smaller. -/
structure ClaimRetentionPolicy where
  whenDeleted : Option String := none
  whenScaled : Option String := none

def ClaimRetentionPolicy.codec : Codec ClaimRetentionPolicy := object <|
  ClaimRetentionPolicy.mk <$> optional "whenDeleted" .text ClaimRetentionPolicy.whenDeleted
    <*> optional "whenScaled" .text ClaimRetentionPolicy.whenScaled

/-- The pods of a stateful set. -/
structure StatefulSetSpec where
  minReadySeconds : Option Int32 := none
  ordinals : Option StatefulSetOrdinals := none
  persistentVolumeClaimRetentionPolicy : Option ClaimRetentionPolicy := none
  podManagementPolicy : Option String := none
  replicas : Option Int32 := none
  revisionHistoryLimit : Option Int32 := none
  selector : LabelSelector := {}
  serviceName : Option String := none
  template : PodTemplate := {}
  updateStrategy : Option StatefulSetUpdateStrategy := none
  volumeClaimTemplates : Option (List PersistentVolumeClaim) := none

def StatefulSetSpec.codec : Codec StatefulSetSpec := object <|
  StatefulSetSpec.mk <$> optional "minReadySeconds" .int32 StatefulSetSpec.minReadySeconds
    <*> optional "ordinals" StatefulSetOrdinals.codec StatefulSetSpec.ordinals
    <*> optional "persistentVolumeClaimRetentionPolicy" ClaimRetentionPolicy.codec
      StatefulSetSpec.persistentVolumeClaimRetentionPolicy
    <*> optional "podManagementPolicy" .text StatefulSetSpec.podManagementPolicy
    <*> optional "replicas" .int32 StatefulSetSpec.replicas
    <*> optional "revisionHistoryLimit" .int32 StatefulSetSpec.revisionHistoryLimit
    <*> zeroed "selector" LabelSelector.codec {} StatefulSetSpec.selector
    <*> optional "serviceName" .text StatefulSetSpec.serviceName
    <*> zeroed "template" PodTemplate.codec {} StatefulSetSpec.template
    <*> optional "updateStrategy" StatefulSetUpdateStrategy.codec StatefulSetSpec.updateStrategy
    <*> optional "volumeClaimTemplates" (.list PersistentVolumeClaim.codec)
      StatefulSetSpec.volumeClaimTemplates

/-- A condition that a stateful set is in or not. -/
structure StatefulSetCondition where
  lastTransitionTime : Option Time := none
  message : Option String := none
  reason : Option String := none
  status : String := ""
  type : String := ""

def StatefulSetCondition.codec : Codec StatefulSetCondition := object <|
  StatefulSetCondition.mk <$> optional "lastTransitionTime" Time.codec
      StatefulSetCondition.lastTransitionTime
    <*> optional "message" .text StatefulSetCondition.message
    <*> optional "reason" .text StatefulSetCondition.reason
    <*> zeroed "status" .text "" StatefulSetCondition.status
    <*> zeroed "type" .text "" StatefulSetCondition.type

/-- The state of a stateful set. -/
structure StatefulSetStatus where
  availableReplicas : Option Int32 := none
  collisionCount : Option Int32 := none
  conditions : Option (List StatefulSetCondition) := none
  currentReplicas : Option Int32 := none
  currentRevision : Option String := none
  observedGeneration : Option Int64 := none
  readyReplicas : Option Int32 := none
  replicas : Int32 := 0
  updateRevision : Option String := none
  updatedReplicas : Option Int32 := none

def StatefulSetStatus.codec : Codec StatefulSetStatus := object <|
  StatefulSetStatus.mk <$> optional "availableReplicas" .int32 StatefulSetStatus.availableReplicas
    <*> optional "collisionCount" .int32 StatefulSetStatus.collisionCount
    <*> optional "conditions" (.list StatefulSetCondition.codec) StatefulSetStatus.conditions
    <*> optional "currentReplicas" .int32 StatefulSetStatus.currentReplicas
    <*> optional "currentRevision" .text StatefulSetStatus.currentRevision
    <*> optional "observedGeneration" .int64 StatefulSetStatus.observedGeneration
    <*> optional "readyReplicas" .int32 StatefulSetStatus.readyReplicas
    <*> zeroed "replicas" .int32 0 StatefulSetStatus.replicas
    <*> optional "updateRevision" .text StatefulSetStatus.updateRevision
    <*> optional "updatedReplicas" .int32 StatefulSetStatus.updatedReplicas

/-- A stateful set. -/
structure StatefulSet where
  metadata : ObjectMeta := {}
  spec : Option StatefulSetSpec := none
  status : Option StatefulSetStatus := none

def StatefulSet.codec : Codec StatefulSet := object <|
  (fun _ _ => StatefulSet.mk) <$> fixed "apiVersion" "apps/v1"
    <*> fixed "kind" "StatefulSet"
    <*> zeroed "metadata" ObjectMeta.codec {} StatefulSet.metadata
    <*> optional "spec" StatefulSetSpec.codec StatefulSet.spec
    <*> optional "status" StatefulSetStatus.codec StatefulSet.status

end Rollout.Kube
