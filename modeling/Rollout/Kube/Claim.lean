import Rollout.Kube.Meta

/-!
Claims for persistent volumes, and templates that claims are made from.
-/

namespace Rollout.Kube

open Fields (fixed object optional zeroed)

/-- Storage that is asked for and granted at most. -/
structure VolumeResourceRequirements where
  limits : Option (KeyMap Quantity) := none
  requests : Option (KeyMap Quantity) := none

def VolumeResourceRequirements.codec : Codec VolumeResourceRequirements := object <|
  VolumeResourceRequirements.mk <$> optional "limits" (.map Quantity.codec)
      VolumeResourceRequirements.limits
    <*> optional "requests" (.map Quantity.codec) VolumeResourceRequirements.requests

/-- The volume that a claim asks for. -/
structure PersistentVolumeClaimSpec where
  accessModes : Option (List String) := none
  dataSource : Option TypedLocalObjectReference := none
  dataSourceRef : Option TypedObjectReference := none
  resources : Option VolumeResourceRequirements := none
  selector : Option LabelSelector := none
  storageClassName : Option String := none
  volumeAttributesClassName : Option String := none
  volumeMode : Option String := none
  volumeName : Option String := none

def PersistentVolumeClaimSpec.codec : Codec PersistentVolumeClaimSpec := object <|
  PersistentVolumeClaimSpec.mk <$> optional "accessModes" (.list .text)
      PersistentVolumeClaimSpec.accessModes
    <*> optional "dataSource" TypedLocalObjectReference.codec PersistentVolumeClaimSpec.dataSource
    <*> optional "dataSourceRef" TypedObjectReference.codec PersistentVolumeClaimSpec.dataSourceRef
    <*> optional "resources" VolumeResourceRequirements.codec PersistentVolumeClaimSpec.resources
    <*> optional "selector" LabelSelector.codec PersistentVolumeClaimSpec.selector
    <*> optional "storageClassName" .text PersistentVolumeClaimSpec.storageClassName
    <*> optional "volumeAttributesClassName" .text
      PersistentVolumeClaimSpec.volumeAttributesClassName
    <*> optional "volumeMode" .text PersistentVolumeClaimSpec.volumeMode
    <*> optional "volumeName" .text PersistentVolumeClaimSpec.volumeName

/-- A condition that a claim is in or not. -/
structure PersistentVolumeClaimCondition where
  lastProbeTime : Option Time := none
  lastTransitionTime : Option Time := none
  message : Option String := none
  reason : Option String := none
  status : String := ""
  type : String := ""

def PersistentVolumeClaimCondition.codec : Codec PersistentVolumeClaimCondition := object <|
  PersistentVolumeClaimCondition.mk <$> optional "lastProbeTime" Time.codec
      PersistentVolumeClaimCondition.lastProbeTime
    <*> optional "lastTransitionTime" Time.codec PersistentVolumeClaimCondition.lastTransitionTime
    <*> optional "message" .text PersistentVolumeClaimCondition.message
    <*> optional "reason" .text PersistentVolumeClaimCondition.reason
    <*> zeroed "status" .text "" PersistentVolumeClaimCondition.status
    <*> zeroed "type" .text "" PersistentVolumeClaimCondition.type

/-- How far a change of a volume's attributes has got. -/
structure ModifyVolumeStatus where
  status : String := ""
  targetVolumeAttributesClassName : Option String := none

def ModifyVolumeStatus.codec : Codec ModifyVolumeStatus := object <|
  ModifyVolumeStatus.mk <$> zeroed "status" .text "" ModifyVolumeStatus.status
    <*> optional "targetVolumeAttributesClassName" .text
      ModifyVolumeStatus.targetVolumeAttributesClassName

/-- The state of a claim. -/
structure PersistentVolumeClaimStatus where
  accessModes : Option (List String) := none
  allocatedResourceStatuses : Option (KeyMap String) := none
  allocatedResources : Option (KeyMap Quantity) := none
  capacity : Option (KeyMap Quantity) := none
  conditions : Option (List PersistentVolumeClaimCondition) := none
  currentVolumeAttributesClassName : Option String := none
  modifyVolumeStatus : Option ModifyVolumeStatus := none
  phase : Option String := none

def PersistentVolumeClaimStatus.codec : Codec PersistentVolumeClaimStatus := object <|
  PersistentVolumeClaimStatus.mk <$> optional "accessModes" (.list .text)
      PersistentVolumeClaimStatus.accessModes
    <*> optional "allocatedResourceStatuses" (.map .text)
      PersistentVolumeClaimStatus.allocatedResourceStatuses
    <*> optional "allocatedResources" (.map Quantity.codec)
      PersistentVolumeClaimStatus.allocatedResources
    <*> optional "capacity" (.map Quantity.codec) PersistentVolumeClaimStatus.capacity
    <*> optional "conditions" (.list PersistentVolumeClaimCondition.codec)
      PersistentVolumeClaimStatus.conditions
    <*> optional "currentVolumeAttributesClassName" .text
      PersistentVolumeClaimStatus.currentVolumeAttributesClassName
    <*> optional "modifyVolumeStatus" ModifyVolumeStatus.codec
      PersistentVolumeClaimStatus.modifyVolumeStatus
    <*> optional "phase" .text PersistentVolumeClaimStatus.phase

/-- A claim for a persistent volume. -/
structure PersistentVolumeClaim where
  metadata : ObjectMeta := {}
  spec : Option PersistentVolumeClaimSpec := none
  status : Option PersistentVolumeClaimStatus := none

def PersistentVolumeClaim.codec : Codec PersistentVolumeClaim := object <|
  (fun _ _ => PersistentVolumeClaim.mk) <$> fixed "apiVersion" "v1"
    <*> fixed "kind" "PersistentVolumeClaim"
    <*> zeroed "metadata" ObjectMeta.codec {} PersistentVolumeClaim.metadata
    <*> optional "spec" PersistentVolumeClaimSpec.codec PersistentVolumeClaim.spec
    <*> optional "status" PersistentVolumeClaimStatus.codec PersistentVolumeClaim.status

/-- What claims are made from. -/
structure PersistentVolumeClaimTemplate where
  metadata : Option ObjectMeta := none
  spec : PersistentVolumeClaimSpec := {}

def PersistentVolumeClaimTemplate.codec : Codec PersistentVolumeClaimTemplate := object <|
  PersistentVolumeClaimTemplate.mk <$> optional "metadata" ObjectMeta.codec
      PersistentVolumeClaimTemplate.metadata
    <*> zeroed "spec" PersistentVolumeClaimSpec.codec {} PersistentVolumeClaimTemplate.spec

end Rollout.Kube
