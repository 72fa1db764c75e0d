import Rollout.Kube.Value

/-!
What objects have in common: identity, labels, annotations and ownership, conditions that they are
in, and the ways to refer to other objects, by name or by their labels.

All records of this and of the following modules hold every field of their type. The one exception
is the set of fields in `ManagedFieldsEntry`.
-/

namespace Rollout.Kube

open Fields (object optional zeroed)

/-- The object that an object belongs to. -/
structure OwnerReference where
  apiVersion : String := ""
  blockOwnerDeletion : Option Bool := none
  controller : Option Bool := none
  kind : String := ""
  name : String := ""
  uid : String := ""

def OwnerReference.codec : Codec OwnerReference := object <|
  OwnerReference.mk <$> zeroed "apiVersion" .text "" OwnerReference.apiVersion
    <*> optional "blockOwnerDeletion" .bool OwnerReference.blockOwnerDeletion
    <*> optional "controller" .bool OwnerReference.controller
    <*> zeroed "kind" .text "" OwnerReference.kind
    <*> zeroed "name" .text "" OwnerReference.name
    <*> zeroed "uid" .text "" OwnerReference.uid

/-- Who has set fields of an object, and when. Which fields these are is left out: their set may be
any JSON value, and nothing looks at it. -/
structure ManagedFieldsEntry where
  apiVersion : Option String := none
  fieldsType : Option String := none
  manager : Option String := none
  operation : Option String := none
  subresource : Option String := none
  time : Option Time := none

def ManagedFieldsEntry.codec : Codec ManagedFieldsEntry := object <|
  ManagedFieldsEntry.mk <$> optional "apiVersion" .text ManagedFieldsEntry.apiVersion
    <*> optional "fieldsType" .text ManagedFieldsEntry.fieldsType
    <*> optional "manager" .text ManagedFieldsEntry.manager
    <*> optional "operation" .text ManagedFieldsEntry.operation
    <*> optional "subresource" .text ManagedFieldsEntry.subresource
    <*> optional "time" Time.codec ManagedFieldsEntry.time

/-- The metadata of an object. -/
structure ObjectMeta where
  annotations : Option (KeyMap String) := none
  creationTimestamp : Option Time := none
  deletionGracePeriodSeconds : Option Int64 := none
  deletionTimestamp : Option Time := none
  finalizers : Option (List String) := none
  generateName : Option String := none
  generation : Option Int64 := none
  labels : Option (KeyMap String) := none
  managedFields : Option (List ManagedFieldsEntry) := none
  name : Option String := none
  namespaceName : Option String := none
  ownerReferences : Option (List OwnerReference) := none
  resourceVersion : Option String := none
  selfLink : Option String := none
  uid : Option String := none

def ObjectMeta.codec : Codec ObjectMeta := object <|
  ObjectMeta.mk <$> optional "annotations" (.map .text) ObjectMeta.annotations
    <*> optional "creationTimestamp" Time.codec ObjectMeta.creationTimestamp
    <*> optional "deletionGracePeriodSeconds" .int64 ObjectMeta.deletionGracePeriodSeconds
    <*> optional "deletionTimestamp" Time.codec ObjectMeta.deletionTimestamp
    <*> optional "finalizers" (.list .text) ObjectMeta.finalizers
    <*> optional "generateName" .text ObjectMeta.generateName
    <*> optional "generation" .int64 ObjectMeta.generation
    <*> optional "labels" (.map .text) ObjectMeta.labels
    <*> optional "managedFields" (.list ManagedFieldsEntry.codec) ObjectMeta.managedFields
    <*> optional "name" .text ObjectMeta.name
    <*> optional "namespace" .text ObjectMeta.namespaceName
    <*> optional "ownerReferences" (.list OwnerReference.codec) ObjectMeta.ownerReferences
    <*> optional "resourceVersion" .text ObjectMeta.resourceVersion
    <*> optional "selfLink" .text ObjectMeta.selfLink
    <*> optional "uid" .text ObjectMeta.uid

/-- A condition on the value of one label. -/
structure LabelSelectorRequirement where
  key : String := ""
  operator : String := ""
  values : Option (List String) := none

def LabelSelectorRequirement.codec : Codec LabelSelectorRequirement := object <|
  LabelSelectorRequirement.mk <$> zeroed "key" .text "" LabelSelectorRequirement.key
    <*> zeroed "operator" .text "" LabelSelectorRequirement.operator
    <*> optional "values" (.list .text) LabelSelectorRequirement.values

/-- A selection of objects by their labels. -/
structure LabelSelector where
  matchExpressions : Option (List LabelSelectorRequirement) := none
  matchLabels : Option (KeyMap String) := none

def LabelSelector.codec : Codec LabelSelector := object <|
  LabelSelector.mk <$> optional "matchExpressions" (.list LabelSelectorRequirement.codec)
      LabelSelector.matchExpressions
    <*> optional "matchLabels" (.map .text) LabelSelector.matchLabels

/-- The name of an object in the same namespace. -/
structure LocalObjectReference where
  name : String := ""

def LocalObjectReference.codec : Codec LocalObjectReference := object <|
  LocalObjectReference.mk <$> zeroed "name" .text "" LocalObjectReference.name

/-- An object of some kind in the same namespace. -/
structure TypedLocalObjectReference where
  apiGroup : Option String := none
  kind : String := ""
  name : String := ""

def TypedLocalObjectReference.codec : Codec TypedLocalObjectReference := object <|
  TypedLocalObjectReference.mk <$> optional "apiGroup" .text TypedLocalObjectReference.apiGroup
    <*> zeroed "kind" .text "" TypedLocalObjectReference.kind
    <*> zeroed "name" .text "" TypedLocalObjectReference.name

/-- An object of some kind in some namespace. -/
structure TypedObjectReference where
  apiGroup : Option String := none
  kind : String := ""
  name : String := ""
  namespaceName : Option String := none

def TypedObjectReference.codec : Codec TypedObjectReference := object <|
  TypedObjectReference.mk <$> optional "apiGroup" .text TypedObjectReference.apiGroup
    <*> zeroed "kind" .text "" TypedObjectReference.kind
    <*> zeroed "name" .text "" TypedObjectReference.name
    <*> optional "namespace" .text TypedObjectReference.namespaceName

/-- A condition that an object is in or not, with a name for the reason. -/
structure Condition where
  lastTransitionTime : Time := .epoch
  message : String := ""
  observedGeneration : Option Int64 := none
  reason : String := ""
  status : String := ""
  type : String := ""

def Condition.codec : Codec Condition := object <|
  Condition.mk <$> zeroed "lastTransitionTime" Time.codec .epoch Condition.lastTransitionTime
    <*> zeroed "message" .text "" Condition.message
    <*> optional "observedGeneration" .int64 Condition.observedGeneration
    <*> zeroed "reason" .text "" Condition.reason
    <*> zeroed "status" .text "" Condition.status
    <*> zeroed "type" .text "" Condition.type

end Rollout.Kube
