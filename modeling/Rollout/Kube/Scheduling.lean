import Rollout.Kube.Meta

/-!
Where pods may run: taints that they put up with, nodes and other pods that they want to be near to
or far from, and how they spread.
-/

namespace Rollout.Kube

open Fields (object optional zeroed)

/-- A taint that pods put up with. -/
structure Toleration where
  effect : Option String := none
  key : Option String := none
  operator : Option String := none
  tolerationSeconds : Option Int64 := none
  value : Option String := none

def Toleration.codec : Codec Toleration := object <|
  Toleration.mk <$> optional "effect" .text Toleration.effect
    <*> optional "key" .text Toleration.key
    <*> optional "operator" .text Toleration.operator
    <*> optional "tolerationSeconds" .int64 Toleration.tolerationSeconds
    <*> optional "value" .text Toleration.value

/-- A condition on one label or field of a node. -/
structure NodeSelectorRequirement where
  key : String := ""
  operator : String := ""
  values : Option (List String) := none

def NodeSelectorRequirement.codec : Codec NodeSelectorRequirement := object <|
  NodeSelectorRequirement.mk <$> zeroed "key" .text "" NodeSelectorRequirement.key
    <*> zeroed "operator" .text "" NodeSelectorRequirement.operator
    <*> optional "values" (.list .text) NodeSelectorRequirement.values

/-- Conditions on a node, all of which have to hold. -/
structure NodeSelectorTerm where
  matchExpressions : Option (List NodeSelectorRequirement) := none
  matchFields : Option (List NodeSelectorRequirement) := none

def NodeSelectorTerm.codec : Codec NodeSelectorTerm := object <|
  NodeSelectorTerm.mk <$> optional "matchExpressions" (.list NodeSelectorRequirement.codec)
      NodeSelectorTerm.matchExpressions
    <*> optional "matchFields" (.list NodeSelectorRequirement.codec) NodeSelectorTerm.matchFields

/-- The nodes that meet one of some terms. -/
structure NodeSelector where
  nodeSelectorTerms : List NodeSelectorTerm := []

def NodeSelector.codec : Codec NodeSelector := object <|
  NodeSelector.mk <$> zeroed "nodeSelectorTerms" (.list NodeSelectorTerm.codec) []
      NodeSelector.nodeSelectorTerms

/-- A term that counts for a node that meets it. -/
structure PreferredSchedulingTerm where
  preference : NodeSelectorTerm := {}
  weight : Int32 := 0

def PreferredSchedulingTerm.codec : Codec PreferredSchedulingTerm := object <|
  PreferredSchedulingTerm.mk <$> zeroed "preference" NodeSelectorTerm.codec {}
      PreferredSchedulingTerm.preference
    <*> zeroed "weight" .int32 0 PreferredSchedulingTerm.weight

/-- The nodes that a pod needs or would rather have. -/
structure NodeAffinity where
  preferredTerms : Option (List PreferredSchedulingTerm) := none
  requiredTerms : Option NodeSelector := none

def NodeAffinity.codec : Codec NodeAffinity := object <|
  NodeAffinity.mk <$> optional "preferredDuringSchedulingIgnoredDuringExecution"
      (.list PreferredSchedulingTerm.codec) NodeAffinity.preferredTerms
    <*> optional "requiredDuringSchedulingIgnoredDuringExecution" NodeSelector.codec
      NodeAffinity.requiredTerms

/-- Pods in one place with a pod, or in another one, where nodes with the same value of a label are
one place. -/
structure PodAffinityTerm where
  labelSelector : Option LabelSelector := none
  matchLabelKeys : Option (List String) := none
  mismatchLabelKeys : Option (List String) := none
  namespaceSelector : Option LabelSelector := none
  namespaces : Option (List String) := none
  topologyKey : String := ""

def PodAffinityTerm.codec : Codec PodAffinityTerm := object <|
  PodAffinityTerm.mk <$> optional "labelSelector" LabelSelector.codec PodAffinityTerm.labelSelector
    <*> optional "matchLabelKeys" (.list .text) PodAffinityTerm.matchLabelKeys
    <*> optional "mismatchLabelKeys" (.list .text) PodAffinityTerm.mismatchLabelKeys
    <*> optional "namespaceSelector" LabelSelector.codec PodAffinityTerm.namespaceSelector
    <*> optional "namespaces" (.list .text) PodAffinityTerm.namespaces
    <*> zeroed "topologyKey" .text "" PodAffinityTerm.topologyKey

/-- A term that counts for a node by its weight. -/
structure WeightedPodAffinityTerm where
  podAffinityTerm : PodAffinityTerm := {}
  weight : Int32 := 0

def WeightedPodAffinityTerm.codec : Codec WeightedPodAffinityTerm := object <|
  WeightedPodAffinityTerm.mk <$> zeroed "podAffinityTerm" PodAffinityTerm.codec {}
      WeightedPodAffinityTerm.podAffinityTerm
    <*> zeroed "weight" .int32 0 WeightedPodAffinityTerm.weight

/-- The pods that a pod needs or would rather have in its place. The pods that it wants elsewhere
are described in the same way. -/
structure PodAffinity where
  preferredTerms : Option (List WeightedPodAffinityTerm) := none
  requiredTerms : Option (List PodAffinityTerm) := none

def PodAffinity.codec : Codec PodAffinity := object <|
  PodAffinity.mk <$> optional "preferredDuringSchedulingIgnoredDuringExecution"
      (.list WeightedPodAffinityTerm.codec) PodAffinity.preferredTerms
    <*> optional "requiredDuringSchedulingIgnoredDuringExecution" (.list PodAffinityTerm.codec)
      PodAffinity.requiredTerms

/-- What a pod is drawn to and kept away from. -/
structure Affinity where
  nodeAffinity : Option NodeAffinity := none
  podAffinity : Option PodAffinity := none
  podAntiAffinity : Option PodAffinity := none

def Affinity.codec : Codec Affinity := object <|
  Affinity.mk <$> optional "nodeAffinity" NodeAffinity.codec Affinity.nodeAffinity
    <*> optional "podAffinity" PodAffinity.codec Affinity.podAffinity
    <*> optional "podAntiAffinity" PodAffinity.codec Affinity.podAntiAffinity

/-- How evenly pods spread over places. -/
structure TopologySpreadConstraint where
  labelSelector : Option LabelSelector := none
  matchLabelKeys : Option (List String) := none
  maxSkew : Int32 := 0
  minDomains : Option Int32 := none
  nodeAffinityPolicy : Option String := none
  nodeTaintsPolicy : Option String := none
  topologyKey : String := ""
  whenUnsatisfiable : String := ""

def TopologySpreadConstraint.codec : Codec TopologySpreadConstraint := object <|
  TopologySpreadConstraint.mk <$> optional "labelSelector" LabelSelector.codec
      TopologySpreadConstraint.labelSelector
    <*> optional "matchLabelKeys" (.list .text) TopologySpreadConstraint.matchLabelKeys
    <*> zeroed "maxSkew" .int32 0 TopologySpreadConstraint.maxSkew
    <*> optional "minDomains" .int32 TopologySpreadConstraint.minDomains
    <*> optional "nodeAffinityPolicy" .text TopologySpreadConstraint.nodeAffinityPolicy
    <*> optional "nodeTaintsPolicy" .text TopologySpreadConstraint.nodeTaintsPolicy
    <*> zeroed "topologyKey" .text "" TopologySpreadConstraint.topologyKey
    <*> zeroed "whenUnsatisfiable" .text "" TopologySpreadConstraint.whenUnsatisfiable

end Rollout.Kube
