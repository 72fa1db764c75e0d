import Rollout.Kube.Container
import Rollout.Kube.Scheduling
import Rollout.Kube.Volume

/-!
Pods and the templates that workloads create them from.
-/

namespace Rollout.Kube

open Fields (object optional zeroed)

/-- A setting for looking up names. -/
structure PodDnsConfigOption where
  name : Option String := none
  value : Option String := none

def PodDnsConfigOption.codec : Codec PodDnsConfigOption := object <|
  PodDnsConfigOption.mk <$> optional "name" .text PodDnsConfigOption.name
    <*> optional "value" .text PodDnsConfigOption.value

/-- How names are looked up in a pod. -/
structure PodDnsConfig where
  nameservers : Option (List String) := none
  options : Option (List PodDnsConfigOption) := none
  searches : Option (List String) := none

def PodDnsConfig.codec : Codec PodDnsConfig := object <|
  PodDnsConfig.mk <$> optional "nameservers" (.list .text) PodDnsConfig.nameservers
    <*> optional "options" (.list PodDnsConfigOption.codec) PodDnsConfig.options
    <*> optional "searches" (.list .text) PodDnsConfig.searches

/-- Names for an address, known inside a pod. -/
structure HostAlias where
  hostnames : Option (List String) := none
  ip : String := ""

def HostAlias.codec : Codec HostAlias := object <|
  HostAlias.mk <$> optional "hostnames" (.list .text) HostAlias.hostnames
    <*> zeroed "ip" .text "" HostAlias.ip

/-- The operating system of a pod. -/
structure PodOs where
  name : String := ""

def PodOs.codec : Codec PodOs := object <|
  PodOs.mk <$> zeroed "name" .text "" PodOs.name

/-- A condition that counts for whether a pod is ready. -/
structure PodReadinessGate where
  conditionType : String := ""

def PodReadinessGate.codec : Codec PodReadinessGate := object <|
  PodReadinessGate.mk <$> zeroed "conditionType" .text "" PodReadinessGate.conditionType

/-- A claim for a resource that the containers of a pod may use. -/
structure PodResourceClaim where
  name : String := ""
  resourceClaimName : Option String := none
  resourceClaimTemplateName : Option String := none

def PodResourceClaim.codec : Codec PodResourceClaim := object <|
  PodResourceClaim.mk <$> zeroed "name" .text "" PodResourceClaim.name
    <*> optional "resourceClaimName" .text PodResourceClaim.resourceClaimName
    <*> optional "resourceClaimTemplateName" .text PodResourceClaim.resourceClaimTemplateName

/-- Something that a pod waits for before it is scheduled. -/
structure PodSchedulingGate where
  name : String := ""

def PodSchedulingGate.codec : Codec PodSchedulingGate := object <|
  PodSchedulingGate.mk <$> zeroed "name" .text "" PodSchedulingGate.name

/-- The workload that a pod is scheduled with. -/
structure WorkloadReference where
  name : String := ""
  podGroup : String := ""
  podGroupReplicaKey : Option String := none

def WorkloadReference.codec : Codec WorkloadReference := object <|
  WorkloadReference.mk <$> zeroed "name" .text "" WorkloadReference.name
    <*> zeroed "podGroup" .text "" WorkloadReference.podGroup
    <*> optional "podGroupReplicaKey" .text WorkloadReference.podGroupReplicaKey

/-- What a pod runs. -/
structure PodSpec where
  activeDeadlineSeconds : Option Int64 := none
  affinity : Option Affinity := none
  automountServiceAccountToken : Option Bool := none
  containers : List Container := []
  dnsConfig : Option PodDnsConfig := none
  dnsPolicy : Option String := none
  enableServiceLinks : Option Bool := none
  ephemeralContainers : Option (List EphemeralContainer) := none
  hostAliases : Option (List HostAlias) := none
  hostIpc : Option Bool := none
  hostNetwork : Option Bool := none
  hostPid : Option Bool := none
  hostUsers : Option Bool := none
  hostname : Option String := none
  hostnameOverride : Option String := none
  imagePullSecrets : Option (List LocalObjectReference) := none
  initContainers : Option (List Container) := none
  nodeName : Option String := none
  nodeSelector : Option (KeyMap String) := none
  os : Option PodOs := none
  overhead : Option (KeyMap Quantity) := none
  preemptionPolicy : Option String := none
  priority : Option Int32 := none
  priorityClassName : Option String := none
  readinessGates : Option (List PodReadinessGate) := none
  resourceClaims : Option (List PodResourceClaim) := none
  resources : Option ResourceRequirements := none
  restartPolicy : Option String := none
  runtimeClassName : Option String := none
  schedulerName : Option String := none
  schedulingGates : Option (List PodSchedulingGate) := none
  securityContext : Option PodSecurityContext := none
  serviceAccount : Option String := none
  serviceAccountName : Option String := none
  setHostnameAsFqdn : Option Bool := none
  shareProcessNamespace : Option Bool := none
  subdomain : Option String := none
  terminationGracePeriodSeconds : Option Int64 := none
  tolerations : Option (List Toleration) := none
  topologySpreadConstraints : Option (List TopologySpreadConstraint) := none
  volumes : Option (List Volume) := none
  workloadRef : Option WorkloadReference := none

def PodSpec.codec : Codec PodSpec := object <|
  PodSpec.mk <$> optional "activeDeadlineSeconds" .int64 PodSpec.activeDeadlineSeconds
    <*> optional "affinity" Affinity.codec PodSpec.affinity
    <*> optional "automountServiceAccountToken" .bool PodSpec.automountServiceAccountToken
    <*> zeroed "containers" (.list Container.codec) [] PodSpec.containers
    <*> optional "dnsConfig" PodDnsConfig.codec PodSpec.dnsConfig
    <*> optional "dnsPolicy" .text PodSpec.dnsPolicy
    <*> optional "enableServiceLinks" .bool PodSpec.enableServiceLinks
    <*> optional "ephemeralContainers" (.list EphemeralContainer.codec) PodSpec.ephemeralContainers
    <*> optional "hostAliases" (.list HostAlias.codec) PodSpec.hostAliases
    <*> optional "hostIPC" .bool PodSpec.hostIpc
    <*> optional "hostNetwork" .bool PodSpec.hostNetwork
    <*> optional "hostPID" .bool PodSpec.hostPid
    <*> optional "hostUsers" .bool PodSpec.hostUsers
    <*> optional "hostname" .text PodSpec.hostname
    <*> optional "hostnameOverride" .text PodSpec.hostnameOverride
    <*> optional "imagePullSecrets" (.list LocalObjectReference.codec) PodSpec.imagePullSecrets
    <*> optional "initContainers" (.list Container.codec) PodSpec.initContainers
    <*> optional "nodeName" .text PodSpec.nodeName
    <*> optional "nodeSelector" (.map .text) PodSpec.nodeSelector
    <*> optional "os" PodOs.codec PodSpec.os
    <*> optional "overhead" (.map Quantity.codec) PodSpec.overhead
    <*> optional "preemptionPolicy" .text PodSpec.preemptionPolicy
    <*> optional "priority" .int32 PodSpec.priority
    <*> optional "priorityClassName" .text PodSpec.priorityClassName
    <*> optional "readinessGates" (.list PodReadinessGate.codec) PodSpec.readinessGates
    <*> optional "resourceClaims" (.list PodResourceClaim.codec) PodSpec.resourceClaims
    <*> optional "resources" ResourceRequirements.codec PodSpec.resources
    <*> optional "restartPolicy" .text PodSpec.restartPolicy
    <*> optional "runtimeClassName" .text PodSpec.runtimeClassName
    <*> optional "schedulerName" .text PodSpec.schedulerName
    <*> optional "schedulingGates" (.list PodSchedulingGate.codec) PodSpec.schedulingGates
    <*> optional "securityContext" PodSecurityContext.codec PodSpec.securityContext
    <*> optional "serviceAccount" .text PodSpec.serviceAccount
    <*> optional "serviceAccountName" .text PodSpec.serviceAccountName
    <*> optional "setHostnameAsFQDN" .bool PodSpec.setHostnameAsFqdn
    <*> optional "shareProcessNamespace" .bool PodSpec.shareProcessNamespace
    <*> optional "subdomain" .text PodSpec.subdomain
    <*> optional "terminationGracePeriodSeconds" .int64 PodSpec.terminationGracePeriodSeconds
    <*> optional "tolerations" (.list Toleration.codec) PodSpec.tolerations
    <*> optional "topologySpreadConstraints" (.list TopologySpreadConstraint.codec)
      PodSpec.topologySpreadConstraints
    <*> optional "volumes" (.list Volume.codec) PodSpec.volumes
    <*> optional "workloadRef" WorkloadReference.codec PodSpec.workloadRef

/-- A template of pods. -/
structure PodTemplate where
  metadata : Option ObjectMeta := none
  spec : Option PodSpec := none

def PodTemplate.codec : Codec PodTemplate := object <|
  PodTemplate.mk <$> optional "metadata" ObjectMeta.codec PodTemplate.metadata
    <*> optional "spec" PodSpec.codec PodTemplate.spec

end Rollout.Kube
