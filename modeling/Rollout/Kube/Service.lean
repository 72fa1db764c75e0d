import Rollout.Kube.Meta

/-!
Services, which give pods a stable address.
-/

namespace Rollout.Kube

open Fields (fixed object optional zeroed)

/-- A port of a service and where it leads. -/
structure ServicePort where
  appProtocol : Option String := none
  name : Option String := none
  nodePort : Option Int32 := none
  port : Int32 := 0
  protocol : Option String := none
  targetPort : Option IntOrText := none

def ServicePort.codec : Codec ServicePort := object <|
  ServicePort.mk <$> optional "appProtocol" .text ServicePort.appProtocol
    <*> optional "name" .text ServicePort.name
    <*> optional "nodePort" .int32 ServicePort.nodePort
    <*> zeroed "port" .int32 0 ServicePort.port
    <*> optional "protocol" .text ServicePort.protocol
    <*> optional "targetPort" IntOrText.codec ServicePort.targetPort

/-- How long requests of one client go to the same pod. -/
structure ClientIpConfig where
  timeoutSeconds : Option Int32 := none

def ClientIpConfig.codec : Codec ClientIpConfig := object <|
  ClientIpConfig.mk <$> optional "timeoutSeconds" .int32 ClientIpConfig.timeoutSeconds

/-- What is meant by requests that belong together. -/
structure SessionAffinityConfig where
  clientIp : Option ClientIpConfig := none

def SessionAffinityConfig.codec : Codec SessionAffinityConfig := object <|
  SessionAffinityConfig.mk <$> optional "clientIP" ClientIpConfig.codec
      SessionAffinityConfig.clientIp

/-- What a service exposes. -/
structure ServiceSpec where
  allocateLoadBalancerNodePorts : Option Bool := none
  clusterIp : Option String := none
  clusterIps : Option (List String) := none
  externalIps : Option (List String) := none
  externalName : Option String := none
  externalTrafficPolicy : Option String := none
  healthCheckNodePort : Option Int32 := none
  internalTrafficPolicy : Option String := none
  ipFamilies : Option (List String) := none
  ipFamilyPolicy : Option String := none
  loadBalancerClass : Option String := none
  loadBalancerIp : Option String := none
  loadBalancerSourceRanges : Option (List String) := none
  ports : Option (List ServicePort) := none
  publishNotReadyAddresses : Option Bool := none
  selector : Option (KeyMap String) := none
  sessionAffinity : Option String := none
  sessionAffinityConfig : Option SessionAffinityConfig := none
  trafficDistribution : Option String := none
  type : Option String := none

def ServiceSpec.codec : Codec ServiceSpec := object <|
  ServiceSpec.mk <$> optional "allocateLoadBalancerNodePorts" .bool
      ServiceSpec.allocateLoadBalancerNodePorts
    <*> optional "clusterIP" .text ServiceSpec.clusterIp
    <*> optional "clusterIPs" (.list .text) ServiceSpec.clusterIps
    <*> optional "externalIPs" (.list .text) ServiceSpec.externalIps
    <*> optional "externalName" .text ServiceSpec.externalName
    <*> optional "externalTrafficPolicy" .text ServiceSpec.externalTrafficPolicy
    <*> optional "healthCheckNodePort" .int32 ServiceSpec.healthCheckNodePort
    <*> optional "internalTrafficPolicy" .text ServiceSpec.internalTrafficPolicy
    <*> optional "ipFamilies" (.list .text) ServiceSpec.ipFamilies
    <*> optional "ipFamilyPolicy" .text ServiceSpec.ipFamilyPolicy
    <*> optional "loadBalancerClass" .text ServiceSpec.loadBalancerClass
    <*> optional "loadBalancerIP" .text ServiceSpec.loadBalancerIp
    <*> optional "loadBalancerSourceRanges" (.list .text) ServiceSpec.loadBalancerSourceRanges
    <*> optional "ports" (.list ServicePort.codec) ServiceSpec.ports
    <*> optional "publishNotReadyAddresses" .bool ServiceSpec.publishNotReadyAddresses
    <*> optional "selector" (.map .text) ServiceSpec.selector
    <*> optional "sessionAffinity" .text ServiceSpec.sessionAffinity
    <*> optional "sessionAffinityConfig" SessionAffinityConfig.codec
      ServiceSpec.sessionAffinityConfig
    <*> optional "trafficDistribution" .text ServiceSpec.trafficDistribution
    <*> optional "type" .text ServiceSpec.type

/-- A port of a load balancer, and what is wrong with it. -/
structure PortStatus where
  error : Option String := none
  port : Int32 := 0
  protocol : String := ""

def PortStatus.codec : Codec PortStatus := object <|
  PortStatus.mk <$> optional "error" .text PortStatus.error
    <*> zeroed "port" .int32 0 PortStatus.port
    <*> zeroed "protocol" .text "" PortStatus.protocol

/-- An address of a load balancer. -/
structure LoadBalancerIngress where
  hostname : Option String := none
  ip : Option String := none
  ipMode : Option String := none
  ports : Option (List PortStatus) := none

def LoadBalancerIngress.codec : Codec LoadBalancerIngress := object <|
  LoadBalancerIngress.mk <$> optional "hostname" .text LoadBalancerIngress.hostname
    <*> optional "ip" .text LoadBalancerIngress.ip
    <*> optional "ipMode" .text LoadBalancerIngress.ipMode
    <*> optional "ports" (.list PortStatus.codec) LoadBalancerIngress.ports

/-- The state of a load balancer. -/
structure LoadBalancerStatus where
  ingress : Option (List LoadBalancerIngress) := none

def LoadBalancerStatus.codec : Codec LoadBalancerStatus := object <|
  LoadBalancerStatus.mk <$> optional "ingress" (.list LoadBalancerIngress.codec)
      LoadBalancerStatus.ingress

/-- The state of a service. -/
structure ServiceStatus where
  conditions : Option (List Condition) := none
  loadBalancer : Option LoadBalancerStatus := none

def ServiceStatus.codec : Codec ServiceStatus := object <|
  ServiceStatus.mk <$> optional "conditions" (.list Condition.codec) ServiceStatus.conditions
    <*> optional "loadBalancer" LoadBalancerStatus.codec ServiceStatus.loadBalancer

/-- A service. -/
structure Service where
  metadata : ObjectMeta := {}
  spec : Option ServiceSpec := none
  status : Option ServiceStatus := none

def Service.codec : Codec Service := object <|
  (fun _ _ => Service.mk) <$> fixed "apiVersion" "v1"
    <*> fixed "kind" "Service"
    <*> zeroed "metadata" ObjectMeta.codec {} Service.metadata
    <*> optional "spec" ServiceSpec.codec Service.spec
    <*> optional "status" ServiceStatus.codec Service.status

end Rollout.Kube
