import Rollout.Kube.Environment
import Rollout.Kube.Security

/-!
Containers and what they are made of.
-/

namespace Rollout.Kube

open Fields (embed object optional zeroed)

/-- A claim of the pod for a resource, used by a container. -/
structure ResourceClaim where
  name : String := ""
  request : Option String := none

def ResourceClaim.codec : Codec ResourceClaim := object <|
  ResourceClaim.mk <$> zeroed "name" .text "" ResourceClaim.name
    <*> optional "request" .text ResourceClaim.request

/-- Computing resources that are asked for and granted at most. -/
structure ResourceRequirements where
  claims : Option (List ResourceClaim) := none
  limits : Option (KeyMap Quantity) := none
  requests : Option (KeyMap Quantity) := none

def ResourceRequirements.codec : Codec ResourceRequirements := object <|
  ResourceRequirements.mk <$> optional "claims" (.list ResourceClaim.codec)
      ResourceRequirements.claims
    <*> optional "limits" (.map Quantity.codec) ResourceRequirements.limits
    <*> optional "requests" (.map Quantity.codec) ResourceRequirements.requests

/-- A port that a container listens on. -/
structure ContainerPort where
  containerPort : Int32 := 0
  hostIp : Option String := none
  hostPort : Option Int32 := none
  name : Option String := none
  protocol : Option String := none

def ContainerPort.codec : Codec ContainerPort := object <|
  ContainerPort.mk <$> zeroed "containerPort" .int32 0 ContainerPort.containerPort
    <*> optional "hostIP" .text ContainerPort.hostIp
    <*> optional "hostPort" .int32 ContainerPort.hostPort
    <*> optional "name" .text ContainerPort.name
    <*> optional "protocol" .text ContainerPort.protocol

/-- A command that is run in a container. -/
structure ExecAction where
  command : Option (List String) := none

def ExecAction.codec : Codec ExecAction := object <|
  ExecAction.mk <$> optional "command" (.list .text) ExecAction.command

/-- A request to a gRPC health service. -/
structure GrpcAction where
  port : Int32 := 0
  service : Option String := none

def GrpcAction.codec : Codec GrpcAction := object <|
  GrpcAction.mk <$> zeroed "port" .int32 0 GrpcAction.port
    <*> optional "service" .text GrpcAction.service

/-- A header of a request. -/
structure HttpHeader where
  name : String := ""
  value : String := ""

def HttpHeader.codec : Codec HttpHeader := object <|
  HttpHeader.mk <$> zeroed "name" .text "" HttpHeader.name
    <*> zeroed "value" .text "" HttpHeader.value

/-- A request whose answer tells how a container is. -/
structure HttpGet where
  host : Option String := none
  httpHeaders : Option (List HttpHeader) := none
  path : Option String := none
  port : IntOrText := .number 0
  scheme : Option String := none

def HttpGet.codec : Codec HttpGet := object <|
  HttpGet.mk <$> optional "host" .text HttpGet.host
    <*> optional "httpHeaders" (.list HttpHeader.codec) HttpGet.httpHeaders
    <*> optional "path" .text HttpGet.path
    <*> zeroed "port" IntOrText.codec (.number 0) HttpGet.port
    <*> optional "scheme" .text HttpGet.scheme

/-- A connection to a port. -/
structure TcpSocketAction where
  host : Option String := none
  port : IntOrText := .number 0

def TcpSocketAction.codec : Codec TcpSocketAction := object <|
  TcpSocketAction.mk <$> optional "host" .text TcpSocketAction.host
    <*> zeroed "port" IntOrText.codec (.number 0) TcpSocketAction.port

/-- A pause. -/
structure SleepAction where
  seconds : Int64 := 0

def SleepAction.codec : Codec SleepAction := object <|
  SleepAction.mk <$> zeroed "seconds" .int64 0 SleepAction.seconds

/-- A repeated check of a container. -/
structure Probe where
  exec : Option ExecAction := none
  failureThreshold : Option Int32 := none
  grpc : Option GrpcAction := none
  httpGet : Option HttpGet := none
  initialDelaySeconds : Option Int32 := none
  periodSeconds : Option Int32 := none
  successThreshold : Option Int32 := none
  tcpSocket : Option TcpSocketAction := none
  terminationGracePeriodSeconds : Option Int64 := none
  timeoutSeconds : Option Int32 := none

def Probe.codec : Codec Probe := object <|
  Probe.mk <$> optional "exec" ExecAction.codec Probe.exec
    <*> optional "failureThreshold" .int32 Probe.failureThreshold
    <*> optional "grpc" GrpcAction.codec Probe.grpc
    <*> optional "httpGet" HttpGet.codec Probe.httpGet
    <*> optional "initialDelaySeconds" .int32 Probe.initialDelaySeconds
    <*> optional "periodSeconds" .int32 Probe.periodSeconds
    <*> optional "successThreshold" .int32 Probe.successThreshold
    <*> optional "tcpSocket" TcpSocketAction.codec Probe.tcpSocket
    <*> optional "terminationGracePeriodSeconds" .int64 Probe.terminationGracePeriodSeconds
    <*> optional "timeoutSeconds" .int32 Probe.timeoutSeconds

/-- What is done when a container starts or stops. -/
structure LifecycleHandler where
  exec : Option ExecAction := none
  httpGet : Option HttpGet := none
  sleep : Option SleepAction := none
  tcpSocket : Option TcpSocketAction := none

def LifecycleHandler.codec : Codec LifecycleHandler := object <|
  LifecycleHandler.mk <$> optional "exec" ExecAction.codec LifecycleHandler.exec
    <*> optional "httpGet" HttpGet.codec LifecycleHandler.httpGet
    <*> optional "sleep" SleepAction.codec LifecycleHandler.sleep
    <*> optional "tcpSocket" TcpSocketAction.codec LifecycleHandler.tcpSocket

/-- What is done around the life of a container. -/
structure Lifecycle where
  postStart : Option LifecycleHandler := none
  preStop : Option LifecycleHandler := none
  stopSignal : Option String := none

def Lifecycle.codec : Codec Lifecycle := object <|
  Lifecycle.mk <$> optional "postStart" LifecycleHandler.codec Lifecycle.postStart
    <*> optional "preStop" LifecycleHandler.codec Lifecycle.preStop
    <*> optional "stopSignal" .text Lifecycle.stopSignal

/-- Whether a container is restarted when a resource of it is resized. -/
structure ContainerResizePolicy where
  resourceName : String := ""
  restartPolicy : String := ""

def ContainerResizePolicy.codec : Codec ContainerResizePolicy := object <|
  ContainerResizePolicy.mk <$> zeroed "resourceName" .text "" ContainerResizePolicy.resourceName
    <*> zeroed "restartPolicy" .text "" ContainerResizePolicy.restartPolicy

/-- The exit codes that a rule is about. -/
structure ContainerRestartRuleOnExitCodes where
  operator : String := ""
  values : Option (List Int32) := none

def ContainerRestartRuleOnExitCodes.codec : Codec ContainerRestartRuleOnExitCodes := object <|
  ContainerRestartRuleOnExitCodes.mk <$> zeroed "operator" .text ""
      ContainerRestartRuleOnExitCodes.operator
    <*> optional "values" (.list .int32) ContainerRestartRuleOnExitCodes.values

/-- What is done when a container exits in some way. -/
structure ContainerRestartRule where
  action : String := ""
  exitCodes : Option ContainerRestartRuleOnExitCodes := none

def ContainerRestartRule.codec : Codec ContainerRestartRule := object <|
  ContainerRestartRule.mk <$> zeroed "action" .text "" ContainerRestartRule.action
    <*> optional "exitCodes" ContainerRestartRuleOnExitCodes.codec ContainerRestartRule.exitCodes

/-- A raw volume as a device of a container. -/
structure VolumeDevice where
  devicePath : String := ""
  name : String := ""

def VolumeDevice.codec : Codec VolumeDevice := object <|
  VolumeDevice.mk <$> zeroed "devicePath" .text "" VolumeDevice.devicePath
    <*> zeroed "name" .text "" VolumeDevice.name

/-- A volume inside the file system of a container. -/
structure VolumeMount where
  mountPath : String := ""
  mountPropagation : Option String := none
  name : String := ""
  readOnly : Option Bool := none
  recursiveReadOnly : Option String := none
  subPath : Option String := none
  subPathExpr : Option String := none

def VolumeMount.codec : Codec VolumeMount := object <|
  VolumeMount.mk <$> zeroed "mountPath" .text "" VolumeMount.mountPath
    <*> optional "mountPropagation" .text VolumeMount.mountPropagation
    <*> zeroed "name" .text "" VolumeMount.name
    <*> optional "readOnly" .bool VolumeMount.readOnly
    <*> optional "recursiveReadOnly" .text VolumeMount.recursiveReadOnly
    <*> optional "subPath" .text VolumeMount.subPath
    <*> optional "subPathExpr" .text VolumeMount.subPathExpr

/-- A container of a pod. -/
structure Container where
  args : Option (List String) := none
  command : Option (List String) := none
  env : Option (List EnvVar) := none
  envFrom : Option (List EnvFromSource) := none
  image : Option String := none
  imagePullPolicy : Option String := none
  lifecycle : Option Lifecycle := none
  livenessProbe : Option Probe := none
  name : String := ""
  ports : Option (List ContainerPort) := none
  readinessProbe : Option Probe := none
  resizePolicy : Option (List ContainerResizePolicy) := none
  resources : Option ResourceRequirements := none
  restartPolicy : Option String := none
  restartPolicyRules : Option (List ContainerRestartRule) := none
  securityContext : Option SecurityContext := none
  startupProbe : Option Probe := none
  stdin : Option Bool := none
  stdinOnce : Option Bool := none
  terminationMessagePath : Option String := none
  terminationMessagePolicy : Option String := none
  tty : Option Bool := none
  volumeDevices : Option (List VolumeDevice) := none
  volumeMounts : Option (List VolumeMount) := none
  workingDir : Option String := none

def Container.fields : Fields Container Container :=
  Container.mk <$> optional "args" (.list .text) Container.args
    <*> optional "command" (.list .text) Container.command
    <*> optional "env" (.list EnvVar.codec) Container.env
    <*> optional "envFrom" (.list EnvFromSource.codec) Container.envFrom
    <*> optional "image" .text Container.image
    <*> optional "imagePullPolicy" .text Container.imagePullPolicy
    <*> optional "lifecycle" Lifecycle.codec Container.lifecycle
    <*> optional "livenessProbe" Probe.codec Container.livenessProbe
    <*> zeroed "name" .text "" Container.name
    <*> optional "ports" (.list ContainerPort.codec) Container.ports
    <*> optional "readinessProbe" Probe.codec Container.readinessProbe
    <*> optional "resizePolicy" (.list ContainerResizePolicy.codec) Container.resizePolicy
    <*> optional "resources" ResourceRequirements.codec Container.resources
    <*> optional "restartPolicy" .text Container.restartPolicy
    <*> optional "restartPolicyRules" (.list ContainerRestartRule.codec)
      Container.restartPolicyRules
    <*> optional "securityContext" SecurityContext.codec Container.securityContext
    <*> optional "startupProbe" Probe.codec Container.startupProbe
    <*> optional "stdin" .bool Container.stdin
    <*> optional "stdinOnce" .bool Container.stdinOnce
    <*> optional "terminationMessagePath" .text Container.terminationMessagePath
    <*> optional "terminationMessagePolicy" .text Container.terminationMessagePolicy
    <*> optional "tty" .bool Container.tty
    <*> optional "volumeDevices" (.list VolumeDevice.codec) Container.volumeDevices
    <*> optional "volumeMounts" (.list VolumeMount.codec) Container.volumeMounts
    <*> optional "workingDir" .text Container.workingDir

def Container.codec : Codec Container := object fields

/-- A container that joins a running pod, perhaps to look at another one. -/
structure EphemeralContainer where
  container : Container := {}
  targetContainerName : Option String := none

def EphemeralContainer.codec : Codec EphemeralContainer := object <|
  EphemeralContainer.mk <$> embed Container.fields EphemeralContainer.container
    <*> optional "targetContainerName" .text EphemeralContainer.targetContainerName

end Rollout.Kube
