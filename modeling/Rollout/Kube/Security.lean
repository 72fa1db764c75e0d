import Rollout.Codec

/-!
What pods and containers are allowed to do, and as whom they run.
-/

namespace Rollout.Kube

open Fields (object optional zeroed)

/-- A profile that restricts the calls of a process, predefined or in a file of the node. -/
structure SecurityProfile where
  localhostProfile : Option String := none
  type : String := ""

def SecurityProfile.codec : Codec SecurityProfile := object <|
  SecurityProfile.mk <$> optional "localhostProfile" .text SecurityProfile.localhostProfile
    <*> zeroed "type" .text "" SecurityProfile.type

/-- The labels that SELinux puts on a process. -/
structure SeLinuxOptions where
  level : Option String := none
  role : Option String := none
  type : Option String := none
  user : Option String := none

def SeLinuxOptions.codec : Codec SeLinuxOptions := object <|
  SeLinuxOptions.mk <$> optional "level" .text SeLinuxOptions.level
    <*> optional "role" .text SeLinuxOptions.role
    <*> optional "type" .text SeLinuxOptions.type
    <*> optional "user" .text SeLinuxOptions.user

/-- As whom a process runs on Windows. -/
structure WindowsSecurityContext where
  gmsaCredentialSpec : Option String := none
  gmsaCredentialSpecName : Option String := none
  hostProcess : Option Bool := none
  runAsUserName : Option String := none

def WindowsSecurityContext.codec : Codec WindowsSecurityContext := object <|
  WindowsSecurityContext.mk <$> optional "gmsaCredentialSpec" .text
      WindowsSecurityContext.gmsaCredentialSpec
    <*> optional "gmsaCredentialSpecName" .text WindowsSecurityContext.gmsaCredentialSpecName
    <*> optional "hostProcess" .bool WindowsSecurityContext.hostProcess
    <*> optional "runAsUserName" .text WindowsSecurityContext.runAsUserName

/-- Privileges that a process gets and loses. -/
structure Capabilities where
  add : Option (List String) := none
  drop : Option (List String) := none

def Capabilities.codec : Codec Capabilities := object <|
  Capabilities.mk <$> optional "add" (.list .text) Capabilities.add
    <*> optional "drop" (.list .text) Capabilities.drop

/-- A parameter of the kernel. -/
structure Sysctl where
  name : String := ""
  value : String := ""

def Sysctl.codec : Codec Sysctl := object <|
  Sysctl.mk <$> zeroed "name" .text "" Sysctl.name
    <*> zeroed "value" .text "" Sysctl.value

/-- What all containers of a pod are allowed to do. -/
structure PodSecurityContext where
  appArmorProfile : Option SecurityProfile := none
  fsGroup : Option Int64 := none
  fsGroupChangePolicy : Option String := none
  runAsGroup : Option Int64 := none
  runAsNonRoot : Option Bool := none
  runAsUser : Option Int64 := none
  seLinuxChangePolicy : Option String := none
  seLinuxOptions : Option SeLinuxOptions := none
  seccompProfile : Option SecurityProfile := none
  supplementalGroups : Option (List Int64) := none
  supplementalGroupsPolicy : Option String := none
  sysctls : Option (List Sysctl) := none
  windowsOptions : Option WindowsSecurityContext := none

def PodSecurityContext.codec : Codec PodSecurityContext := object <|
  PodSecurityContext.mk <$> optional "appArmorProfile" SecurityProfile.codec
      PodSecurityContext.appArmorProfile
    <*> optional "fsGroup" .int64 PodSecurityContext.fsGroup
    <*> optional "fsGroupChangePolicy" .text PodSecurityContext.fsGroupChangePolicy
    <*> optional "runAsGroup" .int64 PodSecurityContext.runAsGroup
    <*> optional "runAsNonRoot" .bool PodSecurityContext.runAsNonRoot
    <*> optional "runAsUser" .int64 PodSecurityContext.runAsUser
    <*> optional "seLinuxChangePolicy" .text PodSecurityContext.seLinuxChangePolicy
    <*> optional "seLinuxOptions" SeLinuxOptions.codec PodSecurityContext.seLinuxOptions
    <*> optional "seccompProfile" SecurityProfile.codec PodSecurityContext.seccompProfile
    <*> optional "supplementalGroups" (.list .int64) PodSecurityContext.supplementalGroups
    <*> optional "supplementalGroupsPolicy" .text PodSecurityContext.supplementalGroupsPolicy
    <*> optional "sysctls" (.list Sysctl.codec) PodSecurityContext.sysctls
    <*> optional "windowsOptions" WindowsSecurityContext.codec PodSecurityContext.windowsOptions

/-- What one container is allowed to do. -/
structure SecurityContext where
  allowPrivilegeEscalation : Option Bool := none
  appArmorProfile : Option SecurityProfile := none
  capabilities : Option Capabilities := none
  privileged : Option Bool := none
  procMount : Option String := none
  readOnlyRootFilesystem : Option Bool := none
  runAsGroup : Option Int64 := none
  runAsNonRoot : Option Bool := none
  runAsUser : Option Int64 := none
  seLinuxOptions : Option SeLinuxOptions := none
  seccompProfile : Option SecurityProfile := none
  windowsOptions : Option WindowsSecurityContext := none

def SecurityContext.codec : Codec SecurityContext := object <|
  SecurityContext.mk <$> optional "allowPrivilegeEscalation" .bool
      SecurityContext.allowPrivilegeEscalation
    <*> optional "appArmorProfile" SecurityProfile.codec SecurityContext.appArmorProfile
    <*> optional "capabilities" Capabilities.codec SecurityContext.capabilities
    <*> optional "privileged" .bool SecurityContext.privileged
    <*> optional "procMount" .text SecurityContext.procMount
    <*> optional "readOnlyRootFilesystem" .bool SecurityContext.readOnlyRootFilesystem
    <*> optional "runAsGroup" .int64 SecurityContext.runAsGroup
    <*> optional "runAsNonRoot" .bool SecurityContext.runAsNonRoot
    <*> optional "runAsUser" .int64 SecurityContext.runAsUser
    <*> optional "seLinuxOptions" SeLinuxOptions.codec SecurityContext.seLinuxOptions
    <*> optional "seccompProfile" SecurityProfile.codec SecurityContext.seccompProfile
    <*> optional "windowsOptions" WindowsSecurityContext.codec SecurityContext.windowsOptions

end Rollout.Kube
