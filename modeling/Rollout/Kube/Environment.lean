import Rollout.Kube.Value

/-!
What containers find in their environment: variables with a value, and values that are looked up in
other objects, in files and in the pod itself.
-/

namespace Rollout.Kube

open Fields (object optional zeroed)

/-- A key of a config map or of a secret. -/
structure KeySelector where
  key : String := ""
  name : String := ""
  isOptional : Option Bool := none

def KeySelector.codec : Codec KeySelector := object <|
  KeySelector.mk <$> zeroed "key" .text "" KeySelector.key
    <*> zeroed "name" .text "" KeySelector.name
    <*> optional "optional" .bool KeySelector.isOptional

/-- A key in a file of variables on a volume. -/
structure FileKeySelector where
  key : String := ""
  isOptional : Option Bool := none
  path : String := ""
  volumeName : String := ""

def FileKeySelector.codec : Codec FileKeySelector := object <|
  FileKeySelector.mk <$> zeroed "key" .text "" FileKeySelector.key
    <*> optional "optional" .bool FileKeySelector.isOptional
    <*> zeroed "path" .text "" FileKeySelector.path
    <*> zeroed "volumeName" .text "" FileKeySelector.volumeName

/-- A field of the pod. -/
structure ObjectFieldSelector where
  apiVersion : Option String := none
  fieldPath : String := ""

def ObjectFieldSelector.codec : Codec ObjectFieldSelector := object <|
  ObjectFieldSelector.mk <$> optional "apiVersion" .text ObjectFieldSelector.apiVersion
    <*> zeroed "fieldPath" .text "" ObjectFieldSelector.fieldPath

/-- A resource of a container, in some unit. -/
structure ResourceFieldSelector where
  containerName : Option String := none
  divisor : Option Quantity := none
  resource : String := ""

def ResourceFieldSelector.codec : Codec ResourceFieldSelector := object <|
  ResourceFieldSelector.mk <$> optional "containerName" .text ResourceFieldSelector.containerName
    <*> optional "divisor" Quantity.codec ResourceFieldSelector.divisor
    <*> zeroed "resource" .text "" ResourceFieldSelector.resource

/-- Where the value of a variable is looked up. -/
structure EnvVarSource where
  configMapKeyRef : Option KeySelector := none
  fieldRef : Option ObjectFieldSelector := none
  fileKeyRef : Option FileKeySelector := none
  resourceFieldRef : Option ResourceFieldSelector := none
  secretKeyRef : Option KeySelector := none

def EnvVarSource.codec : Codec EnvVarSource := object <|
  EnvVarSource.mk <$> optional "configMapKeyRef" KeySelector.codec EnvVarSource.configMapKeyRef
    <*> optional "fieldRef" ObjectFieldSelector.codec EnvVarSource.fieldRef
    <*> optional "fileKeyRef" FileKeySelector.codec EnvVarSource.fileKeyRef
    <*> optional "resourceFieldRef" ResourceFieldSelector.codec EnvVarSource.resourceFieldRef
    <*> optional "secretKeyRef" KeySelector.codec EnvVarSource.secretKeyRef

/-- An environment variable. -/
structure EnvVar where
  name : String := ""
  value : Option String := none
  valueFrom : Option EnvVarSource := none

def EnvVar.codec : Codec EnvVar := object <|
  EnvVar.mk <$> zeroed "name" .text "" EnvVar.name
    <*> optional "value" .text EnvVar.value
    <*> optional "valueFrom" EnvVarSource.codec EnvVar.valueFrom

/-- A config map or a secret, each key of which is a variable. -/
structure EnvSource where
  name : String := ""
  isOptional : Option Bool := none

def EnvSource.codec : Codec EnvSource := object <|
  EnvSource.mk <$> zeroed "name" .text "" EnvSource.name
    <*> optional "optional" .bool EnvSource.isOptional

/-- Variables that are taken over together, with names that start in one way. -/
structure EnvFromSource where
  configMapRef : Option EnvSource := none
  start : Option String := none
  secretRef : Option EnvSource := none

def EnvFromSource.codec : Codec EnvFromSource := object <|
  EnvFromSource.mk <$> optional "configMapRef" EnvSource.codec EnvFromSource.configMapRef
    <*> optional "prefix" .text EnvFromSource.start
    <*> optional "secretRef" EnvSource.codec EnvFromSource.secretRef

end Rollout.Kube
