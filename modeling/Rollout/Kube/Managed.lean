import Rollout.Kube.Deployment
import Rollout.Kube.Dynamic
import Rollout.Kube.Meta
import Rollout.Kube.Service
import Rollout.Kube.ServiceMonitor
import Rollout.Kube.StatefulSet

/-!
The kinds of objects that the operator manages, and objects of these kinds. Beside services,
workloads and service monitors, these are config maps, which hold files by name.
-/

namespace Rollout.Kube

open Fields (fixed object optional zeroed)

/-- Named texts and byte strings. -/
structure ConfigMap where
  binaryData : Option (KeyMap (List UInt8)) := none
  data : Option (KeyMap String) := none
  immutable : Option Bool := none
  metadata : ObjectMeta := {}

def ConfigMap.codec : Codec ConfigMap := object <|
  (fun _ _ => ConfigMap.mk) <$> fixed "apiVersion" "v1"
    <*> fixed "kind" "ConfigMap"
    <*> optional "binaryData" (.map bytesCodec) ConfigMap.binaryData
    <*> optional "data" (.map .text) ConfigMap.data
    <*> optional "immutable" .bool ConfigMap.immutable
    <*> zeroed "metadata" ObjectMeta.codec {} ConfigMap.metadata

inductive Kind where
  | configMap
  | service
  | deployment
  | statefulSet
  | serviceMonitor
deriving DecidableEq

namespace Kind

def all : List Kind := [configMap, service, deployment, statefulSet, serviceMonitor]

def name : Kind → String
  | .configMap => "ConfigMap"
  | .service => "Service"
  | .deployment => "Deployment"
  | .statefulSet => "StatefulSet"
  | .serviceMonitor => "ServiceMonitor"

def apiVersion : Kind → String
  | .configMap => "v1"
  | .service => "v1"
  | .deployment => "apps/v1"
  | .statefulSet => "apps/v1"
  | .serviceMonitor => "monitoring.coreos.com/v1"

def types (kind : Kind) : TypeMeta := ⟨kind.apiVersion, kind.name⟩

/-- The kind of a type, if it is a managed one. -/
def ofTypes? (types : TypeMeta) : Option Kind := all.find? (·.types = types)

end Kind

inductive Managed where
  | configMap (object : ConfigMap)
  | service (object : Service)
  | deployment (object : Deployment)
  | statefulSet (object : StatefulSet)
  | serviceMonitor (object : ServiceMonitor)

namespace Managed

def kind : Managed → Kind
  | .configMap _ => .configMap
  | .service _ => .service
  | .deployment _ => .deployment
  | .statefulSet _ => .statefulSet
  | .serviceMonitor _ => .serviceMonitor

def metadata : Managed → ObjectMeta
  | .configMap object => object.metadata
  | .service object => object.metadata
  | .deployment object => object.metadata
  | .statefulSet object => object.metadata
  | .serviceMonitor object => object.metadata

/-- Reads an object of a kind. -/
def read? (kind : Kind) (value : Json) : Option Managed :=
  match kind with
  | .configMap => (ConfigMap.codec.read value).map .configMap
  | .service => (Service.codec.read value).map .service
  | .deployment => (Deployment.codec.read value).map .deployment
  | .statefulSet => (StatefulSet.codec.read value).map .statefulSet
  | .serviceMonitor => (ServiceMonitor.codec.read value).map .serviceMonitor

def write : Managed → Json
  | .configMap object => ConfigMap.codec.write object
  | .service object => Service.codec.write object
  | .deployment object => Deployment.codec.write object
  | .statefulSet object => StatefulSet.codec.write object
  | .serviceMonitor object => ServiceMonitor.codec.write object

end Managed

end Rollout.Kube
