/-!
Definitions of custom resources: the group, version and names under which a cluster knows them.
-/

namespace Rollout.Kube

/-- Whether objects of a kind belong to a namespace. -/
inductive Scope where
  | cluster
  | namespaced
deriving DecidableEq

def Scope.name : Scope → String
  | .cluster => "Cluster"
  | .namespaced => "Namespaced"

structure Definition where
  group : String
  version : String
  kind : String
  singular : String
  plural : String
  scope : Scope
deriving DecidableEq

namespace Definition

/-- The version as objects name it. -/
def apiVersion (definition : Definition) : String := definition.group ++ "/" ++ definition.version

/-- The name of the definition itself. -/
def name (definition : Definition) : String := definition.plural ++ "." ++ definition.group

def lokiStack : Definition where
  group := "loki.grafana.com"
  version := "v1beta1"
  kind := "LokiStack"
  singular := "lokistack"
  plural := "lokistacks"
  scope := .namespaced

def serviceMonitor : Definition where
  group := "monitoring.coreos.com"
  version := "v1"
  kind := "ServiceMonitor"
  singular := "servicemonitor"
  plural := "servicemonitors"
  scope := .namespaced

def all : List Definition := [lokiStack, serviceMonitor]

/-- The definition of a kind. -/
def ofKind? (kind : String) : Option Definition := all.find? (·.kind = kind)

end Definition

end Rollout.Kube
