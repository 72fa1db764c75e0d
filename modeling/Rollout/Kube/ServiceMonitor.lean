import Rollout.Kube.Definition
import Rollout.Kube.Meta

/-!
Service monitors, the custom resource that tells Prometheus which services to scrape and how. Only
the fields that the operator writes are modelled.
-/

namespace Rollout.Kube

open Fields (constant defaulted listed optional required strict)

/-- How a scraped endpoint proves who it is. -/
structure TlsConfig where
  caFile : Option String := none
  certFile : Option String := none
  keyFile : Option String := none
  serverName : Option String := none
deriving DecidableEq

def TlsConfig.codec : Codec TlsConfig := strict <|
  TlsConfig.mk <$> optional "caFile" .text TlsConfig.caFile
    <*> optional "certFile" .text TlsConfig.certFile
    <*> optional "keyFile" .text TlsConfig.keyFile
    <*> optional "serverName" .text TlsConfig.serverName

/-- A port and path to scrape. -/
structure Endpoint where
  port : Option String := none
  path : Option String := none
  scheme : Option String := none
  interval : Option String := none
  bearerTokenFile : Option String := none
  tlsConfig : Option TlsConfig := none
deriving DecidableEq

def Endpoint.codec : Codec Endpoint := strict <|
  Endpoint.mk <$> optional "port" .text Endpoint.port
    <*> optional "path" .text Endpoint.path
    <*> optional "scheme" .text Endpoint.scheme
    <*> optional "interval" .text Endpoint.interval
    <*> optional "bearerTokenFile" .text Endpoint.bearerTokenFile
    <*> optional "tlsConfig" TlsConfig.codec Endpoint.tlsConfig

/-- The namespaces to look for services in. -/
structure NamespaceSelector where
  any : Bool := false
  matchNames : List String := []
deriving DecidableEq

def NamespaceSelector.codec : Codec NamespaceSelector := strict <|
  NamespaceSelector.mk <$> defaulted "any" .bool false NamespaceSelector.any
    <*> listed "matchNames" (.list .text) NamespaceSelector.matchNames

/-- What a service monitor scrapes. -/
structure ServiceMonitorSpec where
  jobLabel : Option String := none
  endpoints : List Endpoint := []
  selector : LabelSelector := {}
  namespaceSelector : Option NamespaceSelector := none

def ServiceMonitorSpec.codec : Codec ServiceMonitorSpec := strict <|
  ServiceMonitorSpec.mk <$> optional "jobLabel" .text ServiceMonitorSpec.jobLabel
    <*> defaulted "endpoints" (.list Endpoint.codec) [] ServiceMonitorSpec.endpoints
    <*> required "selector" LabelSelector.codec ServiceMonitorSpec.selector
    <*> optional "namespaceSelector" NamespaceSelector.codec ServiceMonitorSpec.namespaceSelector

/-- A service monitor. -/
structure ServiceMonitor where
  metadata : ObjectMeta := {}
  spec : ServiceMonitorSpec := {}

def ServiceMonitor.codec : Codec ServiceMonitor := strict <|
  (fun _ _ => ServiceMonitor.mk) <$> constant "apiVersion" Definition.serviceMonitor.apiVersion
    <*> constant "kind" Definition.serviceMonitor.kind
    <*> required "metadata" ObjectMeta.codec ServiceMonitor.metadata
    <*> required "spec" ServiceMonitorSpec.codec ServiceMonitor.spec

end Rollout.Kube
