import Rollout.Kube.Pod
import Rollout.Kube.Service
import Rollout.Kube.ServiceMonitor
import Rollout.Stack.Spec
import Rollout.Text.Quoted

/-!
Serving certificates. A service asks by an annotation for a certificate, which is issued into a
secret; the pods behind it mount that secret and serve TLS with it, and metrics are scraped against
the same certificate. Asking and mounting add what is missing and leave what is there.
-/

namespace Rollout.Tls

open Kube

/-- The annotation that names the secret for a serving certificate. -/
def certificateAnnotation : String := "service.beta.openshift.io/serving-cert-secret-name"

/-- Where the secret is mounted. -/
def secretDirectory : String := "/etc/proxy/secrets"

/-- The certificate authority that scrapers trust. -/
def authorityFile : String := "/etc/prometheus/configmaps/serving-certs-ca-bundle/service-ca.crt"

/-- The token that scrapers present. -/
def tokenFile : String := "/var/run/secrets/kubernetes.io/serviceaccount/token"

def metricsPort : String := "metrics"

/-- The secret for the certificate of a service. -/
def secretName (service : String) : String := service ++ "-metrics"

inductive Error where
  /-- The pods of the service have no container to serve TLS. -/
  | missingContainer (service : String)
deriving DecidableEq

def Error.message : Error → String
  | .missingContainer service =>
    "pod spec serving " ++ Text.Quoted.quote service ++ " has no container to enable TLS on"

/-- Asks for a certificate, unless the service asks for one already. -/
def requestCertificate (service : Service) (name : String) : Service :=
  let present := service.metadata.annotations.getD .empty
  let annotations :=
    if (present.find? certificateAnnotation).isSome then present
    else present.insert certificateAnnotation (secretName name)
  { service with metadata := { service.metadata with annotations := some annotations } }

/-- The arguments that make a server use the certificate. -/
def serverArguments : List String := [
  "-server.http-tls-cert-path=" ++ secretDirectory ++ "/tls.crt",
  "-server.http-tls-key-path=" ++ secretDirectory ++ "/tls.key"]

/-- A list with one more item at its end, unless some item matches already. -/
def addUnless {α : Type} (isPresent : α → Bool) (item : α) (items : List α) : List α :=
  if items.any isPresent then items else items ++ [item]

/-- The volume of a secret, under the name of the secret. -/
def secretVolume (secret : String) : Volume where
  name := secret
  secret := some { secretName := some secret }

def secretMount (secret : String) : VolumeMount where
  mountPath := secretDirectory
  name := secret
  readOnly := some false

/-- Mounts the secret into a container and makes its server use it. -/
def equipContainer (secret : String) (container : Container) : Container :=
  let mounts := addUnless (·.name == secret) (secretMount secret) (container.volumeMounts.getD [])
  let args := serverArguments.foldl
    (fun args argument => addUnless (· == argument) argument args) (container.args.getD [])
  { container with volumeMounts := some mounts, args := some args }

/-- Has the first container of the pods behind a service serve TLS. -/
def enable (pod : PodSpec) (service : String) : Except Error PodSpec :=
  match pod.containers with
  | [] => .error (.missingContainer service)
  | first :: rest =>
    let secret := secretName service
    .ok { pod with
      containers := equipContainer secret first :: rest
      volumes := some (addUnless (·.name == secret) (secretVolume secret) (pod.volumes.getD [])) }

/-- How the metrics of a service are scraped, if they are. -/
def metricsEndpoint (flags : Stack.Flags) (service namespaceName : String) : Option Endpoint :=
  if !flags.serviceMonitors then none
  else if flags.scrapeOverTls then
    some {
      port := some metricsPort
      path := some "/metrics"
      scheme := some "https"
      bearerTokenFile := some tokenFile
      tlsConfig := some {
        caFile := some authorityFile
        serverName := some (service ++ "." ++ namespaceName ++ ".svc.cluster.local") } }
  else some { port := some metricsPort, path := some "/metrics", scheme := some "http" }

end Rollout.Tls
